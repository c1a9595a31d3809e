import TagTemplate.Editing.Run
import TagTemplate.Program.Basics
import TagTemplate.Program.Calculation
import TagTemplate.Program.Characters
import TagTemplate.Program.Copying
import TagTemplate.Program.Counting
import TagTemplate.Program.Excerpt
import TagTemplate.Program.Filing
import TagTemplate.Program.Ordering
import TagTemplate.Program.Reshaping
import TagTemplate.Program.Searching
import TagTemplate.Program.Wrapping
import TagTemplate.Shell.Evaluation

/-! Starting programs: where they are looked for, and what becomes of them. -/

namespace TagTemplate

abbrev Program := Starter → Process → Outcome

namespace Program

def named : List (String × Program) :=
  [("sh", Shell.run), ("dash", Shell.run), ("bash", Shell.run), ("env", Wrapping.env),
    ("nice", Wrapping.nice), ("nohup", Wrapping.nohup), ("timeout", Wrapping.timeout),
    ("xargs", Wrapping.xargs)] ++
    plain.map fun (name, run) => (name, fun _ => run)
where
  plain : List (String × (Process → Outcome)) :=
    [("cat", Copying.cat), ("tee", Copying.tee), ("head", Excerpt.head), ("tail", Excerpt.tail),
      ("cut", Excerpt.cut), ("wc", Counting.wc), ("nl", Counting.nl), ("seq", Counting.seq),
      ("sort", Ordering.sort), ("uniq", Ordering.uniq), ("rev", Ordering.rev),
      ("tac", Ordering.tac), ("tr", Characters.tr), ("grep", Searching.grep),
      ("sed", Editing.sed), ("ls", Filing.ls), ("mkdir", Filing.mkdir), ("rmdir", Filing.rmdir),
      ("rm", Filing.rm), ("touch", Filing.touch), ("chmod", Filing.chmod), ("cp", Filing.cp),
      ("mv", Filing.mv), ("ln", Filing.ln), ("true", Basics.succeed),
      ("false", Basics.fail), ("echo", Basics.echo), ("printf", Basics.printf),
      ("test", Basics.test), ("[", Basics.bracket), ("sleep", Basics.sleep),
      ("basename", Basics.basename), ("dirname", Basics.dirname), ("pwd", Basics.pwd),
      ("printenv", Basics.printenv), ("which", Basics.which), ("whoami", Basics.whoami),
      ("uname", Basics.uname), ("expr", Calculation.expr), ("fold", Reshaping.fold),
      ("paste", Reshaping.paste), ("base64", Reshaping.base64)]

def directory : Location := ["usr".toList, "bin".toList]

def at? (location : Location) : Option Program :=
  if location.dropLast = directory then
    (named.find? fun entry => some entry.1.toList == location.getLast?).map (·.2)
  else none

def systemEntries : List (Location × FileNode) :=
  [(["usr".toList], .directory), (directory, .directory),
    (["bin".toList], .link (Path.ofString "usr/bin")), (["root".toList], .directory),
    (["tmp".toList], .directory), (["dev".toList], .directory),
    (["dev".toList, "null".toList], .file ByteArray.empty false)] ++
    named.map fun entry => (directory ++ [entry.1.toList], .file ByteArray.empty true)

def isExecutable (files : FileTree) (path : Path) : Bool :=
  match files.find? path with
  | some (_, .file _ executable) => executable
  | _ => false

def separates (c : Char) : Bool := c == ' ' || c == '\t'

def endsWord (c : Char) : Bool := separates c || c == '\x00'

def headLength : Nat := 256

/-- The program that a script names in its first line, and the argument it gives it: the first word
behind the mark, and all that follows. A line without an end counts if that word has one. -/
def interpreter? (content : Octets) : Option (Octets × Option Octets) :=
  let head := content.take headLength
  match head ++ List.replicate (headLength - head.length) '\x00' with
  | '#' :: '!' :: rest =>
      let line : Option Octets :=
        if rest.contains '\n' then some (rest.takeWhile (· != '\n'))
        else if (rest.dropWhile separates).any endsWord then some rest.dropLast
        else none
      match line.map fun line => (Text.dropEndWhile separates line).dropWhile separates with
      | none | some [] => none
      | some text =>
          let name : Octets := text.takeWhile fun c => !endsWord c
          let given : Octets := text.dropWhile fun c => !endsWord c
          some
            (name,
              match given.head? with
              | none | some '\x00' => none
              | some _ => some ((given.dropWhile separates).takeWhile (· != '\x00')))
  | _ => none

inductive Image where
  | program (run : Program)
  | script (interpreter : Octets) (argument : Option Octets)

def image (files : FileTree) (path : Octets) : Except IoError Image :=
  match files.place .node (Path.ofText path.toText) with
  | .error cause => .error cause
  | .ok (.free _ _) => .error .notFound
  | .ok (.found location (.file content true)) =>
      match at? location, interpreter? (Octets.ofBytes content.toList) with
      | some run, _ => .ok (.program run)
      | none, some (interpreter, argument) => .ok (.script interpreter argument)
      | none, none => .error .badExecutable
  | .ok (.found _ _) => .error .notPermitted

/-- Starts what is at a path. A script is started by the program it names, which may be a script
itself, down to a depth. -/
def execute (start : Starter) : Nat → (path : Octets) → Process → Except IoError Outcome
  | 0, _, _ => .error .tooManyLinks
  | depth + 1, path, process =>
      match image process.files path with
      | .error cause => .error cause
      | .ok (.program run) => .ok (run start process)
      | .ok (.script interpreter argument) =>
          execute start depth interpreter
            { process with
              name := interpreter
              arguments := argument.toList ++ path :: process.arguments }

def scriptDepth : Nat := 6

/-- Starts the first program of a name in some directories. One that may not be started is passed
over and remembered. -/
def search (attempt : (path : Octets) → Except IoError Outcome) (name : Octets) :
    (denied : Bool) → List Octets → Except IoError Outcome
  | denied, [] => .error (if denied then .notPermitted else .notFound)
  | denied, directory :: rest =>
      match attempt (if directory.isEmpty then name else directory ++ '/' :: name) with
      | .error .notPermitted => search attempt name true rest
      | .error .notFound | .error .notDirectory => search attempt name denied rest
      | other => other

def argumentLimit : Nat := 131072

def launch (start : Starter) : Starter := fun process =>
  let words := process.name :: process.arguments
  if words.any (·.contains '\x00') then .error .nulInCommand
  else if words.any fun word => decide (argumentLimit ≤ word.length) then .error .argumentTooLong
  else if process.name.contains '/' then execute start scriptDepth process.name process
  else if process.name.isEmpty then .error .notFound
  else if FileTree.nameLimit < process.name.length then .error .nameTooLong
  else
    search (fun path => execute start scriptDepth path process) process.name false
      (Text.pieces (· == ':') process.environment.searchPath)

def startWithin : Nat → Starter
  | 0 => fun _ => .error (.stated "Resource temporarily unavailable")
  | depth + 1 => launch (startWithin depth)

def processDepth : Nat := 500

def start : Starter := startWithin processDepth

end Program

end TagTemplate
