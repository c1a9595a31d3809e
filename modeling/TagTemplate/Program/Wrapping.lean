import TagTemplate.FileTree.Place
import TagTemplate.Program.Basics
import TagTemplate.Program.Sources

/-! Programs that start others: `env`, `nice`, `nohup`, `timeout` and `xargs`. -/

namespace TagTemplate.Wrapping

structure Setup where
  environment : Environment
  directory : Option Octets
  command : List Octets

def assignment? (word : Octets) : Option (Octets × Octets) :=
  let name : Octets := word.takeWhile (· != '=')
  match word.dropWhile (· != '=') with
  | _ :: value => some (name, value)
  | [] => none

def assignments : Environment → List Octets → Environment × List Octets
  | environment, [] => (environment, [])
  | environment, word :: rest =>
      match assignment? word with
      | some (name, value) => assignments (environment.put name value) rest
      | none => (environment, word :: rest)

def splitWords (text : Octets) : List Octets :=
  (Text.pieces (fun c => c == ' ' || (9 ≤ c.toNat && c.toNat ≤ 13)) text).filter fun word =>
    !word.isEmpty

def readOptions : Nat → Environment → Option Octets → List Octets → Except String Setup
  | 0, environment, directory, words => .ok ⟨environment, directory, words⟩
  | fuel + 1, environment, directory, words =>
      match words with
      | ['-'] :: rest | ['-', 'i'] :: rest => readOptions fuel [] directory rest
      | ['-', '-'] :: rest =>
          let (environment, command) := assignments environment rest
          .ok ⟨environment, directory, command⟩
      | ['-', 'u'] :: name :: rest | ('-' :: 'u' :: name) :: rest =>
          readOptions fuel (environment.erase name) directory rest
      | ['-', 'C'] :: path :: rest | ('-' :: 'C' :: path) :: rest =>
          readOptions fuel environment (some path) rest
      | ['-', 'S'] :: text :: rest | ('-' :: 'S' :: text) :: rest =>
          readOptions fuel environment directory (splitWords text ++ rest)
      | ('-' :: '-' :: name) :: rest =>
          let text : Octets := name.dropWhile (· != '=')
          match String.ofList (name.takeWhile (· != '=')), text.tail with
          | "ignore-environment", _ => readOptions fuel [] directory rest
          | "unset", value => readOptions fuel (environment.erase value) directory rest
          | "chdir", value => readOptions fuel environment (some value) rest
          | "split-string", value =>
              readOptions fuel environment directory (splitWords value ++ rest)
          | _, _ => .error ("unrecognized option '--" ++ Octets.display name ++ "'")
      | ('-' :: letter :: _) :: _ =>
          .error ("invalid option -- '" ++ String.ofList [letter] ++ "'")
      | words =>
          let (environment, command) := assignments environment words
          .ok ⟨environment, directory, command⟩

def env (start : Starter) (process : Process) : Outcome :=
  let fuel := process.arguments.length + (process.arguments.map List.length).foldl (· + ·) 1
  match readOptions fuel process.environment none process.arguments with
  | .error message => process.misused 125 message
  | .ok ⟨environment, directory, command⟩ =>
      let goal := (directory.map fun path => Path.ofText path.toText).getD .current
      match process.files.find? goal, command with
      | some (_, .directory), [] =>
          .wrote process (environment.flatMap fun entry => entry.1 ++ '=' :: entry.2 ++ ['\n'])
      | some (location, .directory), name :: arguments =>
          let files := { process.files with here := location }
          match start.orScript { process with files, environment, name, arguments } with
          | .ok outcome =>
              { outcome with files := { outcome.files with here := process.files.here } }
          | .error cause =>
              let missing := cause == .notFound
              let hint :=
                if missing && name.contains ' ' then
                  "\n" ++ process.remark "use -[v]S to pass options in shebang lines"
                else ""
              .complained process (if missing then 127 else 126)
                (process.remark (Octets.quoted name ++ ": " ++ cause.reason ++ hint))
      | _, _ =>
          .complained process 125
            (process.remark
              ("cannot change directory to " ++ Octets.quoted (directory.getD []) ++
                ": No such file or directory"))

def started (start : Starter) (process : Process) (name : Octets) (arguments : List Octets)
    (missing denied : Nat) (words : String → String) : Outcome :=
  match start.orScript { process with name, arguments } with
  | .ok outcome => outcome
  | .error cause =>
      .complained process (if cause = .notFound then missing else denied)
        (process.remark (words (Octets.quoted name) ++ ": " ++ cause.reason))

def nice (start : Starter) (process : Process) : Outcome :=
  let command :=
    match process.arguments with
    | ['-', 'n'] :: _ :: rest | ('-' :: 'n' :: _ :: _) :: rest => rest
    | words => words
  match command with
  | [] => .wrote process "0\n".toList
  | name :: arguments => started start process name arguments 127 126 id

def nohup (start : Starter) (process : Process) : Outcome :=
  match process.arguments with
  | [] => process.misused 125 "missing operand"
  | name :: arguments =>
      started start process name arguments 127 126 ("failed to run command " ++ ·)

def timeout (start : Starter) (process : Process) : Outcome :=
  match process.arguments.dropWhile fun word => word.head? == some '-' && word.length != 1 with
  | [] | [_] =>
      .complained process 125
        ("Try '" ++ Octets.display process.name ++ " --help' for more information.")
  | limit :: name :: arguments =>
      match Basics.duration? limit with
      | none =>
          process.misused 125 ("invalid time interval " ++ Octets.quoted limit)
      | some milliseconds =>
          let outcome :=
            started start process name arguments 127 126 ("failed to run command " ++ ·)
          if 0 < milliseconds && decide (milliseconds < outcome.takes) then
            { outcome with status := .code 124, takes := milliseconds }
          else outcome

def unmatched (quote : Char) : String :=
  "unmatched " ++ (if quote = '"' then "double" else "single") ++
    " quote; by default quotes are special to xargs unless you use the -0 option"

def quotedWords : (word : Option Octets) → (quote : Option Char) → Octets →
    Except String (List Octets)
  | _, some quote, [] => .error (unmatched quote)
  | word, none, [] => .ok word.toList
  | word, none, '\\' :: c :: rest => quotedWords (some (word.getD [] ++ [c])) none rest
  | word, quote, c :: rest =>
      if quote = some c then quotedWords (some (word.getD [])) none rest
      else if let some quote := quote then
        if c = '\n' then .error (unmatched quote)
        else quotedWords (some (word.getD [] ++ [c])) (some quote) rest
      else if c = '"' ∨ c = '\'' then quotedWords (some (word.getD [])) (some c) rest
      else if c = ' ' ∨ c = '\t' ∨ c = '\n' then
        (quotedWords none none rest).map (word.toList ++ ·)
      else quotedWords (some (word.getD [] ++ [c])) none rest

def inGroups (size : Nat) : Nat → List Octets → List (List Octets)
  | 0, _ => []
  | _, [] => []
  | fuel + 1, words => words.take size :: inGroups size fuel (words.drop size)

def withPart (part replacement : Octets) : Nat → Octets → Octets
  | 0, text => text
  | _, [] => []
  | fuel + 1, c :: rest =>
      if part.isPrefixOf (c :: rest) then
        replacement ++ withPart part replacement fuel ((c :: rest).drop part.length)
      else c :: withPart part replacement fuel rest

structure Dealing where
  size : Option Nat
  part : Option Octets
  skips : Bool
  command : List Octets

def dealing : Dealing → List Octets → Dealing
  | given, ['-', 'n'] :: text :: rest =>
      dealing { given with size := Numeral.digitsOnly? text } rest
  | given, ['-', 'I'] :: text :: rest => dealing { given with part := some text } rest
  | given, ('-' :: 'n' :: text) :: rest =>
      dealing { given with size := Numeral.digitsOnly? text } rest
  | given, ('-' :: 'I' :: text) :: rest => dealing { given with part := some text } rest
  | given, ['-', 'r'] :: rest => dealing { given with skips := true } rest
  | given, words => { given with command := if words.isEmpty then ["echo".toList] else words }

def calls (given : Dealing) (first : List Octets) (text : Octets) :
    Except String (List (List Octets)) :=
  match given.part with
  | some part =>
      let lines := (Octets.lineList text).map fun line =>
        line.dropWhile fun c => c == ' ' || c == '\t'
      .ok ((lines.filter fun line => !line.isEmpty).map fun line =>
        first.map fun argument => withPart part line argument.length argument)
  | none =>
      (quotedWords none none text).map fun words =>
        if words.isEmpty then if given.skips then [] else [first]
        else (inGroups (given.size.getD words.length) words.length words).map (first ++ ·)

def xargs (start : Starter) (process : Process) : Outcome :=
  let given := dealing ⟨none, none, false, []⟩ process.arguments
  let name := given.command.head?.getD []
  match calls given given.command.tail process.input with
  | .error message =>
      { Outcome.complained process 1 (process.remark message) with rest := [] }
  | .ok calls =>
      calls.foldl
        (fun outcome arguments =>
          let inner := { process with files := outcome.files, name, arguments, input := [] }
          match start.orScript inner with
          | .ok one =>
              { outcome with
                writes := outcome.writes ++ one.writes
                files := { one.files with here := process.files.here }
                takes := outcome.takes + one.takes
                status := if one.isSuccess then outcome.status else .code 123 }
          | .error cause =>
              outcome.complaining (if cause = .notFound then 127 else 126)
                (process.remark (Octets.display name ++ ": " ++ cause.reason)))
        { Outcome.wrote process [] with rest := [] }

end TagTemplate.Wrapping
