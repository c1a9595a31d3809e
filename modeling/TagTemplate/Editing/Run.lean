import TagTemplate.Editing.Reader
import TagTemplate.FileTree.Change
import TagTemplate.Program.Sources

/-! Editing texts line by line: `sed`. -/

namespace TagTemplate.Editing

inductive Appended where
  | text (text : Octets)
  | file (name : Octets)

structure Editor where
  files : FileTree
  ahead : List Octets
  ended : Bool
  count : Nat
  space : Octets
  held : Octets
  output : Octets
  isOpen : Bool
  appended : List Appended
  replaced : Bool
  active : List (Nat × Option Nat)
  lastRegex : Option Regex
  quiet : Bool

inductive Turn where
  | go (index : Nat)
  | over
  | dropped
  | again
  | quit (prints : Bool) (status : Nat)
  | fault

namespace Editor

def write (editor : Editor) (text : Octets) : Editor :=
  let gap := if editor.isOpen then ['\n'] else []
  { editor with output := editor.output ++ gap ++ text, isOpen := false }

def writeLine (editor : Editor) (text : Octets) : Editor :=
  if editor.ahead.isEmpty && !editor.ended then { editor.write text with isOpen := true }
  else editor.write (text ++ ['\n'])

def autoprint (editor : Editor) : Editor :=
  if editor.quiet then editor else editor.writeLine editor.space

def flush (editor : Editor) : Editor :=
  let after := editor.appended.foldl
    (fun editor item =>
      match item with
      | .text text => editor.write text
      | .file name =>
          match editor.files.read (Path.ofText name.toText) with
          | .ok content =>
              if content.isEmpty then editor
              else
                let text := Octets.ofBytes content.toList
                if text.getLast? = some '\n' then editor.write text
                else { editor.write text with isOpen := true }
          | .error _ => editor)
    editor
  { after with appended := [] }

def advance (editor : Editor) (joins : Bool) : Option Editor :=
  match editor.ahead with
  | [] => none
  | line :: ahead =>
      let flushed := editor.flush
      some
        { flushed with
          ahead := ahead
          count := editor.count + 1
          space := if joins then editor.space ++ '\n' :: line else line
          replaced := false }

def regexOf (editor : Editor) (regex : Option Regex) : Option Regex :=
  regex.or editor.lastRegex

def meets (editor : Editor) (address : Address) : Option (Bool × Editor) :=
  match address with
  | .line number => some (editor.count == number, editor)
  | .last => some (editor.ahead.isEmpty, editor)
  | .stepping first step =>
      some
        (if step = 0 then editor.count == first
          else decide (first ≤ editor.count) && (editor.count - first) % step == 0,
          editor)
  | .containing regex =>
      (editor.regexOf regex).map fun regex =>
        (regex.isIn editor.space, { editor with lastRegex := some regex })
  | .after _ | .multiple _ => some (false, editor)

def leave (editor : Editor) (index : Nat) : Editor :=
  { editor with active := editor.active.filter fun entry => entry.1 != index }

def enter (editor : Editor) (index : Nat) (second : Address) : Editor :=
  let until? : Option (Option Nat) :=
    match second with
    | .line number => if number ≤ editor.count then none else some (some number)
    | .after count => if count = 0 then none else some (some (editor.count + count))
    | .multiple factor =>
        if factor = 0 ∨ editor.count % factor = 0 then none
        else some (some ((editor.count / factor + 1) * factor))
    | _ => some none
  match until? with
  | some stop => { editor with active := (index, stop) :: editor.active }
  | none => editor

def isWithin (editor : Editor) (index : Nat) (range : Range) : Option (Bool × Editor) :=
  match range.first, range.second with
  | none, _ => some (true, editor)
  | some first, none => editor.meets first
  | some first, some second =>
      match editor.active.find? fun entry => entry.1 == index with
      | some (_, some stop) =>
          some
            (decide (editor.count ≤ stop),
              if stop ≤ editor.count then editor.leave index else editor)
      | some (_, none) =>
          (editor.meets second).map fun (met, editor) =>
            (true, if met then editor.leave index else editor)
      | none =>
          let zeroth := match first with
            | .line 0 => true
            | _ => false
          if zeroth && editor.count == 1 then
            (editor.meets second).map fun (met, editor) =>
              (true, if met then editor else editor.enter index second)
          else
            (editor.meets first).map fun (met, editor) =>
              (met, if met then editor.enter index second else editor)

def withLetters (capital : Bool) (text : Octets) : Octets :=
  text.map fun c => if capital then c.toUpper else c.toLower

def filled (found : Regex.Found) : (mode next : Option Bool) → List Part → Octets
  | _, _, [] => []
  | mode, next, part :: rest =>
      let put (text : Octets) : Octets :=
        let changed := match mode with
          | some capital => withLetters capital text
          | none => text
        match next, changed with
        | some capital, c :: more =>
            withLetters capital [c] ++ more ++ filled found mode none rest
        | _, [] => filled found mode next rest
        | none, changed => changed ++ filled found mode none rest
      match part with
      | .text text => put text
      | .group number => put (found.group number)
      | .letters capital true => filled found mode (some capital) rest
      | .letters capital false => filled found (some capital) none rest
      | .asTheyAre => filled found none none rest

/-- Replaces stretches of a text: those from a number on, or that one alone. The result comes with
whether anything was replaced. A stretch without characters does not count right behind another. -/
def substituted (replacing : Replacing) (regex : Regex) :
    Nat → (count : Nat) → (before : Option Char) → (behind : Bool) → Octets → Octets × Bool
  | 0, _, _, _, text => (text, false)
  | fuel + 1, count, before, behind, text =>
      match regex.find? before text with
      | none => (text, false)
      | some found =>
          let skips := behind && found.text.isEmpty && found.skipped.isEmpty
          let count := if skips then count else count + 1
          let changes :=
            !skips &&
              (count == replacing.first || (replacing.all && decide (replacing.first ≤ count)))
          let front :=
            found.skipped ++
              if changes then filled found none none replacing.parts else found.text
          let (rest, more) : Octets × Bool :=
            if changes && !replacing.all then (found.rest, false)
            else if found.text.isEmpty then
              match found.rest with
              | [] => ([], false)
              | c :: rest =>
                  let (rest, more) := substituted replacing regex fuel count (some c) false rest
                  (c :: rest, more)
            else
              substituted replacing regex fuel count found.text.getLast? true found.rest
          (front ++ rest, changes || more)

def replace (editor : Editor) (replacing : Replacing) : Option Editor :=
  (editor.regexOf replacing.regex).map fun regex =>
    let (space, replaced) :=
      substituted replacing regex (editor.space.length + 2) 0 none false editor.space
    let after := { editor with lastRegex := some regex }
    if replaced then
      let after := { after with space, replaced := true }
      if replacing.prints then after.writeLine space else after
    else after

def shownChar (c : Char) : Octets :=
  match c with
  | '\\' => "\\\\".toList
  | '\x07' => "\\a".toList
  | '\x08' => "\\b".toList
  | '\x0c' => "\\f".toList
  | '\n' => "\\n".toList
  | '\r' => "\\r".toList
  | '\t' => "\\t".toList
  | '\x0b' => "\\v".toList
  | c =>
      if 32 ≤ c.toNat ∧ c.toNat ≤ 126 then [c]
      else '\\' :: Numeral.padZeros 3 (Numeral.digits 8 c.toNat)

def shownLine : (width : Nat) → Octets → Octets
  | _, [] => ['$', '\n']
  | width, c :: rest =>
      let shown := shownChar c
      if 69 < width + shown.length then
        '\\' :: '\n' :: shown ++ shownLine shown.length rest
      else shown ++ shownLine (width + shown.length) rest

def isAtEnd (editor : Editor) (index : Nat) : Bool :=
  !editor.active.any fun entry => entry.1 == index

def addTo (editor : Editor) (name : Octets) (text : Octets) : Editor :=
  let path := Path.ofText name.toText
  let before := (editor.files.read path).toOption.getD ByteArray.empty
  match editor.files.write path (before ++ ⟨(text ++ ['\n']).toBytes.toArray⟩) false with
  | .ok files => { editor with files }
  | .error _ => editor

def perform (script : Script) (index : Nat) (command : Command) (editor : Editor) :
    Turn × Editor :=
  let on (editor : Editor) : Turn × Editor := (.go (index + 1), editor)
  match command.action with
  | .block _ | .nothing | .label _ => on editor
  | .replace replacing =>
      match editor.replace replacing with
      | some after => on after
      | none => (.fault, editor)
  | .recode pairs =>
      on
        { editor with
          space := editor.space.map fun c =>
            ((pairs.find? fun pair => pair.1 == c).map (·.2)).getD c }
  | .delete => (.dropped, editor)
  | .deleteLine =>
      match editor.space.dropWhile (· != '\n') with
      | [] => (.dropped, editor)
      | _ :: rest => (.again, { editor with space := rest })
  | .print => on (editor.writeLine editor.space)
  | .printLine => on (editor.write (editor.space.takeWhile (· != '\n') ++ ['\n']))
  | .next =>
      if editor.ahead.isEmpty then (.over, editor)
      else
        match editor.autoprint.advance false with
        | some after => on after
        | none => (.over, editor)
  | .join =>
      match editor.advance true with
      | some after => on after
      | none => (.over, editor)
  | .hold => on { editor with held := editor.space }
  | .holdMore => on { editor with held := editor.held ++ '\n' :: editor.space }
  | .get => on { editor with space := editor.held }
  | .getMore => on { editor with space := editor.space ++ '\n' :: editor.held }
  | .exchange => on { editor with space := editor.held, held := editor.space }
  | .number => on (editor.write (Numeral.decimal editor.count ++ ['\n']))
  | .show => on (editor.write (shownLine 0 editor.space))
  | .append text => on { editor with appended := editor.appended ++ [.text text] }
  | .insert text => on (editor.write text)
  | .change text =>
      (.dropped,
        if command.range.negated || editor.isAtEnd index then editor.write text else editor)
  | .readFile name => on { editor with appended := editor.appended ++ [.file name] }
  | .writeFile name =>
      on
        (match String.ofList name with
        | "/dev/stdout" => editor.writeLine editor.space
        | _ => editor.addTo name editor.space)
  | .quit prints status => (.quit prints status, editor)
  | .branch condition name =>
      let taken := condition.all (· == editor.replaced)
      let after := if condition.isSome then { editor with replaced := false } else editor
      if !taken then on after
      else if name.isEmpty then (.over, after)
      else
        match labelIndex? script name with
        | some target => (.go target, after)
        | none => (.over, after)

def run (script : Script) : Nat → Nat → Editor → Turn × Editor
  | 0, _, editor => (.over, editor)
  | fuel + 1, index, editor =>
      match script[index]? with
      | none => (.over, editor)
      | some command =>
          match editor.isWithin index command.range with
          | none => (.fault, editor)
          | some (within, editor) =>
              if within != command.range.negated then
                match editor.perform script index command with
                | (.go next, editor) => run script fuel next editor
                | ended => ended
              else
                match command.action with
                | .block stop => run script fuel stop editor
                | _ => run script fuel (index + 1) editor

def commandLimit : Nat := 200000

/-- Carries out the script for one line after another. The status is that of a command that ended
it, and none when an expression was missing. -/
def cycle (script : Script) : Nat → Editor → Option Nat × Editor
  | 0, editor => (some 0, editor)
  | fuel + 1, editor =>
      let next (editor : Editor) : Option Nat × Editor :=
        match editor.advance false with
        | some editor => cycle script fuel editor
        | none => (some 0, editor)
      match run script commandLimit 0 editor with
      | (.over, editor) | (.go _, editor) => next editor.autoprint.flush
      | (.dropped, editor) => next editor.flush
      | (.again, editor) => cycle script fuel editor.flush
      | (.quit true status, editor) => (some status, editor.autoprint.flush)
      | (.quit false status, editor) => (some status, editor)
      | (.fault, editor) => (none, editor)

end Editor

def linesOf (sources : Sources) : List Octets × Bool :=
  let texts := sources.found.filterMap fun source => source.content.toOption
  ((texts.map Octets.lineList).flatten,
    match (texts.filter fun text => !text.isEmpty).getLast? with
    | some text => text.getLast? == some '\n'
    | none => true)

def Fault.text (fault : Fault) : String :=
  match fault.position with
  | some position => "-e expression #1, char " ++ toString position ++ ": " ++ fault.message
  | none => "-e expression #1, char 0: " ++ fault.message

def options : OptionTable where
  letters := "nErsu"
  valued := "ef"
  long :=
    [("quiet", 'n'), ("silent", 'n'), ("expression", 'e'), ("file", 'f'),
      ("regexp-extended", 'E'), ("separate", 's'), ("unbuffered", 'u')]

def scriptTexts (files : FileTree) (given : Given) : Except Octets (List Octets) :=
  (given.options.filter fun option => option.1 == 'e' || option.1 == 'f').mapM fun option =>
    if option.1 = 'e' then .ok option.2
    else
      match files.read (Path.ofText option.2.toText) with
      | .ok content =>
          .ok (Text.dropEndWhile (· == '\n') (Octets.ofBytes content.toList))
      | .error cause =>
          .error ("couldn't open file ".toList ++ option.2 ++ ": ".toList ++ cause.reason.toList)

def edit (process : Process) (script : Script) (quiet : Bool) (names : List Octets) : Outcome :=
  let sources := Sources.read process names
  let (lines, ended) := linesOf sources
  let blank : Editor :=
    { files := process.files
      ahead := lines
      ended := ended
      count := 0
      space := []
      held := []
      output := []
      isOpen := false
      appended := []
      replaced := false
      active := []
      lastRegex := none
      quiet := quiet }
  let fuel := ((lines.map fun line => line.length + 2).foldl (· + ·) 1) * 2
  let (status, editor) :=
    match blank.advance false with
    | some editor => editor.cycle script fuel
    | none => (some 0, blank)
  let outcome := sources.outcome process ("can't read " ++ ·) editor.output
  match status with
  | none =>
      { Outcome.complained process 1
          (process.remark (Fault.text ⟨some 0, "no previous regular expression"⟩)) with
        rest := sources.rest }
  | some status =>
      { outcome with
        status := .code (if status = 0 && !sources.isComplete then 2 else status)
        files := editor.files }

def sed (process : Process) : Outcome :=
  process.withOptions options 1 fun given =>
    match scriptTexts process.files given, given.operands with
    | .error message, _ => .complained process 1 (process.remark (Octets.display message))
    | .ok [], [] =>
        .complained process 1
          ("Usage: " ++ Octets.display process.name ++
            " [OPTION]... \x7bscript-only-if-no-other-script\x7d [input-file]...")
    | .ok texts, operands =>
        let (text, names) : Octets × List Octets :=
          match texts, operands with
          | [], script :: names => (script, names)
          | texts, names => (List.intercalate ['\n'] texts, names)
        match Script.read (given.has 'E' || given.has 'r') text with
        | .error fault => .complained process 1 (process.remark fault.text)
        | .ok script => edit process script (given.has 'n') names

end TagTemplate.Editing
