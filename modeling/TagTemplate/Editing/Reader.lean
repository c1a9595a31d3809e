import TagTemplate.Editing.Script
import TagTemplate.Program.Printing

/-! Reading scripts that edit texts. -/

namespace TagTemplate.Editing

structure Source where
  rest : Octets
  length : Nat

/-- What is wrong with a script, and after how many characters that is seen, if it counts. -/
structure Fault where
  position : Option Nat
  message : String

abbrev Reader := EStateM Fault Source

namespace Reader

def fail {α : Type} (message : String) : Reader α := do
  let source ← get
  throw ⟨some (source.length - source.rest.length), message⟩

def peek : Reader (Option Char) := do return (← get).rest.head?

/-- Takes a character; the end counts as one when a fault is shown. -/
def take : Reader (Option Char) := do
  let source ← get
  set { source with rest := source.rest.tail }
  return source.rest.head?

def takeWhile (accepts : Char → Bool) : Reader Octets := do
  let source ← get
  set { source with rest := source.rest.dropWhile accepts }
  return source.rest.takeWhile accepts

def skipBlanks : Reader Unit := do
  let _ ← takeWhile fun c => c == ' ' || c == '\t'

def number? : Reader (Option Nat) := do
  let digits ← takeWhile Char.isDigit
  return if digits.isEmpty then none else some (Numeral.ofDigits 10 digits)

/-- A text up to a mark, before which a backslash makes it a character of the text. In an expression
the sets in brackets stay as they are. -/
def delimited (mark : Char) (regex : Bool) : Nat → Octets → Option (Octets × Octets)
  | 0, _ => none
  | _, [] => none
  | fuel + 1, '\\' :: c :: rest =>
      (delimited mark regex fuel rest).map fun (text, after) =>
        if c = mark then (c :: text, after) else ('\\' :: c :: text, after)
  | fuel + 1, c :: rest =>
      if c = mark then some ([], rest)
      else
        let members : Octets :=
          if regex && c == '[' then
            match Shell.Pattern.set? ['^'] rest with
            | some (_, after) => rest.take (rest.length - after.length)
            | none => []
          else []
        (delimited mark regex fuel (rest.drop members.length)).map fun (text, after) =>
          (c :: members ++ text, after)

def takeDelimited (mark : Char) (regex : Bool) (fault : String) : Reader Octets := do
  let source ← get
  match delimited mark regex (source.rest.length + 1) source.rest with
  | some (text, rest) =>
      set { source with rest }
      return text
  | none =>
      set { source with rest := [] }
      fail fault

/-- An expression; an empty one stands for the last one used. -/
def regexOf (extended foldsCase : Bool) (text : Octets) : Reader (Option Regex) := do
  if text.isEmpty then return none
  match Regex.read ⟨extended, foldsCase⟩ text with
  | .ok regex => return some regex
  | .error message => fail message

def foldsCase : Reader Bool := do
  let flags ← takeWhile fun c => c == 'I' || c == 'M'
  return flags.contains 'I'

def address? (extended : Bool) : Reader (Option Address) := do
  match ← peek with
  | some '$' => do
      let _ ← take
      return some .last
  | some '/' => do
      let _ ← take
      expression '/'
  | some '\\' => do
      let _ ← take
      match ← take with
      | some mark => expression mark
      | none => fail "unterminated address regex"
  | some c =>
      if c.isDigit then
        let first := (← number?).getD 0
        skipBlanks
        match ← peek with
        | some '~' => do
            let _ ← take
            return some (.stepping first ((← number?).getD 0))
        | _ => return some (.line first)
      else return none
  | none => return none
where
  expression (mark : Char) : Reader (Option Address) := do
    let text ← takeDelimited mark true "unterminated address regex"
    let folds ← foldsCase
    return some (.containing (← regexOf extended folds text))

def secondAddress (extended : Bool) : Reader Address := do
  match ← peek with
  | some '+' => do
      let _ ← take
      return .after ((← number?).getD 0)
  | some '~' => do
      let _ ← take
      return .multiple ((← number?).getD 0)
  | _ => do
      match ← address? extended with
      | some address => return address
      | none => fail "unexpected \x60,'"

def range (extended : Bool) : Reader Range := do
  let first ← address? extended
  skipBlanks
  let second ←
    match first, ← peek with
    | some _, some ',' => do
        let _ ← take
        skipBlanks
        pure (some (← secondAddress extended))
    | _, _ => pure none
  skipBlanks
  let marks ← takeWhile fun c => c == '!' || c == ' ' || c == '\t'
  match first, second with
  | some (.line 0), none => fail "invalid usage of line address 0"
  | _, _ => return ⟨first, second, marks.contains '!'⟩

def parts : Nat → Octets → List Part
  | 0, _ => []
  | _, [] => []
  | fuel + 1, '&' :: rest => .group 0 :: parts fuel rest
  | fuel + 1, '\\' :: c :: rest =>
      let part : Part :=
        match c with
        | 'U' => .letters true false
        | 'L' => .letters false false
        | 'u' => .letters true true
        | 'l' => .letters false true
        | 'E' => .asTheyAre
        | c =>
            if c.isDigit then .group (Numeral.digitValue c)
            else .text [if c = 'e' then c else (Printing.escapedByte? c).getD c]
      part :: parts fuel rest
  | fuel + 1, c :: rest => .text [c] :: parts fuel rest

structure Flags where
  first : Option Nat
  all : Bool
  prints : Bool
  foldsCase : Bool

def flags : Nat → Flags → Reader Flags
  | 0, found => return found
  | fuel + 1, found => do
      match ← peek with
      | some 'g' => do
          let _ ← take
          if found.all then fail "multiple \x60g' options to \x60s' command"
          flags fuel { found with all := true }
      | some 'p' => do
          let _ ← take
          if found.prints then fail "multiple \x60p' options to \x60s' command"
          flags fuel { found with prints := true }
      | some 'i' | some 'I' => do
          let _ ← take
          flags fuel { found with foldsCase := true }
      | some 'm' | some 'M' => do
          let _ ← take
          flags fuel found
      | some c =>
          if c.isDigit then do
            if found.first.isSome then fail "multiple number options to \x60s' command"
            let number ← number?
            if number = some 0 then fail "number option to \x60s' command may not be zero"
            flags fuel { found with first := number }
          else return found
      | none => return found

def finish (fault : String) : Reader Unit := do
  skipBlanks
  match ← peek with
  | none | some '\x7d' | some '#' => return
  | some c =>
      let _ ← take
      if c = '\n' ∨ c = ';' then return else fail fault

def extra : String := "extra characters after command"

def replacement (extended : Bool) : Reader Action := do
  let fault := "unterminated \x60s' command"
  match ← take with
  | none | some '\n' | some '\\' => fail fault
  | some mark => do
      let pattern ← takeDelimited mark true fault
      let text ← takeDelimited mark false fault
      let found ← flags ((← get).rest.length + 1) ⟨none, false, false, false⟩
      finish "unknown option to \x60s'"
      let regex ← regexOf extended found.foldsCase pattern
      let parts := parts (text.length + 1) text
      let groups := (regex.map Regex.groupCount).getD 9
      for part in parts do
        match part with
        | .group number =>
            if groups < number then
              fail
                ("invalid reference \\" ++ toString number ++ " on \x60s' command's RHS")
        | _ => pure ()
      return .replace
        { regex, parts
          first := found.first.getD 1
          all := found.all
          prints := found.prints }

def characters : Octets → Octets
  | '\\' :: 'n' :: rest => '\n' :: characters rest
  | '\\' :: '\\' :: rest => '\\' :: characters rest
  | c :: rest => c :: characters rest
  | [] => []

def recoding : Reader Action := do
  let fault := "unterminated \x60y' command"
  match ← take with
  | none => fail fault
  | some mark => do
      let first ← takeDelimited mark false fault
      let second ← takeDelimited mark false fault
      let (first, second) := (characters first, characters second)
      if first.length ≠ second.length then
        fail "strings for \x60y' command are different lengths"
      finish extra
      return .recode (first.zip second)

def textLines : Octets → Octets × Octets
  | [] => ([], [])
  | '\n' :: rest => ([], rest)
  | '\\' :: c :: rest =>
      let (text, after) := textLines rest
      (c :: text, after)
  | c :: rest =>
      let (text, after) := textLines rest
      (c :: text, after)

def addition : Reader Octets := do
  skipBlanks
  if (← peek).isNone then fail "expected \\ after \x60a', \x60c' or \x60i'"
  let source ← get
  let rest :=
    match source.rest with
    | '\\' :: rest =>
        match rest.dropWhile fun c => c == ' ' || c == '\t' with
        | '\n' :: rest => rest
        | _ => rest
    | rest => rest
  if rest.isEmpty then fail "expected \\ after \x60a', \x60c' or \x60i'"
  let (text, rest) := textLines rest
  set { source with rest }
  return text ++ ['\n']

def word : Reader Octets := do
  skipBlanks
  let text ← takeWhile fun c => c != ';' && c != '\n' && c != ' '
  finish extra
  return text

def fileName : Reader Octets := do
  skipBlanks
  let text ← takeWhile (· != '\n')
  if text.isEmpty then fail "missing filename in r/R/w/W commands"
  let _ ← take
  return text

def letter? : Char → Option Action
  | 'd' => some .delete
  | 'D' => some .deleteLine
  | 'p' => some .print
  | 'P' => some .printLine
  | 'n' => some .next
  | 'N' => some .join
  | 'h' => some .hold
  | 'H' => some .holdMore
  | 'g' => some .get
  | 'G' => some .getMore
  | 'x' => some .exchange
  | '=' => some .number
  | 'l' => some .show
  | 'z' => some (.replace ⟨some (.repeated (.one fun _ => true) 0 none), [], 1, false, false⟩)
  | _ => none

def action (extended : Bool) (c : Char) : Reader Action := do
  match letter? c with
  | some action =>
      finish extra
      return action
  | none =>
      match c with
      | 's' => replacement extended
      | 'y' => recoding
      | 'a' => return .append (← addition)
      | 'i' => return .insert (← addition)
      | 'c' => return .change (← addition)
      | 'r' => return .readFile (← fileName)
      | 'w' => return .writeFile (← fileName)
      | 'q' | 'Q' => do
          skipBlanks
          let status := (← number?).getD 0
          finish extra
          return .quit (c == 'q') status
      | 'b' => return .branch none (← word)
      | 't' => return .branch (some true) (← word)
      | 'T' => return .branch (some false) (← word)
      | c => fail ("unknown command: \x60" ++ Octets.display [c] ++ "'")

structure Begun where
  commands : List Command
  openings : List (Nat × Range)

def commands (extended : Bool) : Nat → Begun → Reader Begun
  | 0, begun => return begun
  | fuel + 1, begun => do
      let _ ← takeWhile fun c => c == ';' || c == ' ' || c == '\n' || c == '\t'
      if (← peek).isNone then return begun
      let range ← range extended
      let add (action : Action) : Begun :=
        { begun with commands := ⟨range, action⟩ :: begun.commands }
      match ← take with
      | none => fail "missing command"
      | some '#' => do
          if range.first.isSome then fail "comments don't accept any addresses"
          let _ ← takeWhile (· != '\n')
          commands extended fuel begun
      | some '\x7b' =>
          let opened := add (.block 0)
          commands extended fuel
            { opened with openings := (begun.commands.length, range) :: begun.openings }
      | some '\x7d' => do
          if range.first.isSome then fail "\x7d doesn't want any addresses"
          match begun.openings with
          | [] => fail "unexpected \x60\x7d'"
          | (index, opened) :: openings => do
              finish extra
              let count := begun.commands.length
              let commands' := begun.commands.set (count - 1 - index) ⟨opened, .block count⟩
              commands extended fuel ⟨commands', openings⟩
      | some ':' => do
          if range.first.isSome then fail ": doesn't want any addresses"
          skipBlanks
          let name ← takeWhile fun c => c != ';' && c != '\n'
          if name.isEmpty then fail "\":\" lacks a label"
          commands extended fuel (add (.label name))
      | some c => commands extended fuel (add (← action extended c))

def missingLabel? (script : Script) : Option Octets :=
  script.findSome? fun command =>
    match command.action with
    | .branch _ name =>
        if name.isEmpty || (labelIndex? script name).isSome then none else some name
    | _ => none

def script (extended : Bool) : Reader Script := do
  let begun ← commands extended ((← get).length + 1) ⟨[], []⟩
  if !begun.openings.isEmpty then throw ⟨some 0, "unmatched \x60\x7b'"⟩
  let script := begun.commands.reverse
  match missingLabel? script with
  | some name =>
      throw ⟨none, "can't find label for jump to \x60" ++ Octets.display name ++ "'"⟩
  | none => return script

end Reader

def Script.read (extended : Bool) (text : Octets) : Except Fault Script :=
  match (Reader.script extended).run ⟨text, text.length⟩ with
  | .ok script _ => .ok script
  | .error fault _ => .error fault

end TagTemplate.Editing
