import TagTemplate.FileTree.Change
import TagTemplate.Numeral.Reading
import TagTemplate.Program.Sources

/-! Programs that put lines and characters in another order: `sort`, `uniq`, `rev` and `tac`. -/

namespace TagTemplate.Ordering

structure Manner where
  numeric : Bool
  reverse : Bool
  fold : Bool
  blanks : Bool
  key : Option (Nat × Option Nat)
  separator : Option Char

/-- The fields of a line. Without a separator each begins with the blanks before it. -/
def fieldsOf (separator : Option Char) (line : Octets) : List Octets :=
  match separator with
  | some c => Text.pieces (· == c) line
  | none =>
      (line.foldl
        (fun (fields, wasBlank) c =>
          let blank := c == ' ' || c == '\t'
          match fields with
          | [] => ([[c]], blank)
          | field :: others =>
              if blank && !wasBlank then ([c] :: field :: others, true)
              else ((field ++ [c]) :: others, blank))
        (([] : List Octets), true)).1.reverse

def keyOf (manner : Manner) (line : Octets) : Octets :=
  let part :=
    match manner.key with
    | none => line
    | some (first, last) =>
        let fields := fieldsOf manner.separator line
        let fields :=
          match last with
          | some last => fields.take last
          | none => fields
        List.intercalate (manner.separator.toList) (fields.drop (first - 1))
  let part :=
    if manner.blanks || manner.numeric then part.dropWhile fun c => c == ' ' || c == '\t'
    else part
  if manner.fold then part.map Char.toUpper else part

def leadingNumber (text : Octets) : Int × Nat :=
  let (negative, body) :=
    match text with
    | '-' :: rest => (true, rest)
    | other => (false, other)
  let whole := body.takeWhile Char.isDigit
  let fraction :=
    match body.dropWhile Char.isDigit with
    | '.' :: rest => rest.takeWhile Char.isDigit
    | _ => []
  let magnitude : Int := (Numeral.ofDigits 10 (whole ++ fraction) : Nat)
  (if negative then -magnitude else magnitude, Nat.pow 10 fraction.length)

def isNumberAtMost (first second : Octets) : Bool :=
  let (a, b) := leadingNumber first
  let (c, d) := leadingNumber second
  !decide (c * b < a * d)

def isKeyAtMost (manner : Manner) (first second : Octets) : Bool :=
  let (a, b) := (keyOf manner first, keyOf manner second)
  if manner.numeric then isNumberAtMost a b else Text.isAtMost a b

/-- Whether a line may come before another one. Keys that are equal leave it to the whole lines. -/
def isBefore (manner : Manner) (stable : Bool) (first second : Octets) : Bool :=
  let forward := isKeyAtMost manner first second
  let backward := isKeyAtMost manner second first
  if forward && backward then
    stable || if manner.reverse then Text.isAtMost second first else Text.isAtMost first second
  else if manner.reverse then backward else forward

def withoutRepeats (same : Octets → Octets → Bool) : List Octets → List Octets
  | [] => []
  | [line] => [line]
  | first :: second :: rest =>
      if same first second then withoutRepeats same (first :: rest)
      else first :: withoutRepeats same (second :: rest)
termination_by lines => lines.length

def key? (text : Octets) : Option (Nat × Option Nat) :=
  match Text.pieces (· == ',') text with
  | [first] => (Numeral.digitsOnly? (first.takeWhile Char.isDigit)).map fun n => (n, none)
  | first :: last :: _ => do
      let first ← Numeral.digitsOnly? (first.takeWhile Char.isDigit)
      let last ← Numeral.digitsOnly? (last.takeWhile Char.isDigit)
      some (first, some last)
  | [] => none

def disorder? (before : Octets → Octets → Bool) : Nat → List Octets → Option (Nat × Octets)
  | number, first :: second :: rest =>
      if before first second then disorder? before (number + 1) (second :: rest)
      else some (number + 1, second)
  | _, _ => none

def intoFile (outcome : Outcome) (process : Process) (name : Octets) : Outcome :=
  let content : ByteArray := ⟨(outcome.written .output).toBytes.toArray⟩
  match outcome.files.write (Path.ofText name.toText) content false with
  | .ok files => { outcome with files, writes := [] }
  | .error cause =>
      .complained process 2
        (process.remark
          ("open failed: " ++ Octets.display name ++ ": " ++ cause.reason))

def sort (process : Process) : Outcome :=
  let table : OptionTable :=
    { letters := "rnufbsc"
      valued := "kto"
      long :=
        [("reverse", 'r'), ("numeric-sort", 'n'), ("unique", 'u'), ("ignore-case", 'f'),
          ("ignore-leading-blanks", 'b'), ("stable", 's'), ("check", 'c'), ("key", 'k'),
          ("field-separator", 't'), ("output", 'o')] }
  process.withOptions table 2 fun given =>
    let keyText := (given.value? 'k').getD []
    let has (letter : Char) : Bool := given.has letter || keyText.contains letter
    let manner : Manner :=
      ⟨has 'n', has 'r', has 'f', has 'b', key? keyText, (given.value? 't').bind List.head?⟩
    let sources := Sources.read process given.operands
    let read := sources.found.flatMap fun source =>
      (source.content.toOption.map Octets.lineList).getD []
    let before := isBefore manner (given.has 's' || given.has 'u')
    let same (first second : Octets) : Bool :=
      isKeyAtMost manner first second && isKeyAtMost manner second first
    let sorted := read.mergeSort before
    let lines := if given.has 'u' then withoutRepeats same sorted else sorted
    let outcome (output : Octets) : Outcome :=
      sources.outcome process (fun name => "cannot read: " ++ name) output
    if !sources.isComplete then { outcome [] with status := .code 2 }
    else if given.has 'c' then
      match disorder? before 1 read with
      | none => outcome []
      | some (number, line) =>
          let name := Octets.display (given.operands.head?.getD ['-'])
          (outcome []).complaining 1
            (process.remark
              (name ++ ":" ++ toString number ++ ": disorder: " ++ Octets.display line))
    else
      match given.value? 'o' with
      | some name => intoFile (outcome (Octets.unlines lines)) process name
      | none => outcome (Octets.unlines lines)

def runs (same : Octets → Octets → Bool) : List Octets → List (Octets × Nat)
  | [] => []
  | line :: rest =>
      match runs same rest with
      | (next, count) :: more =>
          if same line next then (line, count + 1) :: more else (line, 1) :: (next, count) :: more
      | [] => [(line, 1)]

def uniq (process : Process) : Outcome :=
  let table : OptionTable :=
    { letters := "cdui"
      valued := ""
      long := [("count", 'c'), ("repeated", 'd'), ("unique", 'u'), ("ignore-case", 'i')] }
  process.withOptions table 1 fun given =>
    let sources := Sources.read process (given.operands.take 1)
    let same (first second : Octets) : Bool :=
      if given.has 'i' then first.map Char.toUpper == second.map Char.toUpper else first == second
    let kept := (runs same (Octets.lineList sources.text)).filter fun (_, count) =>
      !(given.has 'd' && count == 1) && !(given.has 'u' && count != 1)
    sources.outcome process plainly
      (Octets.unlines (kept.map fun (line, count) =>
        if given.has 'c' then Octets.rightAligned 7 (Numeral.decimal count) ++ ' ' :: line
        else line))

def rev (process : Process) : Outcome :=
  process.withOptions ⟨"", "", []⟩ 1 fun given =>
    let sources := Sources.read process given.operands
    let (lines, ended) := Octets.lines sources.text
    sources.outcome process (fun name => "cannot open " ++ name)
      (Octets.unlinesAs (lines.map fun line => Octets.ofText line.toText.reverse) ended)

def turned (text : Octets) : Octets :=
  let (lines, ended) := Octets.lines text
  match lines.reverse with
  | [] => []
  | last :: before => (if ended then last ++ ['\n'] else last) ++ Octets.unlines before

def tac (process : Process) : Outcome :=
  process.withOptions ⟨"", "", []⟩ 1 fun given =>
    let sources := Sources.read process given.operands
    sources.outcome process (fun name => "failed to open '" ++ name ++ "' for reading")
      (sources.found.flatMap fun source => (source.content.toOption.map turned).getD [])

end TagTemplate.Ordering
