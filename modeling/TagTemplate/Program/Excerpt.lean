import TagTemplate.Numeral.Digits
import TagTemplate.Program.Sources

/-! Programs that give a part of what they read: `head`, `tail` and `cut`. -/

namespace TagTemplate.Excerpt

structure Amount where
  bytes : Bool
  turned : Bool
  count : Nat
deriving DecidableEq, Repr

def factor? (letters : Octets) : Option Nat :=
  match String.ofList letters with
  | "" => some 1
  | "b" => some 512
  | "k" | "K" | "KiB" => some 1024
  | "kB" | "KB" => some 1000
  | "m" | "M" | "MiB" => some 1048576
  | "MB" => some 1000000
  | _ => none

def amount? (bytes : Bool) (turning : Char) (text : Octets) : Option Amount :=
  let (turned, body) :=
    match text with
    | '-' :: rest => ('-' == turning, rest)
    | '+' :: rest => ('+' == turning, rest)
    | other => (false, other)
  let digits := body.takeWhile Char.isDigit
  if digits.isEmpty then none
  else
    (factor? (body.dropWhile Char.isDigit)).map fun factor =>
      ⟨bytes, turned, Numeral.ofDigits 10 digits * factor⟩

def wholeLines (text : Octets) : List Octets :=
  let (lines, ended) := Octets.lines text
  match lines.reverse with
  | [] => []
  | last :: before =>
      (before.reverse.map (· ++ ['\n'])) ++ [if ended then last ++ ['\n'] else last]

def first (amount : Amount) (text : Octets) : Octets :=
  if amount.bytes then
    text.take (if amount.turned then text.length - amount.count else amount.count)
  else
    let lines := wholeLines text
    (lines.take (if amount.turned then lines.length - amount.count else amount.count)).flatten

def last (amount : Amount) (text : Octets) : Octets :=
  if amount.bytes then
    text.drop (if amount.turned then amount.count - 1 else text.length - amount.count)
  else
    let lines := wholeLines text
    (lines.drop (if amount.turned then amount.count - 1 else lines.length - amount.count)).flatten

def withShortCount (sign : Char) (arguments : List Octets) : List Octets :=
  match arguments with
  | (c :: digits) :: rest =>
      if (c == '-' || c == sign) && !digits.isEmpty && digits.all Char.isDigit then
        "-n".toList :: (if c = '-' then digits else c :: digits) :: rest
      else arguments
  | arguments => arguments

def titled (sources : Sources) (quiet verbose : Bool) (part : Octets → Octets) : Octets :=
  let shows := verbose || (!quiet && decide (1 < sources.found.length))
  let title (name : Octets) (isFirst : Bool) : Octets :=
    let name := if name = ['-'] then "standard input".toList else name
    (if isFirst then [] else ['\n']) ++ "==> ".toList ++ name ++ " <==\n".toList
  let pieces := sources.found.zipIdx.map fun (source, index) =>
    match source.content with
    | .ok content => (if shows then title source.name (index == 0) else []) ++ part content
    | .error _ => []
  pieces.flatten

def give (turning : Char) (part : Amount → Octets → Octets) (process : Process) : Outcome :=
  let process := { process with arguments := withShortCount turning process.arguments }
  let table : OptionTable :=
    { letters := "qvfFz"
      valued := "nc"
      long := [("lines", 'n'), ("bytes", 'c'), ("quiet", 'q'), ("silent", 'q'), ("verbose", 'v')] }
  process.withOptions table 1 fun given =>
    let chosen := (given.options.filter fun option => option.1 == 'n' || option.1 == 'c').getLast?
    let amount : Option Amount :=
      match chosen with
      | none => some ⟨false, false, 10⟩
      | some (letter, text) => amount? (letter == 'c') turning text
    match amount with
    | none =>
        let (letter, text) := chosen.getD ('n', [])
        Outcome.complained process 1
          (process.remark ("invalid number of " ++ (if letter = 'c' then "bytes" else "lines") ++
            ": " ++ Octets.quoted text))
    | some amount =>
        let sources := Sources.read process given.operands
        sources.outcome process
          (fun name =>
            "cannot open '" ++ (if name = "-" then "standard input" else name) ++ "' for reading")
          (titled sources (given.has 'q') (given.has 'v') (part amount))

def head (process : Process) : Outcome := give '-' first process

def tail (process : Process) : Outcome := give '+' last process

def positions? (text : Octets) : Option (Nat → Bool) :=
  (Text.pieces (· == ',') text).foldlM
    (fun chosen range =>
      let low := range.takeWhile Char.isDigit
      match range.dropWhile Char.isDigit with
      | [] =>
          if low.isEmpty then none
          else some fun n => chosen n || n == Numeral.ofDigits 10 low
      | '-' :: high =>
          let least := max 1 (Numeral.ofDigits 10 low)
          if high.all Char.isDigit && !(low.isEmpty && high.isEmpty) then
            some fun n =>
              chosen n || (least ≤ n && (high.isEmpty || n ≤ Numeral.ofDigits 10 high))
          else none
      | _ => none)
    fun _ => false

def chosen {α : Type} (positions : Nat → Bool) (items : List α) : List α :=
  (items.zipIdx.filter fun (_, index) => positions (index + 1)).map (·.1)

def cutFault? (given : Given) (list : Octets) : Option String :=
  let fields := given.has 'f'
  match positions? list with
  | none =>
      let kind := if fields then "field value" else "byte or character position"
      some ("invalid " ++ kind ++ " " ++ Octets.quoted list)
  | some positions =>
      if positions 0 then
        some ((if fields then "fields" else "byte/character positions") ++ " are numbered from 1")
      else if (given.value? 'd').any (·.length != 1) then
        some "the delimiter must be a single character"
      else none

def cutLine (given : Given) (positions : Nat → Bool) (line : Octets) : Option Octets :=
  if given.has 'f' then
    let delimiter := ((given.value? 'd').bind List.head?).getD '\t'
    let fields := Text.pieces (· == delimiter) line
    if fields.length = 1 then if given.has 's' then none else some line
    else
      some (List.intercalate ((given.value? 'O').getD [delimiter]) (chosen positions fields))
  else some (chosen positions line)

def cut (process : Process) : Outcome :=
  let table : OptionTable :=
    { letters := "sn"
      valued := "bcfdO"
      long :=
        [("bytes", 'b'), ("characters", 'c'), ("fields", 'f'), ("delimiter", 'd'),
          ("only-delimited", 's'), ("output-delimiter", 'O')] }
  process.withOptions table 1 fun given =>
    match (given.value? 'b').or ((given.value? 'c').or (given.value? 'f')) with
    | none => process.misused 1 "you must specify a list of bytes, characters, or fields"
    | some list =>
        match cutFault? given list with
        | some message => process.misused 1 message
        | none =>
            let positions := (positions? list).getD fun _ => false
            let sources := Sources.read process given.operands
            sources.outcome process plainly
              (Octets.unlines ((Octets.lineList sources.text).filterMap (cutLine given positions)))

end TagTemplate.Excerpt
