import TagTemplate.Numeral.Reading
import TagTemplate.Program.Sources

/-! Programs that put what they read into another shape: `fold`, `paste` and `base64`. -/

namespace TagTemplate.Reshaping

def fitting (atSpaces : Bool) (width : Nat) (line : Octets) : Octets :=
  let part := line.take width
  let kept := Text.dropEndWhile (fun c => c != ' ' && c != '\t') part
  if atSpaces && !kept.isEmpty then kept else part

def folded (atSpaces : Bool) (width : Nat) : Nat → Octets → List Octets
  | 0, line => [line]
  | fuel + 1, line =>
      if line.length ≤ width then [line]
      else
        let part := fitting atSpaces width line
        part :: folded atSpaces width fuel (line.drop part.length)

def fold (process : Process) : Outcome :=
  let table : OptionTable := ⟨"bs", "w", [("bytes", 'b'), ("spaces", 's'), ("width", 'w')]⟩
  process.withOptions table 1 fun given =>
    let text := (given.value? 'w').getD "80".toList
    match Numeral.digitsOnly? text with
    | none | some 0 =>
        .complained process 1
          (process.remark
            ("invalid number of columns: " ++ Octets.quoted text))
    | some width =>
        let sources := Sources.read process given.operands
        let (lines, ended) := Octets.lines sources.text
        let broken := lines.flatMap fun line => folded (given.has 's') width line.length line
        sources.outcome process plainly (Octets.unlinesAs broken ended)

def joined (separators : Octets) : Nat → List Octets → Octets
  | _, [] => []
  | _, [text] => text
  | index, text :: rest =>
      text ++ (separators[index % separators.length]?).toList ++ joined separators (index + 1) rest

def sideBySide (separators : Octets) : Nat → List (List Octets) → List Octets
  | 0, _ => []
  | fuel + 1, columns =>
      if columns.all List.isEmpty then []
      else
        joined separators 0 (columns.map fun column => column.head?.getD []) ::
          sideBySide separators fuel (columns.map List.tail)

def dealt (count : Nat) (lines : List Octets) : List (List Octets) :=
  (List.range count).map fun column =>
    (lines.zipIdx.filter fun (_, index) => index % count == column).map (·.1)

def paste (process : Process) : Outcome :=
  let table : OptionTable := ⟨"s", "d", [("serial", 's'), ("delimiters", 'd')]⟩
  process.withOptions table 1 fun given =>
    let separators := (given.value? 'd').getD ['\t']
    let inputs := (given.operands.filter (· == ['-'])).length
    let sources := Sources.read process given.operands
    let columns := sources.found.filterMap fun source =>
      source.content.toOption.map Octets.lineList
    let columns :=
      if 1 < inputs && inputs == given.operands.length then
        dealt inputs (Octets.lineList process.input)
      else columns
    let lines :=
      if given.has 's' then columns.map (joined separators 0)
      else sideBySide separators ((columns.map List.length).foldl max 0) columns
    sources.outcome process plainly (Octets.unlines lines)

def signs : Octets :=
  "ABCDEFGHIJKLMNOPQRSTUVWXYZabcdefghijklmnopqrstuvwxyz0123456789+/".toList

def sign (n : Nat) : Char := signs[n % 64]?.getD 'A'

def encoded : Octets → Octets
  | [] => []
  | [a] => [sign (a.toNat / 4), sign (a.toNat * 16), '=', '=']
  | [a, b] =>
      let n := a.toNat * 256 + b.toNat
      [sign (n / 1024), sign (n / 16), sign (n * 4), '=']
  | a :: b :: c :: rest =>
      let n := (a.toNat * 256 + b.toNat) * 256 + c.toNat
      sign (n / 262144) :: sign (n / 4096) :: sign (n / 64) :: sign n :: encoded rest

def value? (c : Char) : Option Nat := signs.findIdx? (· == c)

def byte (n : Nat) : Char := Char.ofNat (n % 256)

def decoded : Octets → Octets × Bool
  | [] => ([], true)
  | a :: b :: c :: d :: rest =>
      match value? a, value? b, value? c, value? d with
      | some w, some x, some y, some z =>
          let n := ((w * 64 + x) * 64 + y) * 64 + z
          let (more, complete) := decoded rest
          (byte (n / 65536) :: byte (n / 256) :: byte n :: more, complete)
      | some w, some x, some y, none =>
          let n := (w * 64 + x) * 64 + y
          ([byte (n / 1024), byte (n / 4)], d == '=' && rest.isEmpty)
      | some w, some x, none, none =>
          ([byte ((w * 64 + x) / 16)], c == '=' && d == '=' && rest.isEmpty)
      | _, _, _, _ => ([], false)
  | [a, b, c] =>
      match value? a, value? b, value? c with
      | some w, some x, some y =>
          let n := (w * 64 + x) * 64 + y
          ([byte (n / 1024), byte (n / 4)], false)
      | _, _, _ => ([], false)
  | [a, b] =>
      match value? a, value? b with
      | some w, some x => ([byte ((w * 64 + x) / 16)], false)
      | _, _ => ([], false)
  | [_] => ([], false)

def base64 (process : Process) : Outcome :=
  let table : OptionTable :=
    ⟨"di", "w", [("decode", 'd'), ("ignore-garbage", 'i'), ("wrap", 'w')]⟩
  process.withOptions table 1 fun given =>
    let sources := Sources.read process given.operands
    if given.has 'd' then
      let text := sources.text.filter fun c =>
        c != '\n' && (!given.has 'i' || (value? c).isSome || c == '=')
      let (bytes, complete) := decoded text
      let outcome := sources.outcome process plainly bytes
      if complete then outcome else outcome.complaining 1 (process.remark "invalid input")
    else
      let width := (given.value? 'w').bind Numeral.digitsOnly? |>.getD 76
      let text := encoded sources.text
      let output :=
        if width = 0 ∨ text.isEmpty then text
        else Octets.unlines (folded false width text.length text)
      sources.outcome process plainly output

end TagTemplate.Reshaping
