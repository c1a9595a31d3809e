import TagTemplate.Numeral.Reading
import TagTemplate.Program.Options
import TagTemplate.Regex.Reader

/-! Calculating with words: `expr`. -/

namespace TagTemplate.Calculation

abbrev Reading := Octets × List Octets

def number? (value : Octets) : Option Int := Numeral.readInt64? value

def number (value : Octets) : Except String Int :=
  match number? value with
  | some n => .ok n
  | none => .error "non-integer argument"

def isNull (value : Octets) : Bool := value.isEmpty || number? value == some 0

def truth (holds : Bool) : Octets := if holds then ['1'] else ['0']

def compared (sign first second : Octets) : Octets :=
  let order : Ordering :=
    match number? first, number? second with
    | some a, some b => compare a b
    | _, _ =>
        if first == second then .eq else if Text.isAtMost first second then .lt else .gt
  match String.ofList sign with
  | "<" => truth (order == .lt)
  | "<=" => truth (order != .gt)
  | ">" => truth (order == .gt)
  | ">=" => truth (order != .lt)
  | "!=" => truth (order != .eq)
  | _ => truth (order == .eq)

def computed (sign first second : Octets) : Except String Octets := do
  let a ← number first
  let b ← number second
  match sign with
  | ['+'] => return Numeral.signedDecimal (a + b)
  | ['-'] => return Numeral.signedDecimal (a - b)
  | ['*'] => return Numeral.signedDecimal (a * b)
  | _ =>
      if b = 0 then .error "division by zero"
      else if sign = ['/'] then return Numeral.signedDecimal (a.tdiv b)
      else return Numeral.signedDecimal (a.tmod b)

def matched (text pattern : Octets) : Except String Octets := do
  let regex ← Regex.read ⟨false, false⟩ pattern
  match (Regex.both Regex.start regex).find? none text, regex.groupCount with
  | some found, 0 => return Numeral.decimal found.text.length
  | some found, _ => return found.group 1
  | none, 0 => return ['0']
  | none, _ => return []

def levels : List (List String) :=
  [["|"], ["&"], ["<", "<=", "=", "==", "!=", ">=", ">"], ["+", "-"], ["*", "/", "%"], [":"]]

def combined (sign first second : Octets) : Except String Octets :=
  match String.ofList sign with
  | "|" => .ok (if !isNull first then first else if isNull second then ['0'] else second)
  | "&" => .ok (if isNull first || isNull second then ['0'] else first)
  | ":" => matched first second
  | "+" | "-" | "*" | "/" | "%" => computed sign first second
  | _ => .ok (compared sign first second)

def cutShort {α : Type} (before : Octets) : Except String α :=
  .error ("syntax error: missing argument after " ++ Octets.quoted before)

def expression : Nat → (before : Octets) → List (List String) → List Octets → Except String Reading
  | 0, before, _, _ => cutShort before
  | fuel + 1, before, [], words =>
      match words with
      | [] => cutShort before
      | ['('] :: rest => do
          match ← expression fuel ['('] levels rest with
          | (value, [')'] :: rest) => return (value, rest)
          | (_, []) => .error "syntax error: expecting ')'"
          | (_, next :: _) =>
              .error ("syntax error: expecting ')' instead of '" ++
                Octets.display next ++ "'")
      | ['+'] :: word :: rest => .ok (word, rest)
      | word :: rest =>
          let argument (before : Octets) (rest : List Octets) : Except String Reading :=
            expression fuel before [] rest
          match String.ofList word with
          | "length" => do
              let (text, rest) ← argument word rest
              return (Numeral.decimal text.length, rest)
          | "match" => do
              let (text, rest) ← argument word rest
              let (pattern, rest) ← argument text rest
              return (← matched text pattern, rest)
          | "index" => do
              let (text, rest) ← argument word rest
              let (members, rest) ← argument text rest
              let index := (text.findIdx? members.contains).map (· + 1)
              return (Numeral.decimal (index.getD 0), rest)
          | "substr" => do
              let (text, rest) ← argument word rest
              let (first, rest) ← argument text rest
              let (count, rest) ← argument first rest
              match number? first, number? count with
              | some first, some count =>
                  if first < 1 then return ([], rest)
                  else return ((text.drop (first.toNat - 1)).take count.toNat, rest)
              | _, _ => return ([], rest)
          | _ => .ok (word, rest)
  | fuel + 1, before, level :: stronger, words => do
      let (first, rest) ← expression fuel before stronger words
      more fuel level stronger first rest
where
  more : Nat → List String → List (List String) → Octets → List Octets → Except String Reading
    | 0, _, _, value, rest => .ok (value, rest)
    | _, _, _, value, [] => .ok (value, [])
    | fuel + 1, level, stronger, value, sign :: rest =>
        if level.any (·.toList == sign) then do
          let (second, rest) ← expression fuel sign stronger rest
          more fuel level stronger (← combined sign value second) rest
        else .ok (value, sign :: rest)

def expr (process : Process) : Outcome :=
  let words :=
    match process.arguments with
    | ['-', '-'] :: rest => rest
    | words => words
  if words.isEmpty then process.misused 2 "missing operand"
  else
    match expression (20 * words.length + 20) [] levels words with
    | .error message => .complained process 2 (process.remark message)
    | .ok (_, next :: _) =>
        .complained process 2
          (process.remark
            ("syntax error: unexpected argument " ++ Octets.quoted next))
    | .ok (value, []) =>
        { Outcome.wrote process (value ++ ['\n']) with
          status := .code (if isNull value then 1 else 0) }

end TagTemplate.Calculation
