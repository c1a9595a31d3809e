import TagTemplate.Calendar.Date
import TagTemplate.Numeral.Reading
import TagTemplate.Text.Pieces

/-! Reading dates: RFC 3339 with a zone, a date and time without one, and a date alone. -/

namespace TagTemplate.Calendar

def number? (least most : Nat) (text : List Char) : Option (Nat × List Char) :=
  let found := (text.take most).takeWhile Char.isDigit
  if found.length < least then none
  else some (Numeral.ofDigits 10 found, text.drop found.length)

def mark? (c : Char) : List Char → Option (List Char)
  | d :: rest => if d = c then some rest else none
  | [] => none

def separator? : List Char → Option (List Char)
  | c :: rest => if c = 'T' ∨ c = 't' ∨ c = ' ' then some rest else none
  | [] => none

/-- The fraction of a second after its point, in nanoseconds, without digits beyond the ninth. -/
def fraction? (text : List Char) : Option (Nat × List Char) :=
  let digits := text.takeWhile Char.isDigit
  if digits = [] then none
  else
    let kept := digits.take 9
    some (Numeral.ofDigits 10 kept * Nat.pow 10 (9 - kept.length), text.dropWhile Char.isDigit)

def zoneEnd? : List Char → Option (List Char)
  | c :: rest =>
      if c = 'Z' ∨ c = 'z' then some rest
      else if c = '+' ∨ c = '-' ∨ c = '−' then do
        let (hours, rest) ← number? 2 2 rest
        let rest ← mark? ':' rest
        let (minutes, rest) ← number? 2 2 rest
        if hours < 24 ∧ minutes < 60 then some rest else none
      else none
  | [] => none

/-- A date and time with a zone; the time of the zone is kept. -/
def readZoned? (text : List Char) : Option DateTime := do
  let (year, rest) ← number? 4 4 text
  let rest ← mark? '-' rest
  let (month, rest) ← number? 2 2 rest
  let rest ← mark? '-' rest
  let (day, rest) ← number? 2 2 rest
  let rest ← separator? rest
  let (hour, rest) ← number? 2 2 rest
  let rest ← mark? ':' rest
  let (minute, rest) ← number? 2 2 rest
  let rest ← mark? ':' rest
  let (second, rest) ← number? 2 2 rest
  let (nanosecond, rest) ←
    match rest with
    | '.' :: after => fraction? after
    | other => some (0, other)
  let rest ← zoneEnd? rest
  let time : DateTime := ⟨year, month, day, hour, minute, second, nanosecond⟩
  if rest = [] ∧ time.isValid then some time else none

def looseNumber? (text : List Char) : Option (Nat × List Char) :=
  number? 1 2 (text.dropWhile Unicode.isBlank)

def looseYear? (text : List Char) : Option (Int × List Char) :=
  match text.dropWhile Unicode.isBlank with
  | '-' :: rest => (number? 1 rest.length rest).map fun (n, after) => (-(n : Int), after)
  | '+' :: rest => (number? 1 rest.length rest).map fun (n, after) => ((n : Int), after)
  | other => (number? 1 4 other).map fun (n, after) => ((n : Int), after)

def looseDate? (text : List Char) : Option ((Int × Nat × Nat) × List Char) := do
  let (year, rest) ← looseYear? text
  let rest ← mark? '-' rest
  let (month, rest) ← looseNumber? rest
  let rest ← mark? '-' rest
  let (day, rest) ← looseNumber? rest
  some ((year, month, day), rest)

def readLocal? (text : List Char) : Option DateTime := do
  let ((year, month, day), rest) ← looseDate? text
  let rest ← mark? 'T' rest
  let (hour, rest) ← looseNumber? rest
  let rest ← mark? ':' rest
  let (minute, rest) ← looseNumber? rest
  let rest ← mark? ':' rest
  let (second, rest) ← looseNumber? rest
  let time : DateTime := ⟨year, month, day, hour, minute, second, 0⟩
  if rest = [] ∧ time.isValid then some time else none

def readDay? (text : List Char) : Option DateTime := do
  let ((year, month, day), rest) ← looseDate? text
  let time : DateTime := ⟨year, month, day, 0, 0, 0, 0⟩
  if rest = [] ∧ time.isValid then some time else none

def read? (text : List Char) : Option DateTime :=
  let trimmed := Text.trim text
  readZoned? trimmed <|> readLocal? trimmed <|> readDay? trimmed

end TagTemplate.Calendar
