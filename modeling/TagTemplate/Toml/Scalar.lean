import TagTemplate.Calendar.Date
import TagTemplate.Json.Reader
import TagTemplate.Toml.Item

/-! Reading the scalars of TOML: quoted texts, numbers, dates. Each reader takes a scalar from the
front of a text and gives back what follows it. -/

namespace TagTemplate.Toml

def isSpace (c : Char) : Bool := c == ' ' || c == '\t'

def isPlain (c : Char) : Bool := c == '\t' || (0x20 ≤ c.toNat && c.toNat != 0x7f)

def lineEnd? : List Char → Option (List Char)
  | '\n' :: rest => some rest
  | '\r' :: '\n' :: rest => some rest
  | _ => none

def hexNumber? (count : Nat) (text : List Char) : Option (Nat × List Char) :=
  let found := text.take count
  if found.length = count ∧ found.all fun c => (Json.hexValue? c).isSome then
    some (Numeral.ofDigits 16 found, text.drop count)
  else none

def escape? : List Char → Option (Char × List Char)
  | 'b' :: rest => some ('\x08', rest)
  | 't' :: rest => some ('\t', rest)
  | 'n' :: rest => some ('\n', rest)
  | 'f' :: rest => some ('\x0c', rest)
  | 'r' :: rest => some ('\r', rest)
  | '"' :: rest => some ('"', rest)
  | '\\' :: rest => some ('\\', rest)
  | 'u' :: rest =>
      match hexNumber? 4 rest with
      | some (code, after) =>
          if code.isValidChar then some (Char.ofNat code, after) else none
      | none => none
  | 'U' :: rest =>
      match hexNumber? 8 rest with
      | some (code, after) =>
          if code.isValidChar then some (Char.ofNat code, after) else none
      | none => none
  | _ => none

def basicText? : Nat → List Char → Option (List Char × List Char)
  | 0, _ => none
  | _, [] => none
  | fuel + 1, c :: rest =>
      if c = '"' then some ([], rest)
      else if c = '\\' then
        match escape? rest with
        | some (meant, after) =>
            (basicText? fuel after).map fun (content, rest) => (meant :: content, rest)
        | none => none
      else if isPlain c then
        (basicText? fuel rest).map fun (content, rest) => (c :: content, rest)
      else none

def literalText? (text : List Char) : Option (List Char × List Char) :=
  let content := text.takeWhile fun c => c != '\''
  match text.dropWhile fun c => c != '\'' with
  | _ :: rest => if content.all isPlain then some (content, rest) else none
  | [] => none

/-- The end of a text in triple quotes: three quotes, before which one or two more belong to the
content. -/
def tripleEnd? (quote : Char) (text : List Char) : Option (List Char × List Char) :=
  let quotes := (text.takeWhile (· == quote)).length
  if 3 ≤ quotes ∧ quotes ≤ 5 then
    some (List.replicate (quotes - 3) quote, text.drop quotes)
  else none

def dropLayout : List Char → List Char
  | [] => []
  | '\r' :: '\n' :: rest => dropLayout rest
  | c :: rest => if isSpace c || c == '\n' then dropLayout rest else c :: rest

def foldedLine? (text : List Char) : Option (List Char) :=
  (lineEnd? (text.dropWhile isSpace)).map dropLayout

def tripleText? (quote : Char) : Nat → List Char → Option (List Char × List Char)
  | 0, _ => none
  | _, [] => none
  | fuel + 1, c :: rest =>
      if c = quote then
        let quotes := ((c :: rest).takeWhile (· == quote)).length
        match tripleEnd? quote (c :: rest) with
        | some found => some found
        | none =>
            if quotes < 3 then
              (tripleText? quote fuel rest).map fun (content, rest) => (c :: content, rest)
            else none
      else
        match lineEnd? (c :: rest) with
        | some after =>
            (tripleText? quote fuel after).map fun (content, rest) => ('\n' :: content, rest)
        | none =>
            if c = '\\' ∧ quote = '"' then
              match escape? rest with
              | some (meant, after) =>
                  (tripleText? quote fuel after).map fun (content, rest) =>
                    (meant :: content, rest)
              | none =>
                  match foldedLine? rest with
                  | some after => tripleText? quote fuel after
                  | none => none
            else if isPlain c then
              (tripleText? quote fuel rest).map fun (content, rest) => (c :: content, rest)
            else none

/-- A quoted text of any of the four forms. A line end right after triple quotes does not count. -/
def quoted? (text : List Char) : Option (List Char × List Char) :=
  let withoutLineEnd (rest : List Char) : List Char := (lineEnd? rest).getD rest
  match text with
  | '"' :: '"' :: '"' :: rest => tripleText? '"' text.length (withoutLineEnd rest)
  | '\'' :: '\'' :: '\'' :: rest => tripleText? '\'' text.length (withoutLineEnd rest)
  | '"' :: rest => basicText? text.length rest
  | '\'' :: rest => literalText? rest
  | _ => none

def groupedDigits (isDigit : Char → Bool) : Nat → List Char → List Char × List Char
  | 0, text => ([], text)
  | fuel + 1, text =>
      match text with
      | '_' :: c :: rest =>
          if isDigit c then
            let (digits, after) := groupedDigits isDigit fuel rest
            (c :: digits, after)
          else ([], text)
      | c :: rest =>
          if isDigit c then
            let (digits, after) := groupedDigits isDigit fuel rest
            (c :: digits, after)
          else ([], text)
      | [] => ([], [])

def digits? (isDigit : Char → Bool) (text : List Char) : Option (List Char × List Char) :=
  match text with
  | c :: rest =>
      if isDigit c then
        let (digits, after) := groupedDigits isDigit rest.length rest
        some (c :: digits, after)
      else none
  | [] => none

def splitSign : List Char → Bool × List Char
  | '-' :: rest => (true, rest)
  | '+' :: rest => (false, rest)
  | other => (false, other)

def wholeDigits? (text : List Char) : Option (List Char × List Char) :=
  match text with
  | '0' :: rest => some (['0'], rest)
  | other => digits? Char.isDigit other

/-- A floating-point number. One beyond the range counts only when it is negative. -/
def float? (text : List Char) : Option (Item × List Char) :=
  let (negative, body) := splitSign text
  match body with
  | 'i' :: 'n' :: 'f' :: rest => some (.float, rest)
  | 'n' :: 'a' :: 'n' :: rest => some (.float, rest)
  | _ => do
      let (whole, rest) ← wholeDigits? body
      let exponent? (text : List Char) : Option (Int × List Char) :=
        match text with
        | c :: after =>
            if c = 'e' ∨ c = 'E' then
              let (negative, digits) := splitSign after
              (digits? Char.isDigit digits).map fun (found, rest) =>
                let n : Int := Numeral.ofDigits 10 found
                (if negative then -n else n, rest)
            else none
        | [] => none
      let (fraction, exponent, rest) ←
        match rest with
        | '.' :: after => do
            let (fraction, rest) ← digits? Char.isDigit after
            match exponent? rest with
            | some (n, rest) => some (fraction, n, rest)
            | none => some (fraction, 0, rest)
        | other => (exponent? other).map fun (n, rest) => ([], n, rest)
      let found := Binary64.ofDecimal? negative (Numeral.ofDigits 10 (whole ++ fraction))
        (exponent - fraction.length)
      if found.isNone && !negative then none else some (.float, rest)

def integer? (text : List Char) : Option (Item × List Char) :=
  let based (base : Nat) (isDigit : Char → Bool) (rest : List Char) :
      Option (Item × List Char) := do
    let (digits, after) ← digits? isDigit rest
    let n : Int := Numeral.ofDigits base digits
    if n ≤ Numeral.int64Max then some (.integer n, after) else none
  match text with
  | '0' :: 'x' :: rest => based 16 (fun c => (Json.hexValue? c).isSome) rest
  | '0' :: 'o' :: rest => based 8 (fun c => '0' ≤ c && c ≤ '7') rest
  | '0' :: 'b' :: rest => based 2 (fun c => c == '0' || c == '1') rest
  | _ => do
      let (negative, body) := splitSign text
      let (digits, rest) ← wholeDigits? body
      let n : Int := Numeral.ofDigits 10 digits
      let n := if negative then -n else n
      if Numeral.int64Min ≤ n ∧ n ≤ Numeral.int64Max then some (.integer n, rest) else none

def field? (count least most : Nat) (text : List Char) : Option (Nat × List Char) :=
  let found := text.take count
  let n := Numeral.ofDigits 10 found
  if found.length = count ∧ found.all Char.isDigit ∧ least ≤ n ∧ n ≤ most then
    some (n, text.drop count)
  else none

def after? (c : Char) : List Char → Option (List Char)
  | d :: rest => if c = d then some rest else none
  | [] => none

def time? (text : List Char) : Option (List Char) := do
  let (_, rest) ← field? 2 0 23 text
  let rest ← after? ':' rest
  let (_, rest) ← field? 2 0 59 rest
  let rest ← after? ':' rest
  let (_, rest) ← field? 2 0 60 rest
  match rest with
  | '.' :: c :: more => if c.isDigit then some (more.dropWhile Char.isDigit) else some rest
  | _ => some rest

def zone (text : List Char) : List Char :=
  match text with
  | 'Z' :: rest => rest
  | 'z' :: rest => rest
  | c :: rest =>
      if c = '+' ∨ c = '-' then
        (do
          let (_, rest) ← field? 2 0 23 rest
          let rest ← after? ':' rest
          let (_, rest) ← field? 2 0 59 rest
          some rest).getD text
      else text
  | [] => []

def datetime? (text : List Char) : Option (Item × List Char) :=
  let date? : Option (List Char) := do
    let (year, rest) ← field? 4 0 9999 text
    let rest ← after? '-' rest
    let (month, rest) ← field? 2 1 12 rest
    let rest ← after? '-' rest
    let (_, rest) ← field? 2 1 (Calendar.daysInMonth year month) rest
    some rest
  match date? with
  | some rest =>
      match rest with
      | c :: after =>
          if c = 'T' ∨ c = 't' ∨ c = ' ' then
            match time? after with
            | some rest => some (.datetime, zone rest)
            | none => some (.datetime, rest)
          else some (.datetime, rest)
      | [] => some (.datetime, [])
  | none => (time? text).map fun rest => (.datetime, rest)

def plainScalar? (text : List Char) : Option (Item × List Char) :=
  match text with
  | 't' :: 'r' :: 'u' :: 'e' :: rest => some (.boolean true, rest)
  | 'f' :: 'a' :: 'l' :: 's' :: 'e' :: rest => some (.boolean false, rest)
  | _ => datetime? text <|> float? text <|> integer? text

end TagTemplate.Toml
