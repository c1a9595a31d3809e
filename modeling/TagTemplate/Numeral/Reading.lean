import TagTemplate.Numeral.Binary64

/-! Reading numbers from text: bounded integers and decimal fractions with an exponent. -/

namespace TagTemplate.Numeral

def int64Min : Int := -9223372036854775808

def int64Max : Int := 9223372036854775807

def word64Max : Nat := 18446744073709551615

structure Integer64 where
  value : Int
  least : int64Min ≤ value
  greatest : value ≤ word64Max
deriving DecidableEq, Repr

def Integer64.ofInt? (n : Int) : Option Integer64 :=
  if least : int64Min ≤ n then
    if greatest : n ≤ word64Max then some ⟨n, least, greatest⟩ else none
  else none

def digitsOnly? (text : List Char) : Option Nat :=
  if text ≠ [] ∧ text.all Char.isDigit then some (ofDigits 10 text) else none

def readSize? (text : List Char) : Option Nat :=
  let body :=
    match text with
    | '+' :: rest => rest
    | other => other
  (digitsOnly? body).filter (· ≤ word64Max)

def readInt64? (text : List Char) : Option Int :=
  match text with
  | '-' :: rest => ((digitsOnly? rest).map fun n => -(n : Int)).filter (int64Min ≤ ·)
  | '+' :: rest => ((digitsOnly? rest).map fun n => (n : Int)).filter (· ≤ int64Max)
  | other => ((digitsOnly? other).map fun n => (n : Int)).filter (· ≤ int64Max)

structure DecimalParts where
  negative : Bool
  whole : List Char
  fraction : Option (List Char)
  exponent : Option Int
deriving DecidableEq, Repr

def spanDigits (text : List Char) : List Char × List Char :=
  (text.takeWhile Char.isDigit, text.dropWhile Char.isDigit)

def readExponent? (text : List Char) : Option (Int × List Char) :=
  let (negative, body) :=
    match text with
    | '-' :: rest => (true, rest)
    | '+' :: rest => (false, rest)
    | other => (false, other)
  match spanDigits body with
  | ([], _) => none
  | (ds, rest) =>
      let n : Int := ofDigits 10 ds
      some (if negative then -n else n, rest)

/-- A sign, digits, a point with digits and an exponent at the front of a text, each part optional,
and what follows them. An `e` without digits after it belongs to what follows. -/
def readParts (text : List Char) : DecimalParts × List Char :=
  let (negative, body) :=
    match text with
    | '-' :: rest => (true, rest)
    | other => (false, other)
  let (whole, rest) := spanDigits body
  let (fraction, rest) :=
    match rest with
    | '.' :: after => let (ds, rest) := spanDigits after; (some ds, rest)
    | other => (none, other)
  match rest with
  | c :: after =>
      match (if c = 'e' ∨ c = 'E' then readExponent? after else none) with
      | some (n, rest) => (⟨negative, whole, fraction, some n⟩, rest)
      | none => (⟨negative, whole, fraction, none⟩, rest)
  | [] => (⟨negative, whole, fraction, none⟩, [])

def DecimalParts.toBinary64? (parts : DecimalParts) : Option Binary64 :=
  let fraction := parts.fraction.getD []
  Binary64.ofDecimal? parts.negative (ofDigits 10 (parts.whole ++ fraction))
    (parts.exponent.getD 0 - fraction.length)

def readBinary64? (text : List Char) : Option Binary64 :=
  match readParts text with
  | (parts, []) =>
      if parts.whole = [] ∧ parts.fraction.getD [] = [] then none else parts.toBinary64?
  | _ => none

end TagTemplate.Numeral
