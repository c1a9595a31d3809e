import TagTemplate.Numeral.Binary64

/-! Floating-point numbers written with a given number of places. The exact value is rounded, a tie
to the even digit. -/

namespace TagTemplate.Binary64

def withPoint (places : Nat) (units : Nat) : List Char :=
  let digits := Numeral.padZeros (places + 1) (Numeral.decimal units)
  let whole := digits.take (digits.length - places)
  if places = 0 then whole else whole ++ '.' :: digits.drop (digits.length - places)

def fixed (x : Binary64) (places : Nat) : List Char :=
  let (num, den) := x.ratio
  withPoint places (roundDiv (num * Nat.pow 10 places) den)

def mantissaAndPower (x : Binary64) (places : Nat) : List Char × Int :=
  if x.isZero then (withPoint places 0, 0)
  else
    let (num, den) := x.ratio
    let power := leadingPower num den
    let (n, d) := scaleTen num den (power - places)
    let units := roundDiv n d
    if units = Nat.pow 10 (places + 1) then (withPoint places (Nat.pow 10 places), power + 1)
    else (withPoint places units, power)

/-- The absolute value in scientific writing: the exponent has a sign and at least two digits. -/
def exponential (x : Binary64) (places : Nat) : List Char :=
  let (mantissa, power) := x.mantissaAndPower places
  mantissa ++ 'e' :: (if power < 0 then '-' else '+') ::
    Numeral.padZeros 2 (Numeral.decimal power.natAbs)

end TagTemplate.Binary64
