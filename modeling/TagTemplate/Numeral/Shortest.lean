import TagTemplate.Numeral.Binary64

/-! The shortest decimal that reads back as a given binary number, and how it is laid out. -/

namespace TagTemplate

structure Decimal where
  digits : Nat
  power : Int
deriving DecidableEq, Repr

namespace Binary64

/-- The bounds of the reals that round to a positive number, and the number itself, as numerators
over one denominator. The gap below a power of two is half as wide. -/
structure Basin where
  lower : Nat
  value : Nat
  upper : Nat
  den : Nat
  /-- Whether the bounds themselves round to the number: they do when its significand is even. -/
  closed : Bool

def basin (x : Binary64) : Basin :=
  let quarter := x.exponent - 2
  let below := if x.significand = leastNormal ∧ leastExponent < x.exponent then 1 else 2
  let (unit, den) : Nat × Nat :=
    if 0 ≤ quarter then (Nat.pow 2 quarter.toNat, 1) else (1, Nat.pow 2 (-quarter).toNat)
  { lower := (4 * x.significand - below) * unit
    value := 4 * x.significand * unit
    upper := (4 * x.significand + 2) * unit
    den := den
    closed := x.significand % 2 == 0 }

def Basin.holds (basin : Basin) (digits : Nat) (power : Int) : Bool :=
  let (scaled, unit) : Nat × Nat :=
    if 0 ≤ power then (digits * Nat.pow 10 power.toNat * basin.den, 1)
    else (digits * basin.den, Nat.pow 10 (-power).toNat)
  if basin.closed then basin.lower * unit ≤ scaled && scaled ≤ basin.upper * unit
  else basin.lower * unit < scaled && scaled < basin.upper * unit

/-- The decimal nearest to the number among those of its basin on the grid of a power of ten, the
even one of two equally near. -/
def Basin.nearest? (basin : Basin) (power : Int) : Option Decimal :=
  let (num, den) := scaleTen basin.value basin.den power
  let down := num / den
  match basin.holds down power, basin.holds (down + 1) power with
  | true, true => some ⟨roundDiv num den, power⟩
  | true, false => some ⟨down, power⟩
  | false, true => some ⟨down + 1, power⟩
  | false, false => none

/-- The first grid that meets the basin, from coarse to fine; seventeen digits always do. -/
def Basin.coarsest (basin : Basin) (power : Int) : Nat → Decimal
  | 0 => ⟨0, power⟩
  | count + 1 =>
      match basin.nearest? power with
      | some found => found
      | none => basin.coarsest (power - 1) count

def trimZeros (digits : Nat) (power : Int) : Decimal :=
  if digits ≠ 0 ∧ digits % 10 = 0 then trimZeros (digits / 10) (power + 1) else ⟨digits, power⟩
termination_by digits
decreasing_by omega

/-- The decimal with the fewest digits that reads back as a number, and of those the nearest. -/
def shortest (x : Binary64) : Decimal :=
  if x.isZero then ⟨0, 0⟩
  else
    let basin := x.basin
    let found := basin.coarsest (leadingPower basin.value basin.den) 18
    trimZeros found.digits found.power

end Binary64

structure NumberLayout where
  leastPlain : Int
  endPlain : Int

def valueLayout : NumberLayout := ⟨-5, 16⟩

def Decimal.plain (x : Decimal) : List Char :=
  let digits := Numeral.decimal x.digits
  if 0 ≤ x.power then digits ++ List.replicate x.power.toNat '0' ++ ['.', '0']
  else
    let places := (-x.power).toNat
    let padded := Numeral.padZeros (places + 1) digits
    padded.take (padded.length - places) ++ '.' :: padded.drop (padded.length - places)

def Decimal.scientific (x : Decimal) (leading : Int) : List Char :=
  let mantissa :=
    match Numeral.decimal x.digits with
    | [digit] => [digit]
    | digit :: rest => digit :: '.' :: rest
    | [] => []
  mantissa ++ 'e' :: (if leading < 0 then '-' else '+') :: Numeral.decimal leading.natAbs

def Binary64.write (layout : NumberLayout) (x : Binary64) : List Char :=
  let decimal := x.shortest
  let leading := ((Numeral.decimal decimal.digits).length : Int) - 1 + decimal.power
  let body :=
    if layout.leastPlain ≤ leading ∧ leading < layout.endPlain then decimal.plain
    else decimal.scientific leading
  if x.negative then '-' :: body else body

end TagTemplate
