import TagTemplate.Numeral.Digits

/-! Finite binary floating-point numbers of 64 bits, kept as an exact sign, significand and power of
two, and the rounding of exact ratios to them. -/

namespace TagTemplate

namespace Binary64

def leastExponent : Int := -1074

def greatestExponent : Int := 971

def leastNormal : Nat := 4503599627370496

end Binary64

/-- The number `significand · 2 ^ exponent`, negated when `negative` holds. The two zeros differ in
sign. -/
structure Binary64 where
  negative : Bool
  significand : Nat
  exponent : Int
  narrow : significand < 2 * Binary64.leastNormal
  least : Binary64.leastExponent ≤ exponent
  greatest : exponent ≤ Binary64.greatestExponent
deriving DecidableEq, Repr

namespace Binary64

def zero (negative : Bool) : Binary64 :=
  ⟨negative, 0, leastExponent, by decide, Int.le_refl _, by decide⟩

def farthest (negative : Bool) : Binary64 :=
  ⟨negative, 2 * leastNormal - 1, greatestExponent, by decide, by decide, Int.le_refl _⟩

/-- The nearest integer to `num / den`, the even one of two equally near. -/
def roundDiv (num den : Nat) : Nat :=
  let quotient := num / den
  let twice := 2 * (num % den)
  if twice < den then quotient
  else if den < twice then quotient + 1
  else if quotient % 2 = 0 then quotient else quotient + 1

/-- `num / den · 2 ^ (-shift)` as a ratio of natural numbers. -/
def scaleDown (num den : Nat) (shift : Int) : Nat × Nat :=
  if 0 ≤ shift then (num, den * Nat.pow 2 shift.toNat) else (num * Nat.pow 2 (-shift).toNat, den)

/-- The exponent at which `num / den` has a significand of 53 bits, or the least exponent. -/
def exponentFor (num den : Nat) : Int :=
  let guess : Int := (num.log2 : Int) - den.log2 - 53
  let (n, d) := scaleDown num den guess
  max leastExponent (if n / d < 2 * leastNormal then guess else guess + 1)

/-- The significand and the exponent nearest to `num / den`, the exponent not bounded above. -/
def rounded (num den : Nat) : Nat × Int :=
  let exponent := exponentFor num den
  let (n, d) := scaleDown num den exponent
  let significand := roundDiv n d
  if significand = 2 * leastNormal then (leastNormal, exponent + 1) else (significand, exponent)

theorem scaleDown_succ (num den : Nat) (shift : Int) :
    (scaleDown num den (shift + 1)).1 / (scaleDown num den (shift + 1)).2 =
      (scaleDown num den shift).1 / (scaleDown num den shift).2 / 2 := by
  unfold scaleDown
  by_cases downward : 0 ≤ shift
  · have next : (shift + 1).toNat = shift.toNat + 1 := by omega
    rw [if_pos downward, if_pos (by omega), next, Nat.pow_eq, Nat.pow_eq, Nat.div_div_eq_div_mul,
      Nat.pow_succ, Nat.mul_assoc]
  · have halved : (num * 2 ^ (-shift).toNat) / den / 2 = num * 2 ^ (-(shift + 1)).toNat / den := by
      have next : (-shift).toNat = (-(shift + 1)).toNat + 1 := by omega
      rw [next, Nat.pow_succ, ← Nat.mul_assoc, Nat.div_div_eq_div_mul,
        Nat.mul_div_mul_right _ _ (by decide)]
    rw [if_neg downward]
    simp only [Nat.pow_eq, halved]
    split
    · have none : shift + 1 = 0 := by omega
      simp [none]
    · rfl

theorem scaleDown_antitone (num den : Nat) {shift other : Int} (order : shift ≤ other) :
    (scaleDown num den other).1 / (scaleDown num den other).2 ≤
      (scaleDown num den shift).1 / (scaleDown num den shift).2 := by
  obtain ⟨steps, rfl⟩ := Int.le.dest order
  induction steps with
  | zero => simp
  | succ steps ih =>
      have halved := scaleDown_succ num den (shift + steps)
      rw [Int.natCast_succ, ← Int.add_assoc, halved]
      exact Nat.le_trans (Nat.div_le_self _ _) (ih (by omega))

theorem scaleDown_guess (num den : Nat) :
    let guess : Int := (num.log2 : Int) - den.log2 - 53
    (scaleDown num den guess).1 / (scaleDown num den guess).2 < 2 * (2 * leastNormal) := by
  intro guess
  have wide : 2 * (2 * leastNormal) = 2 ^ 54 := rfl
  have above : num < 2 ^ (num.log2 + 1) := Nat.lt_log2_self
  rcases Nat.eq_zero_or_pos den with rfl | positive
  · unfold scaleDown
    split <;> simp [leastNormal]
  have below : 2 ^ den.log2 ≤ den := Nat.log2_self_le (Nat.ne_of_gt positive)
  rw [wide]
  apply Nat.div_lt_of_lt_mul
  unfold scaleDown
  split
  · have exponent : num.log2 + 1 = den.log2 + guess.toNat + 54 := by omega
    calc num < 2 ^ den.log2 * 2 ^ guess.toNat * 2 ^ 54 := by
          rwa [← Nat.pow_add, ← Nat.pow_add, ← exponent]
      _ ≤ den * 2 ^ guess.toNat * 2 ^ 54 :=
          Nat.mul_le_mul_right _ (Nat.mul_le_mul_right _ below)
  · have exponent : num.log2 + 1 + (-guess).toNat = den.log2 + 54 := by omega
    calc num * 2 ^ (-guess).toNat < 2 ^ (num.log2 + 1) * 2 ^ (-guess).toNat :=
          Nat.mul_lt_mul_of_pos_right above (Nat.pow_pos (by decide))
      _ = 2 ^ den.log2 * 2 ^ 54 := by rw [← Nat.pow_add, exponent, Nat.pow_add]
      _ ≤ den * 2 ^ 54 := Nat.mul_le_mul_right _ below

theorem scaleDown_exponentFor (num den : Nat) :
    (scaleDown num den (exponentFor num den)).1 / (scaleDown num den (exponentFor num den)).2 <
      2 * leastNormal := by
  have guessed := scaleDown_guess num den
  unfold exponentFor
  refine Nat.lt_of_le_of_lt (scaleDown_antitone num den (Int.le_max_right _ _)) ?_
  split
  · next few => exact few
  · rw [scaleDown_succ]
    exact Nat.div_lt_of_lt_mul guessed

theorem roundDiv_le (num den : Nat) : roundDiv num den ≤ num / den + 1 := by
  unfold roundDiv
  dsimp only
  split
  · exact Nat.le_succ _
  · split
    · exact Nat.le_refl _
    · split
      · exact Nat.le_succ _
      · exact Nat.le_refl _

theorem rounded_bounds (num den : Nat) :
    (rounded num den).1 < 2 * leastNormal ∧ leastExponent ≤ (rounded num den).2 := by
  have least : leastExponent ≤ exponentFor num den := Int.le_max_left _ _
  have quotient := scaleDown_exponentFor num den
  have up := roundDiv_le (scaleDown num den (exponentFor num den)).1
    (scaleDown num den (exponentFor num den)).2
  unfold rounded
  dsimp only
  split
  · have narrow : leastNormal < 2 * leastNormal := by decide
    exact ⟨narrow, Int.le_add_one least⟩
  · next other => exact ⟨by omega, least⟩

/-- The floating-point number nearest to `num / den`, ties to the even significand, or nothing when
it lies beyond the farthest one. -/
def ofRatio? (negative : Bool) (num den : Nat) : Option Binary64 :=
  if num = 0 then some (zero negative)
  else
    let parts := rounded num den
    if greatest : parts.2 ≤ greatestExponent then
      some ⟨negative, parts.1, parts.2, (rounded_bounds num den).1, (rounded_bounds num den).2,
        greatest⟩
    else none

/-- The number nearest to `digits · 10 ^ power`. Powers far outside the range are settled without
computing them. -/
def ofDecimal? (negative : Bool) (digits : Nat) (power : Int) : Option Binary64 :=
  if digits = 0 then some (zero negative)
  else
    let magnitude : Int := (Numeral.decimal digits).length + power
    if 400 < magnitude then none
    else if magnitude < -400 then some (zero negative)
    else if 0 ≤ power then ofRatio? negative (digits * Nat.pow 10 power.toNat) 1
    else ofRatio? negative digits (Nat.pow 10 (-power).toNat)

/-- The number nearest to an integer; the farthest of its sign stands for one beyond the range. -/
def ofInt (n : Int) : Binary64 :=
  (ofRatio? (n < 0) n.natAbs 1).getD (farthest (n < 0))

def ratio (x : Binary64) : Nat × Nat :=
  if 0 ≤ x.exponent then (x.significand * Nat.pow 2 x.exponent.toNat, 1)
  else (x.significand, Nat.pow 2 (-x.exponent).toNat)

def toInt? (x : Binary64) : Option Int :=
  let (num, den) := x.ratio
  if num % den = 0 then
    some (if x.negative then -((num / den : Nat) : Int) else ((num / den : Nat) : Int))
  else none

def isZero (x : Binary64) : Bool := x.significand == 0

def leadingPower (num den : Nat) : Int :=
  if den ≤ num then ((Numeral.decimal (num / den)).length : Int) - 1
  else
    let length := (Numeral.decimal (den / num)).length
    if Nat.pow 10 (length - 1) * num = den then -((length - 1 : Nat) : Int) else -(length : Int)

def scaleTen (num den : Nat) (power : Int) : Nat × Nat :=
  if 0 ≤ power then (num, den * Nat.pow 10 power.toNat) else (num * Nat.pow 10 (-power).toNat, den)

end Binary64

end TagTemplate
