import Mathlib.Algebra.Order.Field.Rat
import Mathlib.Algebra.Order.Ring.Abs
import Mathlib.Data.Rat.Cast.Order
import TagTemplate.Proofs.Numeral
import TagTemplate.Value

/-! Which numbers are whole and which texts hold an integer. -/

namespace TagTemplate

namespace Numeral

theorem Spells.le_max {text : List Char} {k : Int} (spelled : Spells text k) :
    k ≤ int64Max := by
  cases spelled with
  | unsigned some ascii fits => exact fits
  | plus some ascii fits => exact fits
  | minus some ascii fits =>
      have positive : 0 ≤ int64Max := by decide
      omega

theorem Spells.solid {text : List Char} {k : Int} (spelled : Spells text k) :
    ∀ c ∈ text, Unicode.isBlank c = false := by
  cases spelled with
  | unsigned some ascii fits =>
      intro c member
      exact isBlank_of_isDigit (ascii c member)
  | plus some ascii fits =>
      intro c member
      rcases List.mem_cons.mp member with rfl | digit
      · decide
      · exact isBlank_of_isDigit (ascii c digit)
  | minus some ascii fits =>
      intro c member
      rcases List.mem_cons.mp member with rfl | digit
      · decide
      · exact isBlank_of_isDigit (ascii c digit)

/-- What is read in the place of an integer where only those of 64 bits are: itself, or the end
beyond which it lies. -/
inductive Clamped (k : Int) : Int → Prop
  | same : Clamped k k
  | above (beyond : int64Max < k) : Clamped k int64Max
  | below (beyond : k < int64Min) : Clamped k int64Min

theorem Clamped.lt_iff {k i bound : Int} (clamped : Clamped k i) (least : 0 ≤ bound)
    (greatest : bound ≤ int64Max) : i < bound ↔ k < bound := by
  cases clamped with
  | same => rfl
  | above beyond => omega
  | below beyond =>
      have negative : int64Min < 0 := by decide
      omega

theorem Clamped.eq_of_mem {k i : Int} (clamped : Clamped k i) (least : int64Min ≤ k)
    (greatest : k ≤ int64Max) : i = k := by
  cases clamped with
  | same => rfl
  | above beyond => omega
  | below beyond => omega

theorem Clamped.eq_min {k i : Int} (clamped : Clamped k i) (positive : 0 ≤ k)
    (bounded : i ≤ int64Max) : i = min k int64Max := by
  cases clamped with
  | same => exact (min_eq_left bounded).symm
  | above beyond => exact (min_eq_right beyond.le).symm
  | below beyond =>
      have negative : int64Min < 0 := by decide
      omega

theorem clamped_max_min (k : Int) : Clamped k (max int64Min (min int64Max k)) := by
  by_cases high : int64Max < k
  · rw [min_eq_left high.le, max_eq_right (by decide)]
    exact .above high
  · rw [min_eq_right (not_lt.mp high)]
    by_cases low : k < int64Min
    · rw [max_eq_left low.le]
      exact .below low
    · rw [max_eq_right (not_lt.mp low)]
      exact .same

end Numeral

namespace Binary64

def exact (x : Binary64) : ℚ :=
  (if x.negative then -1 else 1) * x.significand * 2 ^ x.exponent

theorem ratio_den_pos (x : Binary64) : 0 < x.ratio.2 := by
  unfold ratio
  split
  · exact Nat.one_pos
  · exact Nat.pow_pos (by decide)

theorem exact_eq_ratio (x : Binary64) :
    x.exact = (if x.negative then -1 else 1) * ((x.ratio.1 : ℚ) / x.ratio.2) := by
  rw [exact, mul_assoc]
  by_cases upward : 0 ≤ x.exponent
  · have same : ((2 : ℚ) ^ x.exponent) = 2 ^ x.exponent.toNat := by
      rw [← zpow_natCast, Int.toNat_of_nonneg upward]
    simp [ratio, upward, same]
  · have same : ((2 : ℚ) ^ x.exponent) = (2 ^ (-x.exponent).toNat)⁻¹ := by
      rw [← zpow_natCast, Int.toNat_of_nonneg (by omega), zpow_neg, inv_inv]
    simp [ratio, upward, same, div_eq_mul_inv]

theorem toInt?_eq_some_iff (x : Binary64) (k : Int) : x.toInt? = some k ↔ x.exact = k := by
  have positive : (x.ratio.2 : ℚ) ≠ 0 := by
    exact_mod_cast x.ratio_den_pos.ne'
  rw [exact_eq_ratio]
  unfold toInt?
  by_cases whole : x.ratio.1 % x.ratio.2 = 0
  · obtain ⟨q, shape⟩ := Nat.dvd_of_mod_eq_zero whole
    have quotient : x.ratio.1 / x.ratio.2 = q := by
      rw [shape, Nat.mul_div_cancel_left _ x.ratio_den_pos]
    have value : (x.ratio.1 : ℚ) / x.ratio.2 = q := by
      rw [shape, Nat.cast_mul, mul_div_cancel_left₀ _ positive]
    simp only [whole, ↓reduceIte, quotient, value, Option.some.injEq]
    have same : (q : ℚ) = ((q : Int) : ℚ) := (Int.cast_natCast q).symm
    split
    · rw [neg_one_mul, same, ← Int.cast_neg, Int.cast_inj]
    · rw [one_mul, same, Int.cast_inj]
  · simp only [whole, ↓reduceIte, reduceCtorEq, false_iff]
    intro equal
    -- an integer times the denominator is a multiple of it
    apply whole
    have quotient : (0 : ℚ) ≤ (x.ratio.1 : ℚ) / x.ratio.2 :=
      div_nonneg (Nat.cast_nonneg _) (Nat.cast_nonneg _)
    have magnitude : (k.natAbs : ℚ) = (x.ratio.1 : ℚ) / x.ratio.2 := by
      rw [Nat.cast_natAbs, Int.cast_abs, ← equal, abs_mul, abs_of_nonneg quotient]
      split <;> simp
    have multiple : k.natAbs * x.ratio.2 = x.ratio.1 := by
      exact_mod_cast (eq_div_iff positive).mp magnitude
    rw [← multiple, Nat.mul_mod_left]

section
variable {n : Nat}

theorem exponentFor_large (large : 2 ^ 63 ≤ n) : exponentFor n 1 = (n.log2 : Int) - 52 := by
  have some : n ≠ 0 := by omega
  have high : 63 ≤ n.log2 := (Nat.le_log2 some).mpr large
  have power : 2 ^ n.log2 ≤ n := Nat.log2_self_le some
  have wide : 2 * leastNormal ≤ n / 2 ^ (n.log2 - 53) := by
    rw [Nat.le_div_iff_mul_le (Nat.pow_pos (by decide))]
    calc 2 * leastNormal * 2 ^ (n.log2 - 53) = 2 ^ 53 * 2 ^ (n.log2 - 53) := rfl
      _ = 2 ^ n.log2 := by rw [← Nat.pow_add, Nat.add_sub_cancel' (by omega)]
      _ ≤ n := power
  have guess : ((n.log2 : Int) - Nat.log2 1 - 53) = ((n.log2 - 53 : Nat) : Int) := by
    have : Nat.log2 1 = 0 := by decide
    omega
  unfold exponentFor
  rw [guess]
  simp only [scaleDown, Int.natCast_nonneg, ↓reduceIte, Int.toNat_natCast, Nat.one_mul]
  rw [if_neg (by simpa using wide), leastExponent]
  omega

theorem leastNormal_le_of_large (large : 2 ^ 63 ≤ n) :
    leastNormal ≤ n / 2 ^ (n.log2 - 52) := by
  have some : n ≠ 0 := by omega
  have high : 63 ≤ n.log2 := (Nat.le_log2 some).mpr large
  rw [Nat.le_div_iff_mul_le (Nat.pow_pos (by decide))]
  calc leastNormal * 2 ^ (n.log2 - 52) = 2 ^ 52 * 2 ^ (n.log2 - 52) := rfl
    _ = 2 ^ n.log2 := by rw [← Nat.pow_add, Nat.add_sub_cancel' (by omega)]
    _ ≤ n := Nat.log2_self_le some

theorem div_le_roundDiv (num den : Nat) : num / den ≤ roundDiv num den := by
  unfold roundDiv
  dsimp only
  split
  · exact Nat.le_refl _
  · split
    · exact Nat.le_succ _
    · split
      · exact Nat.le_refl _
      · exact Nat.le_succ _

theorem ofRatio?_large {negative : Bool} (large : 2 ^ 63 ≤ n) {x : Binary64}
    (rounded : ofRatio? negative n 1 = some x) :
    x.negative = negative ∧ leastNormal ≤ x.significand ∧ 11 ≤ x.exponent := by
  have some : n ≠ 0 := by omega
  have high : 63 ≤ n.log2 := (Nat.le_log2 some).mpr large
  have exponent : (n.log2 : Int) - 52 = ((n.log2 - 52 : Nat) : Int) := by omega
  have least : leastNormal ≤ roundDiv n (2 ^ (n.log2 - 52)) :=
    Nat.le_trans (leastNormal_le_of_large large) (div_le_roundDiv _ _)
  have bounds : leastNormal ≤ (Binary64.rounded n 1).1 ∧ 11 ≤ (Binary64.rounded n 1).2 := by
    unfold Binary64.rounded
    rw [exponentFor_large large, exponent]
    simp only [scaleDown, Int.natCast_nonneg, ↓reduceIte, Int.toNat_natCast, Nat.one_mul]
    split
    · exact ⟨Nat.le_refl _, by dsimp only; omega⟩
    · exact ⟨least, by dsimp only; omega⟩
  simp only [ofRatio?, if_neg some] at rounded
  split at rounded
  · obtain rfl := Option.some.inj rounded
    exact ⟨rfl, bounds⟩
  · cases rounded

theorem ofInt_large (large : 2 ^ 63 ≤ n) : ∃ k : Nat, (ofInt n).toInt? = some (k : Int) ∧
    2 ^ 63 ≤ k := by
  have bounds : (ofInt n).negative = false ∧ leastNormal ≤ (ofInt n).significand ∧
      11 ≤ (ofInt n).exponent := by
    have sign : decide ((n : Int) < 0) = false := by simp
    unfold ofInt
    rw [sign, Int.natAbs_natCast]
    cases rounded : ofRatio? false n 1 with
    | none => exact ⟨rfl, by decide, by decide⟩
    | some x => exact ofRatio?_large large rounded
  obtain ⟨positive, significand, exponent⟩ := bounds
  have upward : 0 ≤ (ofInt n).exponent := by omega
  refine ⟨(ofInt n).significand * 2 ^ (ofInt n).exponent.toNat, ?_, ?_⟩
  · simp [toInt?, ratio, upward, positive, Nat.mod_one]
  · calc 2 ^ 63 = leastNormal * 2 ^ 11 := rfl
      _ ≤ (ofInt n).significand * 2 ^ (ofInt n).exponent.toNat :=
        Nat.mul_le_mul significand (Nat.pow_le_pow_right (by decide) (by omega))

end

end Binary64

namespace Number

def exact : Number → ℚ
  | .integer n => n.value
  | .double x => x.exact

theorem toWhole?_integer (n : Numeral.Integer64) :
    (Number.integer n).toWhole? = some (min n.value Numeral.int64Max) := by
  by_cases small : n.value ≤ Numeral.int64Max
  · simp [toWhole?, toInt64?, small]
  · have large : 2 ^ 63 ≤ n.value.toNat := by
      unfold Numeral.int64Max at small
      omega
    have same : ((n.value.toNat : Nat) : Int) = n.value := by omega
    obtain ⟨k, read, beyond⟩ := Binary64.ofInt_large large
    rw [same] at read
    have high : Numeral.int64Max ≤ k := by
      unfold Numeral.int64Max
      omega
    simp only [toWhole?, toInt64?, if_neg small, toBinary64, read, Option.map_some]
    rw [min_eq_left high, max_eq_right (by decide), min_eq_right (by omega)]

theorem toWhole?_of_exact {number : Number} {k : Int} (whole : number.exact = k) :
    ∃ i, number.toWhole? = some i ∧ Numeral.Clamped k i := by
  cases number with
  | integer n =>
      have same : (n.value : ℚ) = k := whole
      obtain rfl : n.value = k := by exact_mod_cast same
      refine ⟨min n.value Numeral.int64Max, toWhole?_integer n, ?_⟩
      by_cases high : Numeral.int64Max < n.value
      · rw [min_eq_right high.le]
        exact .above high
      · rw [min_eq_left (not_lt.mp high)]
        exact .same
  | double x =>
      have read := (x.toInt?_eq_some_iff k).mpr whole
      exact ⟨_, by simp [toWhole?, toInt64?, toBinary64, read], Numeral.clamped_max_min k⟩

theorem toWhole?_le {number : Number} {i : Int} (read : number.toWhole? = some i) :
    i ≤ Numeral.int64Max := by
  cases number with
  | integer n =>
      rw [toWhole?_integer] at read
      obtain rfl := Option.some.inj read
      exact min_le_right _ _
  | double x =>
      simp only [toWhole?, toInt64?, toBinary64, Option.map_eq_some_iff] at read
      obtain ⟨k, -, rfl⟩ := read
      exact max_le (by decide) (min_le_left _ _)

theorem exact_of_toWhole? {number : Number} {i : Int} (read : number.toWhole? = some i) :
    ∃ k : Int, number.exact = k := by
  cases number with
  | integer n => exact ⟨n.value, rfl⟩
  | double x =>
      simp only [toWhole?, toInt64?, toBinary64, Option.map_eq_some_iff] at read
      obtain ⟨k, found, -⟩ := read
      exact ⟨k, (x.toInt?_eq_some_iff k).mp found⟩

end Number

end TagTemplate
