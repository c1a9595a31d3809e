import TagTemplate.Numeral.Rounded
import TagTemplate.Proofs.Numeral
import TagTemplate.Proofs.Unicode

/-! The characters of numbers that are written with a given number of places. -/

namespace TagTemplate

open Unicode

structure Numeral.IsNumeral (text : List Char) : Prop where
  first : ∃ c rest, text = c :: rest ∧ c.isDigit = true
  ascii : IsAscii text

open Numeral

theorem Numeral.isNumeral_decimal (n : Nat) : IsNumeral (decimal n) :=
  ⟨decimal_eq_cons n, isAscii_of_isDigit fun _ => isDigit_of_mem_decimal⟩

theorem Numeral.isAscii_digits {base : Nat} (bounds : 2 ≤ base ∧ base ≤ 16) (n : Nat) :
    IsAscii (digits base n) := by
  have all : ∀ value : Fin 16, (digitChar value).toNat < 0x80 := by decide
  intro c member
  obtain ⟨value, bound, rfl⟩ := exists_of_mem_digits bounds.1 member
  exact all ⟨value, by omega⟩

theorem Numeral.IsNumeral.append {text rest : List Char} (numeral : IsNumeral text)
    (ascii : IsAscii rest) : IsNumeral (text ++ rest) := by
  obtain ⟨c, others, rfl, digit⟩ := numeral.first
  exact ⟨⟨c, others ++ rest, rfl, digit⟩, numeral.ascii.append ascii⟩

namespace Binary64

theorem isNumeral_withPoint (places units : Nat) : IsNumeral (withPoint places units) := by
  let digits := padZeros (places + 1) (decimal units)
  have all : ∀ c ∈ digits, c.isDigit = true := fun _ => isDigit_of_mem_zeros
  have long : places + 1 ≤ digits.length := by
    simp only [digits, padZeros, List.length_append, List.length_replicate]
    omega
  have whole : IsNumeral (digits.take (digits.length - places)) := by
    have some : digits.take (digits.length - places) ≠ [] := by
      intro empty
      have length := congrArg List.length empty
      rw [List.length_take, List.length_nil] at length
      omega
    obtain ⟨c, rest, shape⟩ := List.exists_cons_of_ne_nil some
    have member : c ∈ digits.take (digits.length - places) := by simp [shape]
    exact ⟨⟨c, rest, shape, all c (List.mem_of_mem_take member)⟩,
      (isAscii_of_isDigit all).of_subset (List.take_subset _ _)⟩
  have written : withPoint places units =
      if places = 0 then digits.take (digits.length - places)
      else digits.take (digits.length - places) ++ '.' :: digits.drop (digits.length - places) :=
    rfl
  rw [written]
  split
  · exact whole
  · exact whole.append
      (.cons (by decide) ((isAscii_of_isDigit all).of_subset (List.drop_subset _ _)))

theorem isNumeral_fixed (x : Binary64) (places : Nat) : IsNumeral (x.fixed places) :=
  isNumeral_withPoint places _

theorem isNumeral_mantissa (x : Binary64) (places : Nat) :
    IsNumeral (x.mantissaAndPower places).1 := by
  unfold mantissaAndPower
  split
  · exact isNumeral_withPoint places _
  · dsimp only
    split
    · exact isNumeral_withPoint places _
    · exact isNumeral_withPoint places _

theorem isNumeral_exponential (x : Binary64) (places : Nat) :
    IsNumeral (x.exponential places) := by
  have mantissa := x.isNumeral_mantissa places
  unfold exponential
  generalize x.mantissaAndPower places = pair at mantissa
  have sign : (if pair.2 < 0 then '-' else '+').toNat < 0x80 := by
    split <;> decide
  have digits : IsAscii (padZeros 2 (decimal pair.2.natAbs)) :=
    .append (isAscii_replicate (by decide)) (isNumeral_decimal _).ascii
  exact mantissa.append (.cons (by decide) (.cons sign digits))

end Binary64

end TagTemplate
