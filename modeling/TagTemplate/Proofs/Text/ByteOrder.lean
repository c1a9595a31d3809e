import Mathlib.Algebra.Ring.Nat
import Mathlib.Data.List.Lex
import TagTemplate.Proofs.Text

/-! The order of texts by their characters is that of their bytes. -/

namespace TagTemplate.Text

theorem byte_lt {small large : Nat} (bound : large < 256) {first second : List UInt8}
    (order : small < large ∨ small = large ∧ first < second) :
    UInt8.ofNat small :: first < UInt8.ofNat large :: second := by
  rw [List.cons_lt_cons_iff]
  rcases order with less | ⟨same, later⟩
  · exact Or.inl ((UInt8.ofNat_lt_iff_lt (Nat.lt_trans less bound) bound).mpr less)
  · exact Or.inr ⟨by rw [same], later⟩

def trail : Nat → Nat → List UInt8
  | 0, _ => []
  | count + 1, code => UInt8.ofNat (code / 64 ^ count % 64 + 128) :: trail count code

theorem trail_lt (count : Nat) {small large : Nat} (less : small < large)
    (same : small / 64 ^ count = large / 64 ^ count) (first second : List UInt8) :
    trail count small ++ first < trail count large ++ second := by
  induction count with
  | zero =>
      simp only [Nat.pow_zero, Nat.div_one] at same
      omega
  | succ count ih =>
      have above : small / 64 ^ count / 64 = large / 64 ^ count / 64 := by
        rw [Nat.div_div_eq_div_mul, Nat.div_div_eq_div_mul, ← Nat.pow_succ]
        exact same
      have order : small / 64 ^ count ≤ large / 64 ^ count :=
        Nat.div_le_div_right (Nat.le_of_lt less)
      apply byte_lt (by omega)
      by_cases here : small / 64 ^ count = large / 64 ^ count
      · exact Or.inr ⟨by rw [here], ih here⟩
      · exact Or.inl (by omega)

theorem utf8EncodeChar_eq (c : Char) :
    String.utf8EncodeChar c =
      if c.toNat ≤ 127 then [UInt8.ofNat c.toNat]
      else if c.toNat ≤ 2047 then UInt8.ofNat (c.toNat / 64 % 32 + 192) :: trail 1 c.toNat
      else if c.toNat ≤ 65535 then UInt8.ofNat (c.toNat / 4096 % 16 + 224) :: trail 2 c.toNat
      else UInt8.ofNat (c.toNat / 262144 % 8 + 240) :: trail 3 c.toNat := by
  simp only [String.utf8EncodeChar, trail, Nat.pow_zero, Nat.div_one, Nat.reducePow]
  rfl

theorem utf8EncodeChar_lt {small large : Char} (less : small.toNat < large.toNat)
    (first second : List UInt8) :
    String.utf8EncodeChar small ++ first < String.utf8EncodeChar large ++ second := by
  have bound : large.toNat < 0x110000 := by
    have valid := large.valid
    unfold UInt32.isValidChar Nat.isValidChar at valid
    unfold Char.toNat
    omega
  rw [utf8EncodeChar_eq, utf8EncodeChar_eq]
  generalize small.toNat = a at *
  generalize large.toNat = b at *
  -- Of two characters with as many bytes the trails decide; else the first byte does.
  by_cases one : b ≤ 127
  · rw [if_pos one, if_pos (by omega)]
    exact byte_lt (by omega) (Or.inl less)
  by_cases two : b ≤ 2047
  · rw [if_neg one, if_pos two]
    split
    · exact byte_lt (by omega) (Or.inl (by omega))
    · rw [if_pos (by omega)]
      apply byte_lt (by omega)
      by_cases same : a / 64 = b / 64
      · exact Or.inr ⟨by rw [same], trail_lt 1 less same first second⟩
      · exact Or.inl (by omega)
  by_cases three : b ≤ 65535
  · rw [if_neg one, if_neg two, if_pos three]
    split
    · exact byte_lt (by omega) (Or.inl (by omega))
    split
    · exact byte_lt (by omega) (Or.inl (by omega))
    · rw [if_pos (by omega)]
      apply byte_lt (by omega)
      by_cases same : a / 4096 = b / 4096
      · exact Or.inr ⟨by rw [same], trail_lt 2 less same first second⟩
      · exact Or.inl (by omega)
  · rw [if_neg one, if_neg two, if_neg three]
    split
    · exact byte_lt (by omega) (Or.inl (by omega))
    split
    · exact byte_lt (by omega) (Or.inl (by omega))
    split
    · exact byte_lt (by omega) (Or.inl (by omega))
    · apply byte_lt (by omega)
      by_cases same : a / 262144 = b / 262144
      · exact Or.inr ⟨by rw [same], trail_lt 3 less same first second⟩
      · exact Or.inl (by omega)

theorem flatMap_utf8EncodeChar_lt {first second : List Char} (order : isAtMost first second = true)
    (apart : first ≠ second) :
    first.flatMap String.utf8EncodeChar < second.flatMap String.utf8EncodeChar := by
  induction first generalizing second with
  | nil =>
      obtain ⟨c, rest, rfl⟩ := List.exists_cons_of_ne_nil (Ne.symm apart)
      obtain ⟨byte, bytes, shape⟩ := List.exists_cons_of_ne_nil
        (show String.utf8EncodeChar c ≠ [] by simp)
      rw [List.flatMap_cons, shape]
      exact List.nil_lt_cons _ _
  | cons a first ih =>
      cases second with
      | nil => simp [isAtMost] at order
      | cons b second =>
          rw [List.flatMap_cons, List.flatMap_cons]
          by_cases same : a = b
          · subst same
            rw [isAtMost, if_pos rfl] at order
            apply List.append_left_lt
            exact ih order fun equal => apart (by rw [equal])
          · rw [isAtMost, if_neg same, decide_eq_true_eq] at order
            exact utf8EncodeChar_lt order _ _

theorem toList_toUTF8 (text : String) :
    text.toUTF8.data.toList = text.toList.flatMap String.utf8EncodeChar := by
  rw [String.toUTF8_eq_toByteArray, ← String.utf8Encode_toList, List.utf8Encode,
    List.data_toByteArray]

theorem toUTF8_lt {first second : String} (order : isAtMost first.toList second.toList = true)
    (apart : first ≠ second) : first.toUTF8.data.toList < second.toUTF8.data.toList := by
  rw [toList_toUTF8, toList_toUTF8]
  exact flatMap_utf8EncodeChar_lt order fun same => apart (String.toList_inj.mp same)

end TagTemplate.Text
