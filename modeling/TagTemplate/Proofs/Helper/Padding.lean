import TagTemplate.Proofs.Helper.Refusal

/-! Texts that a helper brings to a width. -/

namespace TagTemplate

namespace Text

/-- The characters of a unit in order, and again from its first one after its last. -/
def Repeats (unit run : List Char) : Prop := ∀ k < run.length, run[k]? = unit[k % unit.length]?

section
variable (unit : List Char) (width : Nat)

theorem padRun_nil : padRun [] width = padRun [' '] width := rfl

theorem padRun_zero : padRun unit 0 = [] := rfl

theorem repeats_padRun (some : unit ≠ []) : Repeats unit (padRun unit width) := by
  intro k within
  rw [length_padRun] at within
  have inside : k % unit.length < unit.length := Nat.mod_lt _ (List.length_pos_iff.mpr some)
  simp [padRun, some, within, inside]

end

end Text

namespace Helper

open Text

/-- The padding helpers, each with how many of the missing characters it puts in front of a text. -/
inductive Insets : Helper → (Nat → Nat) → Prop
  | center : Insets .center (· / 2)
  | ljust : Insets .ljust fun _ => 0
  | rjust : Insets .rjust id

/-- What padding repeats: the text of `pad`, or a space if that is empty, null or not given. -/
def padUnit (arguments : Arguments) : List Char :=
  let given := textOf (arguments.named "pad" .null)
  if given = [] then [' '] else given

section
variable {helper : Helper} {inset : Nat → Nat} {context : Value} {arguments : Arguments}

theorem padUnit_ne_nil (arguments : Arguments) : padUnit arguments ≠ [] := by
  unfold padUnit
  dsimp only
  split
  · simp
  · assumption

theorem exists_sizeAndPad {size : Nat}
    (read : expectSize helper "size" (arguments.named "size" .null) = .ok size) :
    ∃ unit, sizeAndPad helper arguments = .ok (size, unit) ∧
      ∀ width, padRun unit width = padRun (padUnit arguments) width := by
  refine ⟨_, by rw [sizeAndPad, read], fun width => ?_⟩
  unfold padUnit
  generalize arguments.named "pad" .null = pad
  by_cases empty : textOf pad = []
  · rw [if_pos empty, ← padRun_nil]
    split
    · rfl
    · rw [empty]
  · rw [if_neg empty]
    split
    · exact absurd rfl empty
    · rfl

theorem Insets.le (insets : Insets helper inset) (missing : Nat) : inset missing ≤ missing := by
  cases insets with
  | center => exact Nat.div_le_self missing 2
  | ljust => exact Nat.zero_le missing
  | rjust => exact Nat.le_refl missing

theorem Insets.apply (insets : Insets helper inset) (there : ¬ context.Missing) {size : Nat}
    (read : expectSize helper "size" (arguments.named "size" .null) = .ok size) :
    let missing := size - (textOf context).length
    helper.apply context arguments =
      .ok (rendered (padRun (padUnit arguments) (inset missing) ++ textOf context ++
        padRun (padUnit arguments) (missing - inset missing))) := by
  obtain ⟨unit, shape, same⟩ := exists_sizeAndPad read
  rw [apply_of_present there]
  cases insets with
  | center =>
      rw [transform, padded, shape]
      simp only [Text.center, same]
  | ljust =>
      rw [transform, padded, shape]
      simp only [padRight, padRun_zero, same, List.nil_append, Nat.sub_zero]
  | rjust =>
      rw [transform, padded, shape]
      simp only [padLeft, padRun_zero, same, id_eq, Nat.sub_self, List.append_nil]

/-- A padding helper leaves the text of a value in one piece and repeats its unit on either side of
it, anew on each. -/
theorem padded_layout (insets : Insets helper inset) (there : ¬ context.Missing) {width : Value}
    {k : Int} (given : Fields.get? arguments.hash "size" = some width) (stands : width.StandsFor k)
    (positive : 0 ≤ k) :
    let text := textOf context
    let size := (min k Numeral.int64Max).toNat
    ∃ front back, helper.apply context arguments = .ok (rendered (front ++ text ++ back)) ∧
      (front ++ text ++ back).length = max size text.length ∧
      front.length = inset (size - text.length) ∧
      Repeats (padUnit arguments) front ∧ Repeats (padUnit arguments) back ∧
      (size ≤ text.length → front ++ text ++ back = text) := by
  intro text size
  have read : expectSize helper "size" (arguments.named "size" .null) = .ok size := by
    rw [Arguments.named, given]
    exact expectSize_of_standsFor stands positive
  have unit := padUnit_ne_nil arguments
  have inside := insets.le (size - text.length)
  refine ⟨padRun (padUnit arguments) (inset (size - text.length)),
    padRun (padUnit arguments) (size - text.length - inset (size - text.length)),
    insets.apply there read, ?_, length_padRun _ _, repeats_padRun _ _ unit,
    repeats_padRun _ _ unit, ?_⟩
  · simp only [List.length_append, length_padRun]
    omega
  · intro wide
    have nothing : size - text.length = 0 := Nat.sub_eq_zero_of_le wide
    have front : inset 0 = 0 := Nat.le_zero.mp (insets.le 0)
    rw [nothing, front, padRun_zero, List.nil_append, List.append_nil]

theorem padded_layout_center :
    let text := ['n', 'é']
    let context := Value.string (String.ofList text)
    let arguments := (Arguments.empty.hashEntry "size" (.string " 7\n")).hashEntry "pad"
      (.string "äb")
    Insets .center (· / 2) ∧ ¬ context.Missing ∧ textOf context = text ∧
      Fields.get? arguments.hash "size" = some (.string " 7\n") ∧
      (Value.string " 7\n").StandsFor 7 ∧ padUnit arguments = ['ä', 'b'] ∧
      ∃ front back, Helper.center.apply context arguments = .ok (rendered (front ++ text ++ back)) ∧
        (front ++ text ++ back).length = 7 ∧ front.length = 2 ∧
        Repeats ['ä', 'b'] front ∧ Repeats ['ä', 'b'] back ∧
        (7 ≤ text.length → front ++ text ++ back = text) := by
  intro text context arguments
  have there : ¬ context.Missing := Value.not_missing_string _
  have given : Fields.get? arguments.hash "size" = some (.string " 7\n") := rfl
  have stands : (Value.string " 7\n").StandsFor 7 := standsFor_text rfl
  have unit : padUnit arguments = ['ä', 'b'] := by decide
  have same : textOf context = text := textOf_ofList text
  have size : (min 7 Numeral.int64Max).toNat = 7 := by decide
  have total : max 7 text.length = 7 := rfl
  have half : (7 - text.length) / 2 = 2 := by simp [text]
  have layout := padded_layout .center there given stands (by decide)
  dsimp only at layout
  rw [unit, same, size, total, half] at layout
  exact ⟨.center, there, same, given, stands, unit, layout⟩

end

end Helper

end TagTemplate
