import TagTemplate.Discovery
import TagTemplate.Proofs.Text

/-! The names on the way to a file and the path that they make, with a suffix and without. -/

namespace TagTemplate.Discovery

section
variable {names others : List Name}

theorem pieces_joined (some : names ≠ []) (spelled : ∀ name ∈ names, '/' ∉ name) :
    Text.pieces (· == '/') (joined names) = names :=
  Text.pieces_intercalate rfl some fun name member =>
    Text.beq_eq_false_of_notMem (spelled name member)

theorem joined_inj (some : names ≠ []) (someToo : others ≠ [])
    (spelled : ∀ name ∈ names, '/' ∉ name) (spelledToo : ∀ name ∈ others, '/' ∉ name)
    (same : joined names = joined others) : names = others := by
  rw [← pieces_joined some spelled, same, pieces_joined someToo spelledToo]

theorem ofText_joined (some : names ≠ [])
    (spelled : ∀ name ∈ names, name ≠ [] ∧ '/' ∉ name) :
    Path.ofText (joined names) = ⟨false, names⟩ := by
  have split := pieces_joined some fun name member => (spelled name member).2
  unfold Path.ofText
  split
  · next rest shape =>
      -- A slash in front would leave an empty name.
      rw [shape] at split
      simp only [Text.pieces, beq_self_eq_true, ↓reduceIte] at split
      exact absurd rfl (spelled [] (by simp [← split])).1
  · rw [split]

end

theorem stem?_eq_some_iff {ending text stem : List Char} :
    stem? ending text = some stem ↔ stem ≠ [] ∧ text = stem ++ ending := by
  unfold stem?
  constructor
  · intro cut
    split at cut
    · next ends =>
        obtain ⟨front, rfl⟩ := List.isSuffixOf_iff_suffix.mp ends.2
        have same : front = stem := by simpa using cut
        subst same
        have longer := ends.1
        rw [List.length_append] at longer
        exact ⟨List.ne_nil_of_length_pos (by omega), rfl⟩
    · simp at cut
  · rintro ⟨some, rfl⟩
    have longer := List.length_pos_iff.mpr some
    rw [if_pos ⟨by rw [List.length_append]; omega, by simp⟩]
    simp

end TagTemplate.Discovery
