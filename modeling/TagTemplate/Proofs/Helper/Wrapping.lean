import TagTemplate.Helper.Standard
import TagTemplate.Proofs.Template.Fallback
import TagTemplate.Proofs.Text.Filling

/-! Texts wrapped by a helper, and wrapped again. -/

namespace TagTemplate.Helper

open Text

theorem apply_wordWrap {context : Value} (there : ¬ context.Missing) {arguments : Arguments}
    {width : Nat}
    (given : expectSize .wordWrap "width" (arguments.positional 0 .null) = .ok width) :
    wordWrap.apply context arguments = .ok (rendered (wrap (max width 1) (textOf context))) := by
  rw [apply_of_present there, transform, applyWordWrap, given]

/-- Wrapping loses no word and breaks no line that could have taken the next word. -/
theorem wordWrap_fewest (width : Nat) (positive : 1 ≤ width) (text : List Char) :
    Wrapped width text (wrap width text) ∧
    ∀ (context : Value) (arguments : Arguments), ¬ context.Missing → textOf context = text →
      expectSize .wordWrap "width" (arguments.positional 0 .null) = .ok width →
      wordWrap.apply context arguments = .ok (rendered (wrap width text)) := by
  refine ⟨wrapped_wrap width text, ?_⟩
  rintro context arguments there rfl given
  rw [apply_wordWrap there given, Nat.max_eq_left positive]

theorem wordWrap_fewest_long :
    let text := ['a', 'b', '\t', 'c', ' ', ' ', 'd', ' ', 'e', 'f', 'g', 'h', 'i', 'j', '\r', '\n']
    let context := Value.string (String.ofList text)
    let arguments := Arguments.empty.param (.string " 5 ")
    1 ≤ 5 ∧ ¬ context.Missing ∧ textOf context = text ∧
      expectSize .wordWrap "width" (arguments.positional 0 .null) = .ok 5 ∧
      Wrapped 5 text (wrap 5 text) ∧
      wordWrap.apply context arguments = .ok (some (.string "ab c\nd\nefghij\n")) := by
  intro text context arguments
  have there : ¬ context.Missing := Value.not_missing_string _
  have same : textOf context = text := textOf_ofList text
  have given : expectSize .wordWrap "width" (arguments.positional 0 .null) = .ok 5 := rfl
  have fewest := wordWrap_fewest 5 (by decide) text
  have output : rendered (wrap 5 text) = some (.string "ab c\nd\nefghij\n") := rfl
  refine ⟨by decide, there, same, given, fewest.1, ?_⟩
  rw [← output]
  exact fewest.2 context arguments there same given

/-- Wrapping a wrapped text changes nothing. -/
theorem wordWrap_idempotent (width : Nat) (text : List Char) :
    wrap width (wrap width text) = wrap width text ∧
    ∀ (context : Value) (arguments : Arguments), ¬ context.Missing →
      expectSize .wordWrap "width" (arguments.positional 0 .null) = .ok width →
      ∃ output, wordWrap.apply context arguments = .ok (rendered output) ∧
        wordWrap.apply (.string (String.ofList output)) arguments = .ok (rendered output) := by
  refine ⟨wrap_wrap width text, fun context arguments there given => ?_⟩
  refine ⟨_, apply_wordWrap there given, ?_⟩
  rw [apply_wordWrap (Value.not_missing_string _) given, textOf_ofList, wrap_wrap]

theorem wordWrap_idempotent_mixed :
    let text := ['\r', 'a', '\u00a0', 'b', '\r', '\n', '\r', '\n', 'c', 'd', 'e', '\t', 'f']
    let context := Value.string (String.ofList text)
    let arguments := Arguments.empty.param (.number (.integer ⟨2, by decide, by decide⟩))
    ¬ context.Missing ∧
      expectSize .wordWrap "width" (arguments.positional 0 .null) = .ok 2 ∧
      wrap 2 (wrap 2 text) = wrap 2 text ∧
      ∃ output, wordWrap.apply context arguments = .ok (rendered output) ∧
        wordWrap.apply (.string (String.ofList output)) arguments = .ok (rendered output) := by
  intro text context arguments
  have there : ¬ context.Missing := Value.not_missing_string _
  have given : expectSize .wordWrap "width" (arguments.positional 0 .null) = .ok 2 := rfl
  have idempotent := wordWrap_idempotent 2 text
  exact ⟨there, given, idempotent.1, idempotent.2 context arguments there given⟩

end TagTemplate.Helper
