import TagTemplate.Proofs.Format.Selection
import TagTemplate.Proofs.Helper.Replacing

/-! Format strings that stand for a text as it is. -/

namespace TagTemplate.Format

open Text

def escaped (text : List Char) : List Char :=
  text.flatMap fun c => if c = '%' then ['%', '%'] else [c]

def percentSpelling : Spelling := ⟨[], [], [], [], '%'⟩

theorem percentSpelling_proper : percentSpelling.Proper :=
  ⟨List.forall_mem_nil _, List.forall_mem_nil _, List.forall_mem_nil _, by simp [percentSpelling],
    List.forall_mem_nil _, .inr rfl⟩

theorem segments_percent (rest : List Char) :
    segments ('%' :: '%' :: rest) = .specifier percentSpelling.specifier :: segments rest :=
  segments_specifier ⟨percentSpelling, percentSpelling_proper, rfl⟩ rest

theorem segments_plain {c : Char} (plain : c ≠ '%') (rest : List Char) :
    segments (c :: rest) = .literal c :: segments rest := by
  rw [segments, if_neg plain]

theorem outcome_percent (helper : Helper) (given : Option Value) :
    percentSpelling.specifier.outcome helper given = .ok ['%'] := rfl

theorem fillSegments_escaped (helper : Helper) (arguments : List Value) (next : Nat)
    (text : List Char) :
    fillSegments helper arguments next (segments (escaped text)) = .ok text := by
  induction text with
  | nil => rw [escaped, List.flatMap_nil, segments, fillSegments]
  | cons c text ih =>
      rw [escaped] at ih ⊢
      rw [List.flatMap_cons]
      by_cases percent : c = '%'
      · have follows : percentSpelling.specifier.isOrdinary = false := rfl
        rw [if_pos percent, List.cons_append, List.cons_append, List.nil_append, segments_percent,
          fillSegments_specifier, outcome_percent, follows]
        simp only [Bool.false_eq_true, ↓reduceIte, ih, Except.map, percent, List.cons_append,
          List.nil_append]
      · rw [if_neg percent, List.cons_append, List.nil_append, segments_plain percent, fillSegments,
          ih]

theorem replaceAll_percent (text : List Char) :
    replaceAll ['%'] ['%', '%'] text = escaped text := by
  induction text with
  | nil => rw [replaceAll]; rfl
  | cons c text ih =>
      rw [escaped, List.flatMap_cons, ← escaped, ← ih]
      by_cases percent : c = '%'
      · rw [if_pos percent, percent]
        exact replaceAll_append (by simp) _ text
      · rw [if_neg percent, replaceAll_cons]
        · rfl
        · rintro ⟨behind, shape⟩
          exact percent (List.cons.inj shape).1.symm

/-- Percent signs written twice stand for themselves, whatever is around them. -/
theorem format_escaped (text : List Char) (arguments : Arguments) :
    (∀ helper, format helper (escaped text) arguments.params = .ok text) ∧
    Helper.replace.apply (.string (String.ofList text)) ⟨[.string "%", .string "%%"], []⟩ =
      .ok (Helper.rendered (escaped text)) ∧
    Helper.stringFormat.apply (.string (String.ofList (escaped text))) arguments =
      .ok (Helper.rendered text) := by
  have filled (helper : Helper) : format helper (escaped text) arguments.params = .ok text :=
    fillSegments_escaped helper arguments.params 0 text
  refine ⟨filled, ?_, ?_⟩
  · rw [Helper.apply_replace (Value.not_missing_string _) (by simp) (by simp),
      Helper.textOf_ofList text, ← replaceAll_percent]
    rfl
  · rw [Helper.apply_of_present (Value.not_missing_string _), Helper.transform,
      Helper.applyStringFormat, Helper.textOf_ofList, filled]

end TagTemplate.Format
