import TagTemplate.Proofs.Format.Spelling
import TagTemplate.Proofs.Text.Occurrences

/-! The specifiers of a format string and what stands in front of, between and behind them. -/

namespace TagTemplate.Format

open Text

def Layout (format : List Char) (parts : List (List Char × Specifier)) (last : List Char) : Prop :=
  Occurrences Specifier.source IsSpecifier format parts last

section
variable {format rest last : List Char} {parts : List (List Char × Specifier)}
  {specifier : Specifier}

theorem IsSpecifier.source_eq (one : IsSpecifier specifier) :
    ∃ body, specifier.source = '%' :: body := by
  obtain ⟨spelling, -, rfl⟩ := one
  exact ⟨_, rfl⟩

theorem IsSpecifier.source_ne_nil (one : IsSpecifier specifier) : specifier.source ≠ [] := by
  obtain ⟨body, shape⟩ := one.source_eq
  simp [shape]

theorem IsSpecifier.eq_of_append {other : Specifier} {behind : List Char}
    (one : IsSpecifier specifier) (oneToo : IsSpecifier other)
    (same : specifier.source ++ rest = other.source ++ behind) : specifier = other := by
  obtain ⟨body, shape⟩ := one.source_eq
  have first : '%' :: (body ++ rest) = specifier.source ++ rest := by
    rw [shape, List.cons_append]
  have found := specifier?_append one first
  rw [specifier?_append oneToo (first.trans same)] at found
  exact (Prod.mk.inj (Option.some.inj found)).1.symm

theorem exists_layout (format : List Char) :
    ∃ parts last, ∀ others ending,
      Layout format others ending ↔ others = parts ∧ ending = last := by
  obtain ⟨parts, last, layout⟩ :=
    exists_occurrences (fun _ (one : IsSpecifier _) => one.source_ne_nil) format
  refine ⟨parts, last, fun others ending => ⟨fun again => ?_, ?_⟩⟩
  · exact Occurrences.unique (fun _ _ _ _ one oneToo => one.eq_of_append oneToo) again layout
  · rintro ⟨rfl, rfl⟩
    exact layout

theorem segments_literal {c : Char} (plain : ∀ s, IsSpecifier s → ¬ s.source <+: c :: rest) :
    segments (c :: rest) = .literal c :: segments rest := by
  rw [segments]
  split
  · next percent =>
      split
      · next specifier after found =>
          obtain ⟨one, shape⟩ := (specifier?_eq_some_iff rest after specifier).mp found
          refine absurd ⟨after, ?_⟩ (plain specifier one)
          rw [percent, shape]
      · rfl
  · rfl

theorem segments_specifier (one : IsSpecifier specifier) (rest : List Char) :
    segments (specifier.source ++ rest) = .specifier specifier :: segments rest := by
  obtain ⟨body, shape⟩ := one.source_eq
  have whole : '%' :: (body ++ rest) = specifier.source ++ rest := by
    rw [shape, List.cons_append]
  have found := specifier?_append one whole
  rw [shape, List.cons_append, segments, if_pos rfl]
  split
  · next other after again =>
      obtain ⟨rfl, rfl⟩ := Prod.mk.inj (Option.some.inj (again.symm.trans found))
      rfl
  · next none =>
      rw [found] at none
      cases none

theorem segments_front {front : List Char}
    (plain : ∀ before behind, front = before ++ behind → behind ≠ [] →
      ∀ s, IsSpecifier s → ¬ s.source <+: behind ++ rest) :
    segments (front ++ rest) = front.map .literal ++ segments rest := by
  induction front with
  | nil => rfl
  | cons c front ih =>
      have later := ih fun before behind split => plain (c :: before) behind (by simp [split])
      have here := plain [] (c :: front) rfl (by simp)
      rw [List.cons_append] at here
      rw [List.cons_append, segments_literal here, later, List.map_cons, List.cons_append]

theorem Layout.segments_eq (layout : Layout format parts last) :
    segments format =
      (parts.flatMap fun part => part.1.map Segment.literal ++ [Segment.specifier part.2]) ++
        last.map Segment.literal := by
  induction layout with
  | @last text free =>
      have plain : ∀ before behind, text = before ++ behind → behind ≠ [] →
          ∀ s, IsSpecifier s → ¬ s.source <+: behind ++ [] := by
        rintro before behind rfl - s one begins
        rw [List.append_nil] at begins
        exact free s one (begins.isInfix.trans (List.suffix_append before behind).isInfix)
      have whole := segments_front plain
      rwa [List.append_nil, segments, List.append_nil] at whole
  | @next front rest last parts specifier one first later ih =>
      rw [segments_front first, segments_specifier one, ih, List.flatMap_cons]
      simp only [List.append_assoc, List.cons_append, List.nil_append]

end

end TagTemplate.Format
