import TagTemplate.Helper.Standard
import TagTemplate.Proofs.Template.Fallback
import TagTemplate.Proofs.Text.Occurrences

/-! Texts in which another text takes the place of a target, or nothing does. -/

namespace TagTemplate

namespace Text

def Parted (target text : List Char) (pieces : List (List Char)) : Prop :=
  ∃ parts last, Occurrences id (· = target) text parts last ∧ pieces = parts.map (·.1) ++ [last]

section
variable {target text last : List Char} {parts : List (List Char × List Char)}

theorem replaceAll_nil (replacement text : List Char) : replaceAll [] replacement text = text := by
  induction text with
  | nil => rw [replaceAll]
  | cons c rest ih => rw [replaceAll, if_neg fun both => both.1 rfl, ih]

theorem replaceAll_cons {c : Char} {rest : List Char} (plain : ¬ target <+: c :: rest)
    (replacement : List Char) :
    replaceAll target replacement (c :: rest) = c :: replaceAll target replacement rest := by
  rw [replaceAll, if_neg fun both => plain (List.isPrefixOf_iff_prefix.mp both.2)]

theorem replaceAll_append (some : target ≠ []) (replacement rest : List Char) :
    replaceAll target replacement (target ++ rest) =
      replacement ++ replaceAll target replacement rest := by
  obtain ⟨c, others, rfl⟩ := List.exists_cons_of_ne_nil some
  have here : (c :: others).isPrefixOf (c :: (others ++ rest)) = true :=
    List.isPrefixOf_iff_prefix.mpr (List.prefix_append (c :: others) rest)
  rw [List.cons_append, replaceAll, if_pos ⟨some, here⟩, List.length_cons, Nat.add_sub_cancel,
    List.drop_left]

theorem replaceAll_of_free (free : ¬ target <:+: text) (replacement : List Char) :
    replaceAll target replacement text = text := by
  induction text with
  | nil => rw [replaceAll]
  | cons c rest ih =>
      rw [replaceAll_cons fun begins => free begins.isInfix,
        ih fun within => free (List.infix_cons within)]

theorem replaceAll_front {front : List Char}
    (first : ∀ before behind, front = before ++ behind → behind ≠ [] →
      ¬ target <+: behind ++ text) (replacement : List Char) :
    replaceAll target replacement (front ++ text) =
      front ++ replaceAll target replacement text := by
  induction front with
  | nil => rfl
  | cons c front ih =>
      have later := ih fun before behind split => first (c :: before) behind (by simp [split])
      have plain : ¬ target <+: c :: (front ++ text) := first [] (c :: front) rfl (by simp)
      rw [List.cons_append, replaceAll_cons plain, later, List.cons_append]

theorem replaceAll_of_occurrences (some : target ≠ []) (replacement : List Char)
    (occurrences : Occurrences id (· = target) text parts last) :
    replaceAll target replacement text =
      (parts.flatMap fun part => part.1 ++ replacement) ++ last := by
  induction occurrences with
  | last free => exact replaceAll_of_free (free target rfl) replacement
  | @next front rest last parts a one first later ih =>
      obtain rfl : a = target := one
      have plain : ∀ before behind, front = before ++ behind → behind ≠ [] →
          ¬ a <+: behind ++ (a ++ rest) :=
        fun before behind split nonempty => first before behind split nonempty a rfl
      rw [id_eq, replaceAll_front plain, replaceAll_append some, ih, List.flatMap_cons,
        List.append_assoc, List.append_assoc]

theorem intercalate_parts (separator last : List Char) (fronts : List (List Char)) :
    List.intercalate separator (fronts ++ [last]) = fronts.flatMap (· ++ separator) ++ last := by
  induction fronts with
  | nil => simp [List.intercalate]
  | cons front fronts ih =>
      have nonempty : fronts ++ [last] ≠ [] := by simp
      obtain ⟨second, others, shape⟩ := List.exists_cons_of_ne_nil nonempty
      rw [List.cons_append, shape, List.intercalate_cons_cons, ← shape, ih, List.flatMap_cons]
      simp only [List.append_assoc]

theorem Parted.replaceAll_eq {pieces : List (List Char)} (parted : Parted target text pieces)
    (some : target ≠ []) (replacement : List Char) :
    replaceAll target replacement text = List.intercalate replacement pieces := by
  obtain ⟨parts, last, occurrences, rfl⟩ := parted
  rw [replaceAll_of_occurrences some replacement occurrences, intercalate_parts, List.flatMap_map]

theorem Parted.intercalate_eq {pieces : List (List Char)} (parted : Parted target text pieces) :
    List.intercalate target pieces = text := by
  obtain ⟨parts, last, occurrences, rfl⟩ := parted
  have same :
      (parts.map fun part => part.1 ++ target) = parts.map fun part => part.1 ++ id part.2 :=
    List.map_congr_left fun part member => by rw [occurrences.isOne_of_mem part member, id_eq]
  rw [intercalate_parts, List.flatMap_map, List.flatMap_def, same, ← List.flatMap_def,
    occurrences.reassembled]

theorem exists_parted (some : target ≠ []) (text : List Char) :
    ∃ pieces, ∀ other, Parted target text other ↔ other = pieces := by
  have nonempty : ∀ a, a = target → id a ≠ [] := by
    rintro a rfl
    exact some
  obtain ⟨parts, last, occurrences⟩ := exists_occurrences nonempty text
  refine ⟨parts.map (·.1) ++ [last], fun other => ⟨?_, ?_⟩⟩
  · rintro ⟨others, ending, again, rfl⟩
    have apart : ∀ a b rest behind, a = target → b = target → id a ++ rest = id b ++ behind →
        a = b := fun a b _ _ one oneToo _ => one.trans oneToo.symm
    obtain ⟨rfl, rfl⟩ := occurrences.unique apart again
    rfl
  · rintro rfl
    exact ⟨parts, last, occurrences, rfl⟩

end

end Text

namespace Helper

open Text

section
variable {context : Value} (there : ¬ context.Missing)
include there

theorem apply_replace {target replacement : Value} (targeted : target ≠ .null)
    (given : replacement ≠ .null) (more : List Value) (hash : Fields Value) :
    Helper.replace.apply context ⟨target :: replacement :: more, hash⟩ =
      .ok (rendered (replaceAll (textOf target) (textOf replacement) (textOf context))) := by
  have read (argument : String) {value : Value} (present : value ≠ .null) :
      expectText .replace argument value = .ok (textOf value) := by
    cases value with
    | null => exact absurd rfl present
    | _ => rfl
  rw [apply_of_present there, transform, applyReplace]
  simp only [Arguments.positional, List.getD_cons_zero, List.getD_cons_succ, read _ targeted,
    read _ given]

theorem apply_cut (delimiter : Value) (more : List Value) (hash : Fields Value) :
    Helper.cut.apply context ⟨delimiter :: more, hash⟩ =
      .ok (rendered (replaceAll (textOf delimiter) [] (textOf context))) := by
  rw [apply_of_present there, transform, Arguments.positional, List.getD_cons_zero]

/-- The first occurrence of a target is replaced, the first one behind it, and so on, and nothing
else is. -/
theorem replace_exact {target replacement : Value} (targeted : target ≠ .null)
    (given : replacement ≠ .null) (more others : List Value) (hash hashToo : Fields Value) :
    let text := textOf context
    let replaced (value : Value) := Helper.replace.apply context ⟨target :: value :: more, hash⟩
    let without (delimiter : Value) :=
      Helper.cut.apply context ⟨delimiter :: others, hashToo⟩
    (textOf target ≠ [] → ∃ pieces, (∀ other, Parted (textOf target) text other ↔ other = pieces) ∧
      List.intercalate (textOf target) pieces = text ∧
      replaced replacement = .ok (rendered (List.intercalate (textOf replacement) pieces))) ∧
    without target = replaced (.string "") ∧
    (textOf target = [] → replaced replacement = .ok (rendered text)) ∧
    (∀ delimiter, textOf delimiter = [] → without delimiter = .ok (rendered text)) ∧
    replaced target = .ok (rendered text) := by
  intro text replaced without
  have result {value : Value} (present : value ≠ .null) :
      replaced value = .ok (rendered (replaceAll (textOf target) (textOf value) text)) :=
    apply_replace there targeted present more hash
  have cutResult (delimiter : Value) :
      without delimiter = .ok (rendered (replaceAll (textOf delimiter) [] text)) :=
    apply_cut there delimiter others hashToo
  refine ⟨fun some => ?_, ?_, fun empty => ?_, fun delimiter empty => ?_, ?_⟩
  · obtain ⟨pieces, unique⟩ := exists_parted some text
    have parted := (unique pieces).mpr rfl
    refine ⟨pieces, unique, parted.intercalate_eq, ?_⟩
    rw [result given, parted.replaceAll_eq some]
  · rw [cutResult, result (by simp)]
    rfl
  · rw [result given, empty, replaceAll_nil]
  · rw [cutResult, empty, replaceAll_nil]
  · rw [result targeted]
    by_cases empty : textOf target = []
    · rw [empty, replaceAll_nil]
    · obtain ⟨pieces, unique⟩ := exists_parted empty text
      have parted := (unique pieces).mpr rfl
      rw [parted.replaceAll_eq empty, parted.intercalate_eq]

end

theorem replace_exact_overlap :
    let text := ['é', 'a', 'a', 'a', 'b', 'a', 'a']
    let context := Value.string (String.ofList text)
    let target := Value.string (String.ofList ['a', 'a'])
    let replacement := Value.string (String.ofList ['a'])
    let replaced (value : Value) := Helper.replace.apply context ⟨[target, value], []⟩
    ¬ context.Missing ∧ target ≠ .null ∧ replacement ≠ .null ∧ textOf context = text ∧
      textOf target ≠ [] ∧
      replaced replacement = .ok (rendered ['é', 'a', 'a', 'b', 'a']) ∧
      (∃ pieces, (∀ other, Parted (textOf target) text other ↔ other = pieces) ∧
        List.intercalate (textOf target) pieces = text ∧
        replaced replacement = .ok (rendered (List.intercalate (textOf replacement) pieces))) ∧
      Helper.cut.apply context ⟨[target], []⟩ = replaced (.string "") ∧
      replaced target = .ok (rendered text) := by
  intro text context target replacement replaced
  have there : ¬ context.Missing := Value.not_missing_string _
  have targeted : target ≠ .null := by simp [target]
  have given : replacement ≠ .null := by simp [replacement]
  have same : textOf context = text := textOf_ofList text
  have some : textOf target ≠ [] := by
    rw [textOf_ofList]
    simp
  have output : replaceAll (textOf target) (textOf replacement) (textOf context) =
      ['é', 'a', 'a', 'b', 'a'] := by decide +kernel
  have result : replaced replacement = .ok (rendered ['é', 'a', 'a', 'b', 'a']) := by
    rw [← output]
    exact apply_replace there targeted given [] []
  have exact := replace_exact there targeted given [] [] [] []
  dsimp only at exact
  rw [same] at exact
  exact ⟨there, targeted, given, same, some, result, exact.1 some, exact.2.1, exact.2.2.2.2⟩

end Helper

end TagTemplate
