import TagTemplate.Helper.Standard
import TagTemplate.Proofs.Template.Fallback
import TagTemplate.Proofs.Text

/-! Texts made into slugs. -/

namespace TagTemplate

namespace Text

/-- A text taken apart: its letters and numbers in order, and what stands before the first, between
each two and behind the last of them. -/
inductive Spread : List Char → List (List Char) → List Char → Prop
  | last {gap : List Char} (bare : ∀ c ∈ gap, Unicode.isLetterOrNumber c = false) :
      Spread [] [gap] gap
  | kept {gap letters rest : List Char} {gaps : List (List Char)} {c : Char}
      (bare : ∀ c ∈ gap, Unicode.isLetterOrNumber c = false)
      (letter : Unicode.isLetterOrNumber c = true) (later : Spread letters gaps rest) :
      Spread (c :: letters) (gap :: gaps) (gap ++ c :: rest)

def hyphenFor (gap : List Char) : List Char := if gap = [] then [] else ['-']

structure IsSlug (text : List Char) : Prop where
  known : ∀ c ∈ text, c = '-' ∨ Unicode.isLetterOrNumber c = true
  single : ¬ ['-', '-'] <:+: text

section
variable {gap letters rest text : List Char} {gaps : List (List Char)} {c : Char}

theorem ne_hyphen (letter : Unicode.isLetterOrNumber c = true) : c ≠ '-' := by
  rintro rfl
  cases letter

theorem hyphenFor_eq (gap : List Char) : hyphenFor gap = [] ∨ hyphenFor gap = ['-'] := by
  unfold hyphenFor
  split
  · exact .inl rfl
  · exact .inr rfl

theorem Spread.cons (spread : Spread letters gaps text)
    (other : Unicode.isLetterOrNumber c = false) : ∃ wider, Spread letters wider (c :: text) := by
  cases spread with
  | last bare => exact ⟨_, .last (List.forall_mem_cons.mpr ⟨other, bare⟩)⟩
  | kept bare letter later => exact ⟨_, .kept (List.forall_mem_cons.mpr ⟨other, bare⟩) letter later⟩

theorem exists_spread (text : List Char) :
    ∃ gaps, Spread (text.filter Unicode.isLetterOrNumber) gaps text := by
  induction text with
  | nil => exact ⟨_, .last (List.forall_mem_nil _)⟩
  | cons c rest ih =>
      obtain ⟨gaps, spread⟩ := ih
      cases letter : Unicode.isLetterOrNumber c with
      | true =>
          rw [List.filter_cons_of_pos letter]
          exact ⟨_, .kept (List.forall_mem_nil _) letter spread⟩
      | false =>
          rw [List.filter_cons_of_neg (by simp [letter])]
          exact spread.cons letter

theorem hyphenate_append (bare : ∀ c ∈ gap, Unicode.isLetterOrNumber c = false) (rest : List Char)
    (next : ∀ c ∈ rest.head?, Unicode.isLetterOrNumber c = true) :
    hyphenate (gap ++ rest) = hyphenFor gap ++ hyphenate rest := by
  cases gap with
  | nil => rfl
  | cons c others =>
      have behind : (others ++ rest).dropWhile (fun d => !Unicode.isLetterOrNumber d) = rest := by
        refine dropWhile_passed (fun d member => ?_) fun d first => ?_
        · rw [bare d (List.mem_cons_of_mem c member), Bool.not_false]
        · rw [next d first, Bool.not_true]
      rw [List.cons_append, hyphenate, bare c List.mem_cons_self, behind]
      rfl

theorem hyphenate_last (bare : ∀ c ∈ gap, Unicode.isLetterOrNumber c = false) :
    hyphenate gap = hyphenFor gap := by
  have whole := hyphenate_append bare [] (by simp)
  have none : hyphenate [] = [] := by rw [hyphenate]
  rwa [none, List.append_nil, List.append_nil] at whole

theorem hyphenate_kept (bare : ∀ c ∈ gap, Unicode.isLetterOrNumber c = false)
    (letter : Unicode.isLetterOrNumber c = true) (rest : List Char) :
    hyphenate (gap ++ c :: rest) = hyphenFor gap ++ c :: hyphenate rest := by
  have here : hyphenate (c :: rest) = c :: hyphenate rest := by rw [hyphenate, if_pos letter]
  rw [hyphenate_append bare (c :: rest) (by simpa using letter), here]

theorem bare_hyphenFor (gap : List Char) :
    ∀ c ∈ hyphenFor gap, Unicode.isLetterOrNumber c = false := by
  rcases hyphenFor_eq gap with nothing | hyphen
  · simp [nothing]
  · rw [hyphen]
    exact List.forall_mem_singleton.mpr rfl

theorem Spread.hyphenated (spread : Spread letters gaps text) :
    Spread letters (gaps.map hyphenFor) (hyphenate text) := by
  induction spread with
  | @last gap bare =>
      rw [hyphenate_last bare]
      exact .last (bare_hyphenFor gap)
  | @kept gap _ rest _ c bare letter later ih =>
      rw [hyphenate_kept bare letter]
      exact .kept (bare_hyphenFor gap) letter ih

theorem filter_hyphenFor (gap : List Char) : (hyphenFor gap).filter (· != '-') = [] := by
  rcases hyphenFor_eq gap with nothing | hyphen
  · rw [nothing, List.filter_nil]
  · rw [hyphen]
    rfl

theorem Spread.filter_hyphenate (spread : Spread letters gaps text) :
    (hyphenate text).filter (· != '-') = letters := by
  induction spread with
  | @last gap bare => rw [hyphenate_last bare, filter_hyphenFor]
  | @kept gap letters rest _ c bare letter later ih =>
      have kept : (c != '-') = true := bne_iff_ne.mpr (ne_hyphen letter)
      rw [hyphenate_kept bare letter, List.filter_append, filter_hyphenFor, List.nil_append,
        List.filter_cons, if_pos kept, ih]

theorem IsSlug.letter (slug : IsSlug rest) (letter : Unicode.isLetterOrNumber c = true) :
    IsSlug (c :: rest) where
  known := List.forall_mem_cons.mpr ⟨.inr letter, slug.known⟩
  single := by
    intro double
    rcases List.infix_cons_iff.mp double with here | later
    · exact ne_hyphen letter (List.cons_prefix_cons.mp here).1.symm
    · exact slug.single later

theorem IsSlug.hyphen (slug : IsSlug rest) (next : '-' ∉ rest.head?) : IsSlug ('-' :: rest) where
  known := List.forall_mem_cons.mpr ⟨.inl rfl, slug.known⟩
  single := by
    intro double
    rcases List.infix_cons_iff.mp double with here | later
    · obtain ⟨behind, rfl⟩ := (List.cons_prefix_cons.mp here).2
      exact next rfl
    · exact slug.single later

theorem IsSlug.append (slug : IsSlug rest) (next : '-' ∉ rest.head?) (gap : List Char) :
    IsSlug (hyphenFor gap ++ rest) := by
  rcases hyphenFor_eq gap with nothing | hyphen
  · rwa [nothing]
  · rw [hyphen]
    exact slug.hyphen next

theorem Spread.isSlug_hyphenate (spread : Spread letters gaps text) :
    IsSlug (hyphenate text) := by
  -- The hyphen of a gap has a letter or the end of the text behind it, never another hyphen.
  induction spread with
  | @last gap bare =>
      have empty : IsSlug [] := ⟨by simp, by simp⟩
      rw [hyphenate_last bare, ← List.append_nil (hyphenFor gap)]
      exact empty.append (by simp) gap
  | @kept gap letters rest _ c bare letter later ih =>
      have next : '-' ∉ (c :: hyphenate rest).head? := by
        intro same
        exact ne_hyphen letter (Option.some.inj same)
      rw [hyphenate_kept bare letter]
      exact (ih.letter letter).append next gap

end

end Text

namespace Helper

open Text

/-- A slug keeps the letters and numbers of a text, and has a hyphen where there was anything
else. -/
theorem slugify_spread {context : Value} (there : ¬ context.Missing) (arguments : Arguments) :
    let text := Unicode.toLower (trim (textOf context))
    let letters := text.filter Unicode.isLetterOrNumber
    ∃ output gaps, Helper.slugify.apply context arguments = .ok (rendered output) ∧
      (∀ c ∈ output, c = '-' ∨ Unicode.isLetterOrNumber c = true) ∧ ¬ ['-', '-'] <:+: output ∧
      output.filter (· != '-') = letters ∧
      Spread letters gaps text ∧ Spread letters (gaps.map hyphenFor) output := by
  intro text letters
  obtain ⟨gaps, spread⟩ := exists_spread text
  have slug := spread.isSlug_hyphenate
  refine ⟨hyphenate text, gaps, ?_, slug.known, slug.single, spread.filter_hyphenate, spread,
    spread.hyphenated⟩
  rw [apply_of_present there, transform, Text.slugify]

theorem slugify_spread_marks :
    let context := Value.string (String.ofList
      [' ', '-', '-', 'İ', 'x', ' ', ' ', 'Ο', '\u0308', 'Σ', '½', '&', '\t'])
    let text := Unicode.toLower (trim (textOf context))
    let letters := text.filter Unicode.isLetterOrNumber
    ¬ context.Missing ∧ letters = ['i', 'x', 'ο', 'ς', '½'] ∧
      Text.slugify (textOf context) = ['-', 'i', '-', 'x', '-', 'ο', '-', 'ς', '½', '-'] ∧
      ∃ output gaps, Helper.slugify.apply context .empty = .ok (rendered output) ∧
        (∀ c ∈ output, c = '-' ∨ Unicode.isLetterOrNumber c = true) ∧ ¬ ['-', '-'] <:+: output ∧
        output.filter (· != '-') = letters ∧
        Spread letters gaps text ∧ Spread letters (gaps.map hyphenFor) output := by
  intro context text letters
  have there : ¬ context.Missing := Value.not_missing_string _
  exact ⟨there, by decide +kernel, by decide +kernel, slugify_spread there .empty⟩

end Helper

end TagTemplate
