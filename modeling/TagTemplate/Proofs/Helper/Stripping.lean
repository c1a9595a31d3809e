import TagTemplate.Helper.Standard
import TagTemplate.Proofs.Template.Fallback

/-! Texts without their tags. -/

namespace TagTemplate

namespace Text

def IsMarkup (tag : List Char) : Prop := ∃ inside, '>' ∉ inside ∧ tag = '<' :: (inside ++ ['>'])

/-- A text without its tags: the first tag is the one that begins first, the next one begins behind
it, and all that lies before, between and behind the tags is kept. -/
inductive Stripped : List Char → List Char → Prop
  | plain {text : List Char} (free : ∀ tag, IsMarkup tag → ¬ tag <:+: text) : Stripped text text
  | tag {front tag rest output : List Char} (isMarkup : IsMarkup tag)
      (first : ∀ before behind, front = before ++ behind → behind ≠ [] →
        ∀ other, IsMarkup other → ¬ other <+: behind ++ tag ++ rest)
      (later : Stripped rest output) : Stripped (front ++ tag ++ rest) (front ++ output)

def Untagged (text : List Char) : Prop :=
  ∀ before after, text = before ++ '<' :: after → '>' ∉ after

section
variable {c : Char} {text rest output tag : List Char}

theorem begins_iff : (∃ tag, IsMarkup tag ∧ tag <+: c :: rest) ↔ c = '<' ∧ '>' ∈ rest := by
  constructor
  · rintro ⟨_, ⟨inside, -, rfl⟩, behind, shape⟩
    obtain ⟨rfl, later⟩ := List.cons.inj shape
    exact ⟨rfl, by rw [← later]; simp⟩
  · rintro ⟨rfl, member⟩
    obtain ⟨inside, behind, rfl, without⟩ := List.eq_append_cons_of_mem member
    exact ⟨_, ⟨inside, without, rfl⟩, behind, by simp⟩

theorem stripTags_cons (plain : ¬ (c = '<' ∧ '>' ∈ rest)) :
    stripTags (c :: rest) = c :: stripTags rest := by
  rw [stripTags, if_neg plain]

theorem dropWhile_inside {inside : List Char} (without : '>' ∉ inside) (rest : List Char) :
    ((inside ++ '>' :: rest).dropWhile (· != '>')).drop 1 = rest := by
  have passed : ∀ c ∈ inside, (c != '>') = true := by
    intro c member
    rw [bne_iff_ne]
    rintro rfl
    exact without member
  rw [List.dropWhile_append_of_pos passed]
  rfl

theorem stripTags_append (isMarkup : IsMarkup tag) (rest : List Char) :
    stripTags (tag ++ rest) = stripTags rest := by
  obtain ⟨inside, without, rfl⟩ := isMarkup
  have shape : '<' :: (inside ++ ['>']) ++ rest = '<' :: (inside ++ '>' :: rest) := by simp
  rw [shape, stripTags, if_pos ⟨rfl, by simp⟩, dropWhile_inside without]

theorem Stripped.cons (plain : ¬ (c = '<' ∧ '>' ∈ rest)) (stripped : Stripped rest output) :
    Stripped (c :: rest) (c :: output) := by
  have never : ∀ tag, IsMarkup tag → ¬ tag <+: c :: rest := by
    intro tag isMarkup begins
    exact plain (begins_iff.mp ⟨tag, isMarkup, begins⟩)
  cases stripped with
  | plain free =>
      refine .plain fun tag isMarkup within => ?_
      rcases List.infix_cons_iff.mp within with begins | inside
      · exact never tag isMarkup begins
      · exact free tag isMarkup inside
  | @tag front tag rest output isMarkup first later =>
      have whole : Stripped ((c :: front) ++ tag ++ rest) ((c :: front) ++ output) := by
        refine .tag isMarkup (fun before behind split some => ?_) later
        cases before with
        | nil =>
            obtain rfl : c :: front = behind := split
            exact never
        | cons d before => exact first before behind (List.cons.inj split).2 some
      exact whole

theorem stripped_stripTags (text : List Char) : Stripped text (stripTags text) := by
  -- Either a tag begins at the first character and is passed as a whole, or the character is kept.
  fun_induction stripTags text with
  | case1 =>
      refine .plain fun tag isMarkup within => ?_
      obtain ⟨inside, -, rfl⟩ := isMarkup
      simp at within
  | case2 c rest opens ih =>
      obtain ⟨rfl, member⟩ := opens
      obtain ⟨inside, behind, rfl, without⟩ := List.eq_append_cons_of_mem member
      rw [dropWhile_inside without] at ih ⊢
      have whole :
          Stripped ([] ++ '<' :: (inside ++ ['>']) ++ behind) ([] ++ stripTags behind) := by
        refine .tag ⟨inside, without, rfl⟩ (fun before behind split some => ?_) ih
        exact absurd (List.append_eq_nil_iff.mp split.symm).2 some
      simpa using whole
  | case3 c rest plain ih => exact ih.cons plain

theorem stripTags_sublist (text : List Char) : (stripTags text).Sublist text := by
  fun_induction stripTags text with
  | case1 => exact .slnil
  | case2 c rest opens ih =>
      have later : ((rest.dropWhile (· != '>')).drop 1).Sublist (c :: rest) :=
        ((List.drop_sublist 1 _).trans (List.dropWhile_sublist _)).cons c
      exact ih.trans later
  | case3 c rest plain ih => exact ih.cons_cons c

theorem untagged_stripTags (text : List Char) : Untagged (stripTags text) := by
  -- A `<` is kept only if no `>` is left in the text, and so none in what is kept of it.
  fun_induction stripTags text with
  | case1 =>
      intro before after shape
      simp at shape
  | case2 c rest opens ih => exact ih
  | case3 c rest plain ih =>
      intro before after shape member
      cases before with
      | nil =>
          obtain ⟨rfl, rfl⟩ := List.cons.inj shape
          exact plain ⟨rfl, (stripTags_sublist rest).subset member⟩
      | cons d before => exact ih before after (List.cons.inj shape).2 member

theorem stripTags_of_untagged (untagged : Untagged text) : stripTags text = text := by
  induction text with
  | nil => rw [stripTags]
  | cons c rest ih =>
      have later : Untagged rest := by
        rintro before after rfl
        exact untagged (c :: before) after rfl
      rw [stripTags_cons, ih later]
      rintro ⟨rfl, member⟩
      exact untagged [] rest rfl member

theorem untagged_of_free (free : ∀ tag, IsMarkup tag → ¬ tag <:+: text) : Untagged text := by
  rintro before after rfl member
  obtain ⟨tag, isMarkup, begins⟩ := begins_iff.mpr ⟨rfl, member⟩
  exact free tag isMarkup (begins.isInfix.trans (List.suffix_append before _).isInfix)

theorem stripTags_front {front : List Char}
    (first : ∀ before behind, front = before ++ behind → behind ≠ [] →
      ∀ other, IsMarkup other → ¬ other <+: behind ++ rest) :
    stripTags (front ++ rest) = front ++ stripTags rest := by
  induction front with
  | nil => rfl
  | cons c front ih =>
      have plain : ¬ (c = '<' ∧ '>' ∈ front ++ rest) := by
        intro opens
        obtain ⟨other, isMarkup, begins⟩ := begins_iff.mpr opens
        exact first [] (c :: front) rfl (by simp) other isMarkup begins
      have later := ih fun before behind split => first (c :: before) behind (by simp [split])
      rw [List.cons_append, stripTags_cons plain, later, List.cons_append]

theorem stripped_iff (text output : List Char) :
    Stripped text output ↔ output = stripTags text := by
  constructor
  · intro stripped
    induction stripped with
    | plain free => exact (stripTags_of_untagged (untagged_of_free free)).symm
    | @tag front tag rest output isMarkup first later ih =>
        have clear : ∀ before behind, front = before ++ behind → behind ≠ [] →
            ∀ other, IsMarkup other → ¬ other <+: behind ++ (tag ++ rest) := by
          intro before behind split some other isMarkupToo
          rw [← List.append_assoc]
          exact first before behind split some other isMarkupToo
        rw [List.append_assoc, stripTags_front clear, stripTags_append isMarkup, ← ih]
  · rintro rfl
    exact stripped_stripTags text

end

end Text

namespace Helper

open Text

/-- Stripping removes the tags of a text, nothing else, and leaves none. -/
theorem stripTags_exact (context : Value) (there : ¬ context.Missing) (arguments : Arguments) :
    ∃ output, Helper.stripTags.apply context arguments = .ok (rendered output) ∧
      Untagged output ∧ (∀ other, Stripped (textOf context) other ↔ other = output) ∧
      Helper.stripTags.apply (.string (String.ofList output)) arguments =
        .ok (rendered output) := by
  refine ⟨Text.stripTags (textOf context), ?_, untagged_stripTags _, stripped_iff _, ?_⟩
  · rw [apply_of_present there, transform]
  · rw [apply_of_present (Value.not_missing_string _), transform, textOf_ofList,
      stripTags_of_untagged (untagged_stripTags _)]

theorem stripTags_exact_nested :
    let context := Value.string "a<<b>>c<d\ne>f>g<"
    ¬ context.Missing ∧
      ∃ output, Helper.stripTags.apply context .empty = .ok (rendered output) ∧
        Untagged output ∧ (∀ other, Stripped (textOf context) other ↔ other = output) ∧
        Helper.stripTags.apply (.string (String.ofList output)) .empty = .ok (rendered output) := by
  intro context
  have there : ¬ context.Missing := Value.not_missing_string _
  exact ⟨there, stripTags_exact context there .empty⟩

end Helper

end TagTemplate
