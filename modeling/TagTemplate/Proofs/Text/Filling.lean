import Mathlib.Algebra.Order.BigOperators.Group.List
import Mathlib.Algebra.Order.Ring.Nat
import Mathlib.Data.List.Forall2
import TagTemplate.Proofs.Text
import TagTemplate.Text.Padding

/-! Words and lines joined to a text and found in it again, and lines filled with words one after the
other, which are as few as lines of the width can be. -/

namespace TagTemplate.Text

def IsWord (word : List Char) : Prop := word ≠ [] ∧ ∀ c ∈ word, Unicode.isBlank c = false

section
variable {text word : List Char} {line : List (List Char)}

theorem isWord_of_mem_words (member : word ∈ words text) : IsWord word := by
  obtain ⟨piece, full⟩ := List.mem_filter.mp member
  exact ⟨by simpa using full, separates_of_mem_pieces piece⟩

theorem words_joinWords (isWord : ∀ word ∈ line, IsWord word) :
    words (joinWords line) = line := by
  by_cases none : line = []
  · rw [none]
    rfl
  · have found : pieces Unicode.isBlank (joinWords line) = line :=
      pieces_intercalate (by decide) none fun word member => (isWord word member).2
    have full : ∀ word ∈ line, (!word.isEmpty) = true := fun word member => by
      simpa using (isWord word member).1
    rw [words, found, List.filter_eq_self.mpr full]

theorem lines_intercalate {parts : List (List Char)} (some : parts ≠ [])
    (unbroken : ∀ part ∈ parts, '\n' ∉ part) :
    lines (List.intercalate ['\n'] parts) = parts :=
  pieces_intercalate rfl some fun part member => beq_eq_false_of_notMem (unbroken part member)

theorem mem_joinWords {c : Char} (member : c ∈ joinWords line) :
    c = ' ' ∨ ∃ word ∈ line, c ∈ word := by
  induction line with
  | nil => cases member
  | cons word rest ih =>
      by_cases more : rest = []
      · rw [more, joinWords, List.intercalate_singleton] at member
        exact .inr ⟨word, by simp, member⟩
      · obtain ⟨second, others, rfl⟩ := List.exists_cons_of_ne_nil more
        rw [joinWords, List.intercalate_cons_cons] at member
        rcases List.mem_append.mp member with front | later
        · rcases List.mem_append.mp front with here | space
          · exact .inr ⟨word, by simp, here⟩
          · exact .inl (List.mem_singleton.mp space)
        · rcases ih later with space | ⟨other, within, here⟩
          · exact .inl space
          · exact .inr ⟨other, List.mem_cons_of_mem _ within, here⟩

theorem joinWords_unbroken (isWord : ∀ word ∈ line, IsWord word) : '\n' ∉ joinWords line := by
  intro member
  rcases mem_joinWords member with space | ⟨word, within, here⟩
  · exact absurd space (by decide)
  · have solid := (isWord word within).2 '\n' here
    exact absurd solid (by decide)

theorem lineLength_eq (line : List (List Char)) :
    lineLength line = (line.map List.length).sum + (line.length - 1) := by
  have fold : ∀ (more : List (List Char)) (last : Nat),
      more.foldr (fun word length => word.length + length) last =
        (more.map List.length).sum + last := by
    intro more last
    induction more with
    | nil => simp
    | cons word rest ih => simp only [List.foldr_cons, ih, List.map_cons, List.sum_cons]; omega
  exact fold line _

theorem length_joinWords (line : List (List Char)) :
    (joinWords line).length = lineLength line := by
  induction line with
  | nil => rfl
  | cons word rest ih =>
      by_cases more : rest = []
      · simp [more, joinWords, lineLength]
      · obtain ⟨second, others, rfl⟩ := List.exists_cons_of_ne_nil more
        rw [joinWords, lineLength_eq] at ih
        rw [joinWords, List.intercalate_cons_cons, List.length_append, ih, lineLength_eq]
        simp only [List.length_append, List.length_cons, List.length_nil, List.map_cons,
          List.sum_cons]
        omega

theorem lineLength_sublist {part : List (List Char)} (within : part.Sublist line) :
    lineLength part ≤ lineLength line := by
  have letters : (part.map List.length).sum ≤ (line.map List.length).sum :=
    (within.map List.length).sum_le_sum fun _ _ => Nat.zero_le _
  have words := within.length_le
  rw [lineLength_eq, lineLength_eq]
  omega

end

/-- A line that may stand at a width: it has at most so many characters, or it is one word that has
more. -/
def Admissible (width : Nat) (line : List (List Char)) : Prop :=
  (joinWords line).length ≤ width ∨ ∃ word, line = [word] ∧ width < word.length

/-- Words in their order, distributed over admissible lines. No line goes without a word, other
than the one line of no words. -/
structure Distributes (width : Nat) (words : List (List Char))
    (lines : List (List (List Char))) : Prop where
  inOrder : lines.flatten = words
  admissible : ∀ line ∈ lines, Admissible width line
  filled : [] ∈ lines → lines = [[]]
  some : lines ≠ []

def Fewest (width : Nat) (words : List (List Char)) (lines : List (List (List Char))) : Prop :=
  Distributes width words lines ∧
    ∀ others, Distributes width words others → lines.length ≤ others.length

/-- For each line of a text in turn, an output has lines of the words of that line, and as few of
them as the width allows. -/
def Wrapped (width : Nat) (text output : List Char) : Prop :=
  ∃ blocks,
    List.Forall₂ (fun line block => Fewest width (words line) block) (lines text) blocks ∧
    lines output = blocks.flatten.map joinWords

section
variable {width : Nat} {line part front rest : List (List Char)} {word : List Char}
  {groups : List (List (List Char))}

theorem admissible_iff : Admissible width line ↔
    lineLength line ≤ width ∨ ∃ word, line = [word] ∧ width < word.length := by
  rw [Admissible, length_joinWords]

theorem admissible_singleton (width : Nat) (word : List Char) : Admissible width [word] := by
  rcases Nat.lt_or_ge width word.length with long | short
  · exact .inr ⟨word, rfl, long⟩
  · exact .inl (by simpa [joinWords] using short)

theorem Admissible.sublist (admissible : Admissible width line) (within : part.Sublist line)
    (some : part ≠ []) : Admissible width part := by
  rcases admissible_iff.mp admissible with short | ⟨word, rfl, long⟩
  · exact admissible_iff.mpr (.inl (Nat.le_trans (lineLength_sublist within) short))
  · rcases List.sublist_singleton.mp within with none | same
    · exact absurd none some
    · exact .inr ⟨word, same, long⟩

def Filled (width : Nat) (groups : List (List (List Char))) : Prop :=
  ∀ group ∈ groups, group ≠ [] ∧ Admissible width group

theorem Filled.tail (filled : Filled width (line :: groups)) : Filled width groups :=
  fun group member => filled group (List.mem_cons_of_mem _ member)

theorem Filled.last (filled : Filled width groups) (split : groups.flatten = front ++ rest) :
    ∃ fewer, Filled width fewer ∧ fewer.flatten = rest ∧ fewer.length ≤ groups.length := by
  induction groups generalizing front with
  | nil =>
      obtain ⟨-, rfl⟩ := List.append_eq_nil_iff.mp split.symm
      exact ⟨[], filled, rfl, Nat.le_refl _⟩
  | cons group others ih =>
      rw [List.flatten_cons] at split
      rcases List.append_eq_append_iff.mp split with ⟨more, -, later⟩ | ⟨more, own, shape⟩
      · obtain ⟨fewer, good, flat, short⟩ := ih filled.tail later
        exact ⟨fewer, good, flat, Nat.le_succ_of_le short⟩
      · by_cases none : more = []
        · subst none
          exact ⟨others, filled.tail, by simpa using shape.symm, Nat.le_succ _⟩
        · -- The line is cut in two: what is left of it is admissible too.
          have within : more.Sublist group := own ▸ List.sublist_append_right front more
          refine ⟨more :: others, fun part member => ?_, shape.symm, Nat.le_refl _⟩
          rcases List.mem_cons.mp member with rfl | later
          · exact ⟨none, (filled group List.mem_cons_self).2.sublist within none⟩
          · exact filled.tail part later

theorem flatten_fill (width : Nat) (line rest : List (List Char)) :
    (fill width line rest).flatten = line ++ rest := by
  induction rest generalizing line with
  | nil => simp [fill]
  | cons word rest ih =>
      rw [fill]
      split
      · rw [ih, List.append_assoc, List.singleton_append]
      · rw [List.flatten_cons, ih, List.singleton_append]

theorem filled_fill (some : line ≠ []) (admissible : Admissible width line) :
    Filled width (fill width line rest) := by
  induction rest generalizing line with
  | nil =>
      intro group member
      obtain rfl := List.mem_singleton.mp member
      exact ⟨some, admissible⟩
  | cons word rest ih =>
      rw [fill]
      split
      · next fits => exact ih (by simp) (admissible_iff.mpr (.inl fits))
      · intro group member
        rcases List.mem_cons.mp member with rfl | later
        · exact ⟨some, admissible⟩
        · exact ih (by simp) (admissible_singleton width word) group later

theorem not_reaches (some : line ≠ []) (full : ¬ lineLength (line ++ [word]) ≤ width)
    {more : List (List Char)} : ¬ Admissible width (line ++ word :: more) := by
  intro admissible
  have within : (line ++ [word]).Sublist (line ++ word :: more) :=
    List.Sublist.append_left (List.singleton_sublist.mpr List.mem_cons_self) line
  rcases admissible_iff.mp (admissible.sublist within (by simp)) with short | ⟨only, same, -⟩
  · exact full short
  · cases line with
    | nil => exact some rfl
    | cons first others => simp at same

theorem length_fill_le (some : line ≠ []) (filled : Filled width groups)
    (same : groups.flatten = line ++ rest) : (fill width line rest).length ≤ groups.length := by
  induction rest generalizing line groups with
  | nil =>
      cases groups with
      | nil => simp [some] at same
      | cons group others => simp [fill]
  | cons word rest ih =>
      rw [fill]
      split
      · exact ih (by simp) filled (by rw [same, List.append_assoc, List.singleton_append])
      · next full =>
          cases groups with
          | nil => simp at same
          | cons group others =>
              -- The first line ends no later: the others hold the word and all behind it.
              have short : ∃ more, others.flatten = more ++ word :: rest := by
                rw [List.flatten_cons] at same
                rcases List.append_eq_append_iff.mp same with
                  ⟨more, -, later⟩ | ⟨more, own, shape⟩
                · exact ⟨more, later⟩
                · cases more with
                  | nil => exact ⟨[], by simpa using shape.symm⟩
                  | cons next further =>
                      obtain ⟨rfl, -⟩ := List.cons.inj shape
                      exact absurd (own ▸ (filled group List.mem_cons_self).2)
                        (not_reaches some full)
              obtain ⟨more, later⟩ := short
              obtain ⟨fewer, good, flat, less⟩ := filled.tail.last later
              have bound : (fill width [word] rest).length ≤ fewer.length :=
                ih (by simp) good (by simpa using flat)
              simp only [List.length_cons]
              omega

theorem Distributes.filled_of_some {words : List (List Char)} (some : words ≠ [])
    (distributes : Distributes width words groups) : Filled width groups := by
  intro group member
  refine ⟨?_, distributes.admissible group member⟩
  rintro rfl
  have only := distributes.filled member
  rw [only] at distributes
  exact some (by simpa using distributes.inOrder.symm)

theorem fewest_fillLine (width : Nat) (words : List (List Char)) :
    Fewest width words (fillLine width words) := by
  cases words with
  | nil =>
      refine ⟨⟨rfl, ?_, fun _ => rfl, by simp [fillLine]⟩, fun others distributes => ?_⟩
      · intro line member
        obtain rfl := List.mem_singleton.mp member
        exact .inl (Nat.zero_le _)
      · exact List.length_pos_iff.mpr distributes.some
  | cons word rest =>
      have flat : (fillLine width (word :: rest)).flatten = word :: rest :=
        flatten_fill width [word] rest
      have filled : Filled width (fillLine width (word :: rest)) :=
        filled_fill (by simp) (admissible_singleton width word)
      refine ⟨⟨flat, fun line member => (filled line member).2, fun member => ?_, ?_⟩,
        fun others distributes => ?_⟩
      · exact absurd rfl (filled [] member).1
      · intro none
        rw [none] at flat
        cases flat
      · exact length_fill_le (by simp) (distributes.filled_of_some (by simp))
          (by simpa using distributes.inOrder)

theorem fill_short (short : lineLength (line ++ rest) ≤ width) :
    fill width line rest = [line ++ rest] := by
  induction rest generalizing line with
  | nil => simp [fill]
  | cons word rest ih =>
      have whole : line ++ word :: rest = (line ++ [word]) ++ rest := by simp
      rw [whole] at short ⊢
      have fits : lineLength (line ++ [word]) ≤ width :=
        Nat.le_trans (lineLength_sublist (List.sublist_append_left _ rest)) short
      rw [fill, if_pos fits, ih short]

theorem fillLine_admissible (admissible : Admissible width line) :
    fillLine width line = [line] := by
  cases line with
  | nil => rfl
  | cons word rest =>
      rcases admissible_iff.mp admissible with short | ⟨only, same, -⟩
      · exact fill_short short
      · obtain ⟨rfl, rfl⟩ := List.cons.inj same
        rfl

end

section
variable (width : Nat) (text : List Char)

def blocks : List (List (List (List Char))) :=
  (lines text).map fun line => fillLine width (words line)

theorem mem_blocks {line : List (List Char)} (member : line ∈ (blocks width text).flatten) :
    (∀ word ∈ line, IsWord word) ∧ Admissible width line := by
  obtain ⟨block, blockMember, lineMember⟩ := List.mem_flatten.mp member
  obtain ⟨source, -, rfl⟩ := List.mem_map.mp blockMember
  have distributes := (fewest_fillLine width (words source)).1
  refine ⟨fun word within => ?_, distributes.admissible line lineMember⟩
  have own : word ∈ (fillLine width (words source)).flatten :=
    List.mem_flatten.mpr ⟨line, lineMember, within⟩
  rw [distributes.inOrder] at own
  exact isWord_of_mem_words own

theorem wrap_eq : wrap width text =
    List.intercalate ['\n'] ((blocks width text).flatten.map joinWords) := by
  rw [wrap, blocks, List.map_flatten, List.map_map, ← List.flatMap_def]
  rfl

theorem blocks_ne_nil : (blocks width text).flatten ≠ [] := by
  obtain ⟨source, others, shape⟩ := List.exists_cons_of_ne_nil (pieces_ne_nil (· == '\n') text)
  have some := (fewest_fillLine width (words source)).1.some
  rw [blocks, lines, shape, List.map_cons, List.flatten_cons]
  simp [some]

theorem lines_wrap : lines (wrap width text) = (blocks width text).flatten.map joinWords := by
  rw [wrap_eq]
  refine lines_intercalate (by simpa using blocks_ne_nil width text) fun part member => ?_
  obtain ⟨line, within, rfl⟩ := List.mem_map.mp member
  exact joinWords_unbroken (mem_blocks width text within).1

theorem wrapped_wrap : Wrapped width text (wrap width text) := by
  refine ⟨blocks width text, ?_, lines_wrap width text⟩
  rw [blocks, List.forall₂_map_right_iff, List.forall₂_same]
  intro line _
  exact fewest_fillLine width (words line)

theorem wrap_wrap : wrap width (wrap width text) = wrap width text := by
  have kept : ∀ line ∈ (blocks width text).flatten,
      (fillLine width (words (joinWords line))).map joinWords = [joinWords line] := by
    intro line member
    obtain ⟨isWord, admissible⟩ := mem_blocks width text member
    rw [words_joinWords isWord, fillLine_admissible admissible, List.map_singleton]
  rw [wrap, lines_wrap, List.flatMap_map, List.flatMap_congr kept, wrap_eq, ← List.map_eq_flatMap]

end

end TagTemplate.Text
