import TagTemplate.Format.Rendering
import TagTemplate.Proofs.Format.Spelling
import TagTemplate.Proofs.Numeral

/-! Digits in groups of three: what is written is the one text in which they stand so. -/

namespace TagTemplate.Format

section
variable {digits group rest : List Char}

theorem filter_groupThousands {p : Char → Bool} (comma : p ',' = false) (digits : List Char) :
    (groupThousands digits).filter p = digits.filter p := by
  induction digits with
  | nil => rfl
  | cons c rest ih =>
      unfold groupThousands
      split
      · rw [List.filter_cons, List.filter_cons_of_neg (by simp [comma]), ih, ← List.filter_cons]
      · rw [List.filter_cons, ih, ← List.filter_cons]

theorem head?_groupThousands (digits : List Char) :
    (groupThousands digits).head? = digits.head? := by
  cases digits with
  | nil => rfl
  | cons c rest =>
      unfold groupThousands
      split <;> rfl

theorem getLast?_groupThousands (digits : List Char) :
    (groupThousands digits).getLast? = digits.getLast? := by
  induction digits with
  | nil => rfl
  | cons c rest ih =>
      unfold groupThousands
      split
      · next more =>
          -- Something is written behind the comma, so the comma is not what comes last.
          obtain ⟨d, others, rfl⟩ := List.exists_cons_of_ne_nil more.1
          simp only [List.getLast?_cons, ih, Option.getD_some]
      · rw [List.getLast?_cons, ih, List.getLast?_cons]

theorem groupThousands_short (short : digits.length ≤ 3) : groupThousands digits = digits := by
  induction digits with
  | nil => rfl
  | cons c rest ih =>
      rw [List.length_cons] at short
      have inside : ¬(rest ≠ [] ∧ rest.length % 3 = 0) := by
        rintro ⟨some, aligned⟩
        have positive := List.length_pos_iff.mpr some
        omega
      rw [groupThousands, if_neg inside, ih (by omega)]

theorem groupThousands_append (some : group ≠ []) (short : group.length ≤ 3) (more : rest ≠ [])
    (aligned : rest.length % 3 = 0) :
    groupThousands (group ++ rest) = group ++ ',' :: groupThousands rest := by
  induction group with
  | nil => exact absurd rfl some
  | cons c group ih =>
      rw [List.length_cons] at short
      by_cases last : group = []
      · rw [last, List.cons_append, List.nil_append, groupThousands, if_pos ⟨more, aligned⟩]
        rfl
      · have inside : ¬(group ++ rest ≠ [] ∧ (group ++ rest).length % 3 = 0) := by
          rintro ⟨-, early⟩
          have positive := List.length_pos_iff.mpr last
          rw [List.length_append] at early
          omega
        rw [List.cons_append, groupThousands, if_neg inside, ih last (by omega), List.cons_append]

end

/-- Groups of digits from left to right: one to three digits first, three in each later group. -/
structure InThrees (first : List Char) (later : List (List Char)) : Prop where
  nonempty : 1 ≤ first.length
  short : first.length ≤ 3
  full : ∀ group ∈ later, group.length = 3

section
variable {digits text first : List Char} {later : List (List Char)}

theorem length_flatten_full (full : ∀ group ∈ later, group.length = 3) :
    later.flatten.length = later.length * 3 := by
  have lengths : later.map List.length = List.replicate later.length 3 :=
    List.map_eq_replicate_iff.mpr full
  rw [List.length_flatten, lengths, List.sum_replicate_nat]

theorem exists_inThrees (some : digits ≠ []) :
    ∃ first later, digits = first ++ later.flatten ∧ InThrees first later := by
  induction digits with
  | nil => exact absurd rfl some
  | cons c rest ih =>
      have alone : 1 ≤ [c].length ∧ [c].length ≤ 3 := by simp
      by_cases last : rest = []
      · exact ⟨[c], [], by rw [last]; rfl, alone.1, alone.2, List.forall_mem_nil _⟩
      · -- One more digit goes into the leftmost group of the others, unless that has three already.
        obtain ⟨first, later, rfl, nonempty, short, full⟩ := ih last
        by_cases three : first.length = 3
        · exact ⟨[c], first :: later, rfl, alone.1, alone.2,
            List.forall_mem_cons.mpr ⟨three, full⟩⟩
        · have longer : (c :: first).length ≤ 3 := by
            rw [List.length_cons]
            omega
          exact ⟨c :: first, later, rfl, Nat.succ_pos _, longer, full⟩

theorem groupThousands_flatten (threes : InThrees first later) :
    groupThousands (first ++ later.flatten) = List.intercalate [','] (first :: later) := by
  induction later generalizing first with
  | nil =>
      rw [List.flatten_nil, List.append_nil, List.intercalate_singleton,
        groupThousands_short threes.short]
  | cons group later ih =>
      obtain ⟨three, others⟩ := List.forall_mem_cons.mp threes.full
      have next : InThrees group later := ⟨by omega, by omega, others⟩
      have length : (group ++ later.flatten).length = (later.length + 1) * 3 := by
        rw [← List.flatten_cons, length_flatten_full threes.full, List.length_cons]
      have some : first ≠ [] := List.length_pos_iff.mp threes.nonempty
      have more : group ++ later.flatten ≠ [] := List.length_pos_iff.mp (by omega)
      rw [List.flatten_cons, groupThousands_append some threes.short more (by omega), ih next,
        List.intercalate_cons_cons, List.append_assoc, List.singleton_append]

structure Grouped (digits text : List Char) : Prop where
  restored : text.filter (· != ',') = digits
  opening : text.head? ≠ some ','
  closing : text.getLast? ≠ some ','
  groups : ∃ first later, Text.pieces (· == ',') text = first :: later ∧ InThrees first later

theorem grouped_groupThousands (some : digits ≠ []) (plain : ',' ∉ digits) :
    Grouped digits (groupThousands digits) := by
  have without := Text.beq_eq_false_of_notMem plain
  refine ⟨?_, ?_, ?_, ?_⟩
  · rw [filter_groupThousands (by decide), List.filter_eq_self]
    intro c member
    rw [bne, without c member, Bool.not_false]
  · rw [head?_groupThousands]
    exact fun first => plain (List.mem_of_head? first)
  · rw [getLast?_groupThousands]
    exact fun last => plain (List.mem_of_getLast? last)
  · obtain ⟨first, later, rfl, threes⟩ := exists_inThrees some
    refine ⟨first, later, ?_, threes⟩
    rw [groupThousands_flatten threes]
    refine Text.pieces_intercalate rfl (List.cons_ne_nil _ _) fun group member c inside => ?_
    have digit : c ∈ (first :: later).flatten := List.mem_flatten_of_mem member inside
    exact without c (by rwa [List.flatten_cons] at digit)

theorem Grouped.eq_groupThousands (grouped : Grouped digits text) :
    text = groupThousands digits := by
  obtain ⟨first, later, shape, threes⟩ := grouped.groups
  have same : first ++ later.flatten = digits := by
    rw [← List.flatten_cons, ← shape, Text.flatten_pieces]
    exact grouped.restored
  calc text = List.intercalate [','] (Text.pieces (· == ',') text) :=
        (Text.intercalate_pieces text ',').symm
    _ = List.intercalate [','] (first :: later) := by rw [shape]
    _ = groupThousands (first ++ later.flatten) := (groupThousands_flatten threes).symm
    _ = groupThousands digits := by rw [same]

theorem groupWhole_append {whole rest : List Char} (plain : '.' ∉ whole)
    (point : ∀ c ∈ rest.head?, c = '.') :
    groupWhole (whole ++ rest) = groupThousands whole ++ rest := by
  have passed : ∀ c ∈ whole, (c != '.') = true := fun c member =>
    bne_iff_ne.mpr fun same => plain (same ▸ member)
  have stops : ∀ c ∈ rest.head?, (c != '.') = false := by
    intro c first
    rw [point c first, bne_self_eq_false]
  rw [groupWhole, takeWhile_passed passed stops, Text.dropWhile_passed passed stops]

end

/-- Digits are written in groups of three, in the only way there is; of a number with a point, those
before the point are, and what stands behind it is left as it is. -/
theorem groupThousands_exact {whole : List Char} (nonempty : whole ≠ [])
    (all : ∀ c ∈ whole, c.isDigit = true) :
    (∀ text, Grouped whole text ↔ text = groupThousands whole) ∧
    groupWhole whole = groupThousands whole ∧
    ∀ fraction, groupWhole (whole ++ '.' :: fraction) = groupThousands whole ++ '.' :: fraction := by
  have noComma : ',' ∉ whole := fun member =>
    Numeral.ne_of_isDigit (all _ member) (by decide) rfl
  have noPoint : '.' ∉ whole := fun member =>
    Numeral.ne_of_isDigit (all _ member) (by decide) rfl
  refine ⟨fun text => ⟨Grouped.eq_groupThousands, ?_⟩, ?_, fun fraction => ?_⟩
  · rintro rfl
    exact grouped_groupThousands nonempty noComma
  · have alone : groupWhole (whole ++ []) = groupThousands whole ++ [] :=
      groupWhole_append noPoint (by simp)
    rwa [List.append_nil, List.append_nil] at alone
  · exact groupWhole_append noPoint (by simp)

theorem millions_grouped :
    let whole := ['1', '2', '3', '4', '5', '6', '7']
    let text := ['1', ',', '2', '3', '4', ',', '5', '6', '7']
    let fraction := ['8', '9', '0', '1']
    (whole ≠ [] ∧ ∀ c ∈ whole, c.isDigit = true) ∧ (∀ other, Grouped whole other ↔ other = text) ∧
      groupWhole whole = text ∧ groupWhole (whole ++ '.' :: fraction) = text ++ '.' :: fraction := by
  intro whole text fraction
  have nonempty : whole ≠ [] := by decide
  have all : ∀ c ∈ whole, c.isDigit = true := List.all_eq_true.mp (by decide)
  have shown : groupThousands whole = text := by decide
  obtain ⟨only, alone, before⟩ := groupThousands_exact nonempty all
  rw [shown] at only alone
  exact ⟨⟨nonempty, all⟩, only, alone, by rw [before, shown]⟩

example : groupThousands ['1', '0', '0', '0', '0', '0'] = ['1', '0', '0', ',', '0', '0', '0'] := by
  decide

end TagTemplate.Format
