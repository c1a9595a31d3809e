import TagTemplate.Text.Pieces

/-! Texts taken apart, from left to right, at what is written in them. -/

namespace TagTemplate.Text

/-- A text taken apart at things of a class: the first is the one that begins first, the next one is
the first to begin behind it, and so on until none is left. Each stands with what lies in front of
it. -/
inductive Occurrences {α : Type} (written : α → List Char) (isOne : α → Prop) :
    List Char → List (List Char × α) → List Char → Prop
  | last {text : List Char} (free : ∀ a, isOne a → ¬ written a <:+: text) :
      Occurrences written isOne text [] text
  | next {front rest last : List Char} {parts : List (List Char × α)} {a : α} (one : isOne a)
      (first : ∀ before behind, front = before ++ behind → behind ≠ [] →
        ∀ b, isOne b → ¬ written b <+: behind ++ (written a ++ rest))
      (later : Occurrences written isOne rest parts last) :
      Occurrences written isOne (front ++ (written a ++ rest)) ((front, a) :: parts) last

section
variable {α : Type} {written : α → List Char} {isOne : α → Prop} {text last : List Char}
  {parts : List (List Char × α)}

theorem Occurrences.reassembled (occurrences : Occurrences written isOne text parts last) :
    (parts.flatMap fun part => part.1 ++ written part.2) ++ last = text := by
  induction occurrences with
  | last free => rfl
  | next one first later ih =>
      rw [List.flatMap_cons, List.append_assoc, ih, List.append_assoc]

theorem Occurrences.isOne_of_mem (occurrences : Occurrences written isOne text parts last) :
    ∀ part ∈ parts, isOne part.2 := by
  induction occurrences with
  | last free => simp
  | next one first later ih => exact List.forall_mem_cons.mpr ⟨one, ih⟩

theorem Occurrences.cons {c : Char} (none : ∀ a, isOne a → ¬ written a <+: c :: text)
    (occurrences : Occurrences written isOne text parts last) :
    ∃ parts last, Occurrences written isOne (c :: text) parts last := by
  cases occurrences with
  | last free =>
      refine ⟨[], c :: text, .last fun a one within => ?_⟩
      rcases List.infix_cons_iff.mp within with begins | inside
      · exact none a one begins
      · exact free a one inside
  | @next front rest last parts a one first later =>
      refine ⟨(c :: front, a) :: parts, last, ?_⟩
      rw [← List.cons_append]
      refine .next one (fun before behind split some => ?_) later
      cases before with
      | nil =>
          obtain rfl : c :: front = behind := split
          exact none
      | cons d before => exact first before behind (List.cons.inj split).2 some

theorem exists_occurrences (some : ∀ a, isOne a → written a ≠ []) (text : List Char) :
    ∃ parts last, Occurrences written isOne text parts last := by
  -- Either one begins at the first character and the search goes on behind it, or at the next.
  induction length : text.length using Nat.strongRecOn generalizing text with
  | ind n ih =>
      cases text with
      | nil =>
          refine ⟨[], [], .last fun a one within => ?_⟩
          exact some a one (List.infix_nil.mp within)
      | cons c text =>
          by_cases begins : ∃ a, isOne a ∧ written a <+: c :: text
          · obtain ⟨a, one, rest, shape⟩ := begins
            have positive : 0 < (written a).length := List.length_pos_iff.mpr (some a one)
            have shorter : rest.length < n := by
              rw [← length, ← shape, List.length_append]
              omega
            obtain ⟨parts, last, later⟩ := ih rest.length shorter rest rfl
            refine ⟨([], a) :: parts, last, ?_⟩
            rw [← shape, ← List.nil_append (written a ++ rest)]
            refine .next one (fun before behind split nonempty => ?_) later
            exact absurd (List.append_eq_nil_iff.mp split.symm).2 nonempty
          · have shorter : text.length < n := by
              rw [← length, List.length_cons]
              exact Nat.lt_succ_self _
            obtain ⟨parts, last, later⟩ := ih text.length shorter text rfl
            exact later.cons fun a one prefixed => begins ⟨a, one, prefixed⟩

theorem front_unique_of_first {front other rest behind : List Char} {a b : α} (one : isOne a)
    (oneToo : isOne b)
    (first : ∀ before after, front = before ++ after → after ≠ [] →
      ∀ c, isOne c → ¬ written c <+: after ++ (written a ++ rest))
    (firstToo : ∀ before after, other = before ++ after → after ≠ [] →
      ∀ c, isOne c → ¬ written c <+: after ++ (written b ++ behind))
    (same : front ++ (written a ++ rest) = other ++ (written b ++ behind)) : front = other := by
  rcases List.append_eq_append_iff.mp same with ⟨more, rfl, shape⟩ | ⟨more, rfl, shape⟩
  · by_cases empty : more = []
    · rw [empty, List.append_nil]
    · refine absurd ⟨rest, ?_⟩ (firstToo front more rfl empty a one)
      exact shape
  · by_cases empty : more = []
    · rw [empty, List.append_nil]
    · refine absurd ⟨behind, ?_⟩ (first other more rfl empty b oneToo)
      exact shape

theorem Occurrences.unique
    (apart : ∀ a b rest behind, isOne a → isOne b → written a ++ rest = written b ++ behind → a = b)
    (occurrences : Occurrences written isOne text parts last) {others : List (List Char × α)}
    {ending : List Char} (again : Occurrences written isOne text others ending) :
    parts = others ∧ last = ending := by
  induction occurrences generalizing others ending with
  | @last text free =>
      generalize whole : text = copy at again
      cases again with
      | last freeToo => exact ⟨rfl, rfl⟩
      | @next front rest _ _ a one first later =>
          refine absurd ?_ (free a one)
          rw [whole]
          exact ⟨front, rest, List.append_assoc _ _ _⟩
  | @next front rest last parts a one first later ih =>
      generalize whole : front ++ (written a ++ rest) = copy at again
      cases again with
      | last free =>
          refine absurd ?_ (free a one)
          rw [← whole]
          exact ⟨front, rest, List.append_assoc _ _ _⟩
      | @next other behind ending others b oneToo firstToo laterToo =>
          obtain rfl := front_unique_of_first one oneToo first firstToo whole
          have tail := List.append_cancel_left whole
          obtain rfl := apart a b rest behind one oneToo tail
          obtain rfl := List.append_cancel_left tail
          obtain ⟨rfl, rfl⟩ := ih laterToo
          exact ⟨rfl, rfl⟩

end

end TagTemplate.Text
