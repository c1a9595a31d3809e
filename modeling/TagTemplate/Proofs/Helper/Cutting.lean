import TagTemplate.Proofs.Helper.Refusal

/-! The parts that a helper cuts out of a text. -/

namespace TagTemplate

namespace Text

section
variable {text : List Char} {a b c : Int}

theorem clampIndex_le (length : Nat) (a : Int) : clampIndex length a ≤ length := by
  unfold clampIndex
  omega

theorem clampIndex_mono (ordered : a ≤ b) (length : Nat) :
    clampIndex length a ≤ clampIndex length b := by
  unfold clampIndex
  omega

theorem clampIndex_of_length_le {length : Nat} (beyond : length ≤ c) :
    clampIndex length c = clampIndex length length := by
  unfold clampIndex
  omega

theorem clampIndex_eq (length : Nat) (a : Int) :
    (clampIndex length a : Int) = max 0 (min a length) := by
  unfold clampIndex
  omega

theorem slice_append (first : a ≤ b) (second : b ≤ c) (text : List Char) :
    slice a b text ++ slice b c text = slice a c text := by
  have early := clampIndex_mono first text.length
  have late := clampIndex_mono second text.length
  unfold slice
  dsimp only
  generalize clampIndex text.length a = i at *
  generalize clampIndex text.length b = j at *
  generalize clampIndex text.length c = k at *
  have between : k - i = (j - i) + (k - j) := by omega
  have behind : i + (j - i) = j := by omega
  rw [between, List.take_add, List.drop_drop, behind]

theorem slice_of_length_le (beyond : text.length ≤ c) (a : Int) :
    slice a c text = slice a text.length text := by
  unfold slice
  rw [clampIndex_of_length_le beyond]

theorem length_slice (a b : Int) (text : List Char) :
    (slice a b text).length = clampIndex text.length b - clampIndex text.length a := by
  have inside := clampIndex_le text.length b
  simp only [slice, List.length_take, List.length_drop]
  omega

theorem slice_of_le (reversed : b ≤ a) (text : List Char) : slice a b text = [] := by
  have late := clampIndex_mono reversed text.length
  rw [← List.length_eq_zero_iff, length_slice]
  omega

theorem exists_around_slice (a b : Int) (text : List Char) :
    ∃ before behind, text = before ++ slice a b text ++ behind ∧
      before.length = clampIndex text.length a := by
  let start := clampIndex text.length a
  let stop := clampIndex text.length b
  refine ⟨text.take start, (text.drop start).drop (stop - start), ?_, ?_⟩
  · rw [List.append_assoc, slice, List.take_append_drop, List.take_append_drop]
  · rw [List.length_take]
    exact Nat.min_eq_left (clampIndex_le text.length a)

end

end Text

structure Value.IsIndex (value : Value) (k : Int) : Prop where
  stands : value.StandsFor k
  least : Numeral.int64Min ≤ k
  greatest : k ≤ Numeral.int64Max

theorem Value.IsIndex.read {value : Value} {k : Int} (index : value.IsIndex k) (helper : Helper)
    (argument : String) : Helper.expectInteger helper argument value = .ok k :=
  Helper.expectInteger_of_standsFor index.stands index.least index.greatest

namespace Helper

open Text

section
variable {context first second : Value} {a b : Int} (hash : Fields Value)

theorem applySubstring_between (start : first.IsIndex a) (stop : second.IsIndex b) :
    applySubstring context ⟨[first, second], hash⟩ =
      .ok (rendered (slice a b (textOf context))) := by
  have given : Arguments.positional ⟨[first, second], hash⟩ 1 .null = second := rfl
  have present := stop.stands.ne_null
  rw [applySubstring, given]
  cases second with
  | null => exact absurd rfl present
  | _ => simp only [Arguments.positional, List.getD_cons_zero, start.read, stop.read]

theorem applySubstring_from (start : first.IsIndex a) {arguments : Arguments}
    (given : arguments.positional 0 .null = first) (rest : arguments.positional 1 .null = .null) :
    applySubstring context arguments =
      .ok (rendered (slice a (textOf context).length (textOf context))) := by
  rw [applySubstring, given, rest, start.read]

end

/-- Cutting a text at a position and putting the parts together again gives the whole, and each part
lies where its positions say, those beyond the ends of the text standing for the ends. -/
theorem substring_partition {context first second third : Value} (there : ¬ context.Missing)
    {a b c : Int} (start : first.IsIndex a) (middle : second.IsIndex b) (stop : third.IsIndex c)
    (hash : Fields Value) :
    let text := textOf context
    let clamp (k : Int) : Int := max 0 (min k text.length)
    let cut (params : List Value) := Helper.substring.apply context ⟨params, hash⟩
    ∃ front back whole, cut [first, second] = .ok (rendered front) ∧
      cut [second, third] = .ok (rendered back) ∧ cut [first, third] = .ok (rendered whole) ∧
      (a ≤ b → b ≤ c → front ++ back = whole) ∧
      (text.length ≤ c → cut [first] = .ok (rendered whole) ∧
        cut [first, .null] = .ok (rendered whole)) ∧
      front.length = max 0 (clamp b - clamp a) ∧
      (∃ before behind, text = before ++ front ++ behind ∧ before.length = clamp a) ∧
      (b ≤ a → front = []) := by
  intro text clamp cut
  have between {x y : Value} {i j : Int} (first : x.IsIndex i) (second : y.IsIndex j) :
      cut [x, y] = .ok (rendered (slice i j text)) :=
    (apply_of_present there _).trans (applySubstring_between hash first second)
  have onwards (params : List Value)
      (given : Arguments.positional ⟨params, hash⟩ 0 .null = first)
      (rest : Arguments.positional ⟨params, hash⟩ 1 .null = .null) :
      cut params = .ok (rendered (slice a text.length text)) :=
    (apply_of_present there _).trans (applySubstring_from start given rest)
  refine ⟨_, _, _, between start middle, between middle stop, between start stop, ?_, ?_, ?_, ?_, ?_⟩
  · intro early late
    exact slice_append early late text
  · intro beyond
    rw [slice_of_length_le beyond]
    exact ⟨onwards [first] rfl rfl, onwards [first, .null] rfl rfl⟩
  · have early : (clampIndex text.length a : Int) = clamp a := clampIndex_eq text.length a
    have late : (clampIndex text.length b : Int) = clamp b := clampIndex_eq text.length b
    rw [length_slice]
    omega
  · obtain ⟨before, behind, shape, length⟩ := exists_around_slice a b text
    refine ⟨before, behind, shape, ?_⟩
    rw [length, clampIndex_eq]
  · intro reversed
    exact slice_of_le reversed text

theorem substring_partition_far :
    let text := ['n', 'é', '漢', 'z']
    let context := Value.string (String.ofList text)
    let first := Value.number (.integer ⟨-5, by decide, by decide⟩)
    let second := Value.string " +2"
    let third := Value.number (.integer ⟨Numeral.int64Max, by decide, by decide⟩)
    let cut (params : List Value) := Helper.substring.apply context ⟨params, []⟩
    ¬ context.Missing ∧ first.IsIndex (-5) ∧ second.IsIndex 2 ∧ third.IsIndex Numeral.int64Max ∧
      textOf context = text ∧
      ∃ front back whole, cut [first, second] = .ok (rendered front) ∧
        cut [second, third] = .ok (rendered back) ∧ cut [first, third] = .ok (rendered whole) ∧
        front ++ back = whole ∧ cut [first] = .ok (rendered whole) ∧
        cut [first, .null] = .ok (rendered whole) ∧ front.length = 2 ∧
        ∃ behind, text = front ++ behind := by
  intro text context first second third cut
  have there : ¬ context.Missing := Value.not_missing_string _
  have start : first.IsIndex (-5) := ⟨.number rfl, by decide, by decide⟩
  have middle : second.IsIndex 2 := ⟨standsFor_text rfl, by decide, by decide⟩
  have stop : third.IsIndex Numeral.int64Max := ⟨.number rfl, by decide, Int.le_refl _⟩
  have same : textOf context = text := textOf_ofList text
  obtain ⟨front, back, whole, early, late, both, joined, onwards, length, around, -⟩ :=
    substring_partition there start middle stop []
  rw [same] at onwards length around
  obtain ⟨before, behind, shape, none⟩ := around
  obtain rfl : before = [] := List.length_eq_zero_iff.mp (Int.ofNat.inj none)
  have two : front.length = 2 := Int.ofNat.inj length
  have ends := onwards (by decide)
  exact ⟨there, start, middle, stop, same, front, back, whole, early, late, both,
    joined (by decide) (by decide), ends.1, ends.2, two, behind, shape⟩

end Helper

end TagTemplate
