import Mathlib.Data.List.Induction
import TagTemplate.Proofs.Bundle

/-! A bundle in the making keeps the first body for each name, in the order in which the names first
came, and its two records of the names agree. -/

namespace TagTemplate.Bundle.Draft

def IsFirst (calls : List (String × String)) (index : Nat) : Prop :=
  ∃ name body, calls[index]? = some (name, body) ∧ name ∉ (calls.take index).map (·.1)

def Firsts (calls entries : List (String × String)) : Prop :=
  ∃ firsts : List Nat, firsts.Pairwise (· < ·) ∧ (∀ index, index ∈ firsts ↔ IsFirst calls index) ∧
    firsts.map (calls[·]?) = entries.map some

structure Made (calls : List (String × String)) (draft : Draft) : Prop where
  taken : ∀ name, name ∈ draft.taken ↔ name ∈ calls.map (·.1)
  agree : ∀ name, name ∈ draft.taken ↔ name ∈ draft.names
  once : draft.names.Nodup
  firsts : Firsts calls draft.entries

section
variable {calls : List (String × String)} {draft : Draft} {name : String} (body : String)

theorem insert_of_taken (taken : name ∈ draft.taken) :
    draft.insert name body = (.error (.duplicateTemplate name), draft) := by
  simp [insert, taken]

theorem insert_of_fresh (fresh : name ∉ draft.taken) :
    draft.insert name body =
      (.ok (), ⟨draft.entries ++ [(name, body)], name :: draft.taken⟩) := by
  simp [insert, fresh]

end

section
variable {calls entries : List (String × String)} {name : String} (body : String) {index : Nat}

theorem IsFirst.lt_length (first : IsFirst calls index) : index < calls.length := by
  obtain ⟨name, body, here, -⟩ := first
  exact (List.getElem?_eq_some_iff.mp here).1

theorem isFirst_concat :
    IsFirst (calls ++ [(name, body)]) index ↔
      IsFirst calls index ∨ index = calls.length ∧ name ∉ calls.map (·.1) := by
  rcases Nat.lt_trichotomy index calls.length with early | rfl | late
  · have other : index ≠ calls.length := Nat.ne_of_lt early
    simp only [IsFirst, List.getElem?_append_left early,
      List.take_append_of_le_length (Nat.le_of_lt early), other, false_and, or_false]
  · have beyond : ¬ IsFirst calls calls.length := fun first => Nat.lt_irrefl _ first.lt_length
    simp only [beyond, false_or, true_and]
    simp [IsFirst]
  · have other : index ≠ calls.length := Nat.ne_of_gt late
    have beyond : ¬ IsFirst calls index := fun first => Nat.lt_asymm late first.lt_length
    have beyondToo : ¬ IsFirst (calls ++ [(name, body)]) index := fun first => by
      have within := first.lt_length
      rw [List.length_append, List.length_singleton] at within
      omega
    simp only [beyond, beyondToo, other, false_and, or_self]

theorem map_getElem?_concat {firsts : List Nat} (call : String × String)
    (within : ∀ index ∈ firsts, IsFirst calls index) :
    firsts.map ((calls ++ [call])[·]?) = firsts.map (calls[·]?) :=
  List.map_congr_left fun index member =>
    List.getElem?_append_left (within index member).lt_length

theorem Firsts.of_taken (made : Firsts calls entries) (before : name ∈ calls.map (·.1)) :
    Firsts (calls ++ [(name, body)]) entries := by
  obtain ⟨firsts, order, all, picked⟩ := made
  refine ⟨firsts, order, fun index => ?_, ?_⟩
  · rw [all, isFirst_concat]
    exact ⟨.inl, fun either => either.elim id fun new => absurd before new.2⟩
  · rw [map_getElem?_concat _ fun index => (all index).mp, picked]

theorem Firsts.of_fresh (made : Firsts calls entries) (new : name ∉ calls.map (·.1)) :
    Firsts (calls ++ [(name, body)]) (entries ++ [(name, body)]) := by
  obtain ⟨firsts, order, all, picked⟩ := made
  refine ⟨firsts ++ [calls.length], ?_, fun index => ?_, ?_⟩
  · refine List.pairwise_append.mpr ⟨order, List.pairwise_singleton .., ?_⟩
    intro index member last single
    rw [List.mem_singleton.mp single]
    exact ((all index).mp member).lt_length
  · rw [List.mem_append, all, List.mem_singleton, isFirst_concat, and_iff_left new]
  · rw [List.map_append, map_getElem?_concat _ fun index => (all index).mp, picked,
      List.map_append, List.map_singleton, List.getElem?_concat_length, List.map_singleton]

end

section
variable {calls : List (String × String)} {draft : Draft}

theorem made_empty : Made [] empty where
  taken := by simp [empty]
  agree := by simp [empty, names]
  once := by simp [empty, names]
  firsts := ⟨[], .nil, by simp [IsFirst], rfl⟩

theorem Made.insert (made : Made calls draft) (name body : String) :
    Made (calls ++ [(name, body)]) (draft.insert name body).2 := by
  by_cases taken : name ∈ draft.taken
  · have before : name ∈ calls.map (·.1) := (made.taken name).mp taken
    rw [insert_of_taken body taken]
    refine ⟨fun other => ?_, made.agree, made.once, made.firsts.of_taken body before⟩
    rw [made.taken, List.map_append, List.mem_append, List.map_singleton, List.mem_singleton]
    exact ⟨.inl, fun either => either.elim id (· ▸ before)⟩
  · have new : name ∉ calls.map (·.1) := fun before => taken ((made.taken name).mpr before)
    have unlisted : name ∉ draft.names := fun listed => taken ((made.agree name).mpr listed)
    rw [insert_of_fresh body taken]
    refine ⟨fun other => ?_, fun other => ?_, ?_, made.firsts.of_fresh body new⟩
    · rw [List.mem_cons, made.taken, List.map_append, List.mem_append, List.map_singleton,
        List.mem_singleton, or_comm]
    · rw [List.mem_cons, made.agree, names, names, List.map_append, List.mem_append,
        List.map_singleton, List.mem_singleton, or_comm]
    · rw [names, List.map_append, List.map_singleton, List.nodup_append]
      refine ⟨made.once, by simp, fun other listed last single => ?_⟩
      rw [List.mem_singleton.mp single]
      exact ne_of_mem_of_not_mem listed unlisted

theorem insertEach_concat (draft : Draft) (calls : List (String × String)) (name body : String) :
    draft.insertEach (calls ++ [(name, body)]) =
      ((draft.insertEach calls).insert name body).2 := by
  rw [insertEach, insertEach, List.foldl_append, List.foldl_cons, List.foldl_nil]

theorem made_insertEach (calls : List (String × String)) :
    Made calls (empty.insertEach calls) := by
  induction calls using List.reverseRecOn with
  | nil => exact made_empty
  | append_singleton calls call ih =>
      rw [insertEach_concat]
      exact ih.insert call.1 call.2

theorem entries_insertEach_of_nodup (once : (calls.map (·.1)).Nodup) :
    (empty.insertEach calls).entries = calls := by
  induction calls using List.reverseRecOn with
  | nil => rfl
  | append_singleton calls call ih =>
      obtain ⟨name, body⟩ := call
      rw [List.map_append, List.map_singleton, List.nodup_append] at once
      obtain ⟨onceBefore, -, apart⟩ := once
      have fresh : name ∉ (empty.insertEach calls).taken := fun taken =>
        apart name (((made_insertEach calls).taken name).mp taken) name (by simp) rfl
      rw [insertEach_concat, insert_of_fresh body fresh, ih onceBefore]

theorem insertAll_eq_ok_iff {bundle : Bundle} :
    Bundle.empty.insertAll calls = .ok bundle ↔
      (calls.map (·.1)).Nodup ∧ bundle.entries = (empty.insertEach calls).entries := by
  constructor
  · intro ok
    have all : bundle.entries = calls := insertAll_eq_ok ok
    have once : (calls.map (·.1)).Nodup := all ▸ bundle.names_nodup
    exact ⟨once, by rw [all, entries_insertEach_of_nodup once]⟩
  · rintro ⟨once, same⟩
    have all : Bundle.empty.insertAll calls = .ok ⟨calls, once⟩ :=
      @insertAll_of_nodup Bundle.empty calls once
    rw [entries_insertEach_of_nodup once] at same
    subst same
    exact all

/-- After any calls, the names that are taken are the names of the entries, each once, and the
entries are the calls that were the first with their names, as they are in a bundle where none was
refused. One more call is refused if and only if its name has come before, and then changes nothing
that can be seen. -/
theorem insertEach_exact (calls : List (String × String)) :
    let draft := empty.insertEach calls
    (∀ name, name ∈ draft.taken ↔ name ∈ draft.names) ∧
      draft.names.Nodup ∧
      Firsts calls draft.entries ∧
      (∀ bundle, Bundle.empty.insertAll calls = .ok bundle ↔
        (calls.map (·.1)).Nodup ∧ bundle.entries = draft.entries) ∧
      ∀ name body,
        let (answer, after) := draft.insert name body
        (∀ failure, answer = .error failure ↔
          name ∈ calls.map (·.1) ∧ failure = .duplicateTemplate name) ∧
        (name ∈ calls.map (·.1) →
          after.names = draft.names ∧ after.size = draft.size ∧
            ∀ format, after.render format = draft.render format) := by
  intro draft
  have made : Made calls draft := made_insertEach calls
  refine ⟨made.agree, made.once, made.firsts, fun bundle => insertAll_eq_ok_iff,
    fun name body => ?_⟩
  by_cases before : name ∈ calls.map (·.1)
  · rw [insert_of_taken body ((made.taken name).mpr before)]
    exact ⟨fun failure => by simp [before, eq_comm], fun _ => ⟨rfl, rfl, fun _ => rfl⟩⟩
  · rw [insert_of_fresh body (mt (made.taken name).mp before)]
    exact ⟨fun failure => by simp [before], fun came => absurd came before⟩

end

end TagTemplate.Bundle.Draft
