import TagTemplate.Bundle

/-! What a bundle holds after compiled templates have been added to it. -/

namespace TagTemplate.Bundle

theorem insert_eq_ok {bundle extended : Bundle} {name body : String}
    (ok : bundle.insert name body = .ok extended) :
    extended.entries = bundle.entries ++ [(name, body)] := by
  unfold insert at ok
  split at ok
  · simp at ok
  · cases ok
    rfl

theorem insert_eq_error {bundle : Bundle} {name body : String} {failure : Failure}
    (refused : bundle.insert name body = .error failure) : failure = .duplicateTemplate name := by
  unfold insert at refused
  split at refused
  · cases refused
    rfl
  · simp at refused

theorem insertAll_eq_ok {bundle extended : Bundle} {added : List (String × String)}
    (ok : bundle.insertAll added = .ok extended) :
    extended.entries = bundle.entries ++ added := by
  induction added generalizing bundle with
  | nil =>
      cases ok
      simp
  | cons entry rest ih =>
      obtain ⟨name, body⟩ := entry
      simp only [insertAll] at ok
      split at ok
      · simp at ok
      · next between first =>
          rw [ih ok, insert_eq_ok first, List.append_assoc, List.singleton_append]

theorem insertAll_of_nodup {bundle : Bundle} {added : List (String × String)}
    (once : ((bundle.entries ++ added).map (·.1)).Nodup) :
    bundle.insertAll added = .ok ⟨bundle.entries ++ added, once⟩ := by
  induction added generalizing bundle with
  | nil => simp [insertAll]
  | cons entry rest ih =>
      obtain ⟨name, body⟩ := entry
      have fresh : name ∉ bundle.names := by
        intro taken
        rw [List.map_append, List.nodup_append] at once
        exact once.2.2 name taken name (by simp) rfl
      have onward : ((bundle.entries ++ [(name, body)] ++ rest).map (·.1)).Nodup := by
        simpa using once
      simp only [insertAll, insert, dif_neg fresh]
      rw [ih onward]
      simp

theorem insertAll_eq_error {bundle : Bundle} {added : List (String × String)} {failure : Failure}
    (refused : bundle.insertAll added = .error failure) :
    ∃ name, failure = .duplicateTemplate name := by
  induction added generalizing bundle with
  | nil => simp [insertAll] at refused
  | cons entry rest ih =>
      obtain ⟨name, body⟩ := entry
      simp only [insertAll] at refused
      split at refused
      · next fault first =>
          cases refused
          exact ⟨name, insert_eq_error first⟩
      · exact ih refused

end TagTemplate.Bundle
