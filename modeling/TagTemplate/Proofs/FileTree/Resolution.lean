import TagTemplate.Proofs.FileTree.Growth

/-! Where paths lead in a file system that holds the nodes of another one, and where a path leads
that goes on from a directory. -/

namespace TagTemplate.FileTree

/-- The nodes of a file system are in another one as well, but for the files at some locations. -/
structure Carries (lost : Location → Prop) (before after : FileTree) : Prop where
  here : after.here = before.here
  kept : ∀ {location node}, before.node? location = some node →
    (lost location → ∀ content executable, node ≠ .file content executable) →
    after.node? location = some node

theorem Grows.carries {allowed} {before after : FileTree} (grows : Grows allowed before after) :
    Carries (fun _ => False) before after where
  here := grows.here
  kept := fun present _ => grows.kept present

section
variable {lost : Location → Prop} {before after : FileTree} {pursuit : Pursuit}
  {location : Location} {node : FileNode}

theorem Carries.directory (carries : Carries lost before after)
    (present : before.node? location = some .directory) :
    after.node? location = some .directory :=
  carries.kept present (by simp)

theorem Carries.link (carries : Carries lost before after) {target : Path}
    (present : before.node? location = some (.link target)) :
    after.node? location = some (.link target) :=
  carries.kept present (by simp)

theorem Carries.along (carries : Carries lost before after)
    (wanted : lost location → ∀ content executable, node ≠ .file content executable) :
    Along before after pursuit pursuit (.found location node) (· = .ok (.found location node)) := by
  refine ⟨id, fun _ => rfl, ?_⟩
  intro limit directory segment rest onward onwardToo _ _ _ goes jumps entered
  unfold enter at entered ⊢
  split at entered
  · split at entered <;> simp at entered
  · next present =>
      simp only [carries.directory present]
      exact goes _ entered
  · next content executable present =>
      split at entered
      · next last =>
          cases entered
          simp [carries.kept present wanted, last]
      · simp at entered
  · next target present =>
      simp only [carries.link present]
      split at entered
      · next last =>
          rw [if_pos last]
          exact entered
      · next goesOn =>
          rw [if_neg goesOn]
          exact jumps _ _ entered

theorem followWithin_carried (carries : Carries lost before after)
    (wanted : lost location → ∀ content executable, node ≠ .file content executable) (limit : Nat)
    (directory : Location) (segments : List Name)
    (reached : before.followWithin pursuit limit directory segments =
      .ok (.found location node)) :
    after.followWithin pursuit limit directory segments = .ok (.found location node) :=
  (carries.along wanted).followWithin limit directory segments reached

theorem place_carried {path : Path} (carries : Carries lost before after)
    (wanted : lost location → ∀ content executable, node ≠ .file content executable)
    (reached : before.place pursuit path = .ok (.found location node)) :
    after.place pursuit path = .ok (.found location node) :=
  (carries.along wanted).place carries.here reached

theorem find?_eq_some {tree : FileTree} {path : Path} :
    tree.find? path = some (location, node) ↔
      tree.place .node path = .ok (.found location node) := by
  unfold find?
  split
  · next found => simp [found]
  · next other => simpa using other location node

theorem isDirectory_iff {tree : FileTree} {path : Path} :
    tree.isDirectory path = true ↔
      ∃ location, tree.place .node path = .ok (.found location .directory) := by
  simp only [← find?_eq_some]
  unfold isDirectory
  split
  · next location found => simp [found]
  · next other => simpa using other

theorem isFile_iff {tree : FileTree} {path : Path} :
    tree.isFile path = true ↔
      ∃ location content executable,
        tree.find? path = some (location, .file content executable) := by
  unfold isFile
  split
  · next location content executable found => simp [found]
  · next other => simpa using other

theorem find?_carried {path : Path} (carries : Carries lost before after)
    (wanted : lost location → ∀ content executable, node ≠ .file content executable)
    (reached : before.find? path = some (location, node)) :
    after.find? path = some (location, node) :=
  find?_eq_some.mpr (place_carried carries wanted (find?_eq_some.mp reached))

theorem Grows.place_found {allowed} (grows : Grows allowed before after) {path : Path}
    (reached : before.place pursuit path = .ok (.found location node)) :
    after.place pursuit path = .ok (.found location node) :=
  place_carried grows.carries False.elim reached

end

/-- Whether something in a path names more than the directory it is in. -/
def HasName (segments : List Name) : Prop := ∃ name ∈ segments, name ≠ []

theorem HasName.append {segments : List Name} (first : List Name) (named : HasName segments) :
    HasName (first ++ segments) := by
  obtain ⟨name, member, nonempty⟩ := named
  exact ⟨name, List.mem_append_right first member, nonempty⟩

theorem HasName.isEmpty {segments : List Name} (named : HasName segments) :
    segments.isEmpty = false := by
  obtain ⟨name, member, _⟩ := named
  cases segments with
  | nil => simp at member
  | cons first rest => rfl

theorem HasName.unslashed {segments : List Name} (named : HasName segments) :
    segments.all List.isEmpty = false := by
  obtain ⟨name, member, nonempty⟩ := named
  rw [List.all_eq_false]
  exact ⟨name, member, by simpa using nonempty⟩

theorem HasName.isSlashed {segments : List Name} (named : HasName segments) :
    isSlashed segments = false := by
  simp [FileTree.isSlashed, named.unslashed]

theorem follow_append {tree : FileTree} {pursuit : Pursuit} {limit : Nat} {inner : Location}
    {rest : List Name} (ahead : pursuit = .node ∨ HasName rest)
    (jumps : ∀ directory segments,
      tree.followWithin .node limit directory segments = .ok (.found inner .directory) →
      ∃ remaining, tree.followWithin pursuit limit directory (segments ++ rest) =
        tree.followWithin pursuit (remaining + 1) inner rest)
    (directory : Location) (segments : List Name)
    (reached : tree.follow .node (tree.followWithin .node limit) directory segments =
      .ok (.found inner .directory)) :
    ∃ remaining, tree.follow pursuit (tree.followWithin pursuit limit) directory
        (segments ++ rest) = tree.followWithin pursuit (remaining + 1) inner rest := by
  have unslashed : ∀ more, ¬(pursuit = .file ∧ isSlashed (more ++ rest)) := by
    intro more
    rcases ahead with rfl | named
    · simp
    · simp [(named.append more).isSlashed]
  have onward : ∀ more, ((more ++ rest).isEmpty && pursuit == .entry) = false := by
    intro more
    rcases ahead with rfl | named
    · simp
    · simp [(named.append more).isEmpty]
  induction segments generalizing directory with
  | nil =>
      simp only [follow, Except.ok.injEq, Place.found.injEq, and_true] at reached
      exact ⟨limit, by rw [reached, List.nil_append]; rfl⟩
  | cons segment more ih =>
      rw [List.cons_append, follow]
      rw [follow] at reached
      split at reached
      · next skipped =>
          rw [if_pos skipped]
          exact ih _ reached
      next stands =>
      rw [if_neg stands]
      split at reached
      · next up =>
          rw [if_pos up]
          exact ih _ reached
      next down =>
      rw [if_neg down]
      split at reached
      · simp at reached
      rw [if_neg (unslashed more)]
      split at reached
      · simp at reached
      next short =>
      rw [if_neg short]
      split at reached
      · split at reached <;> simp at reached
      · exact ih _ reached
      · split at reached <;> simp at reached
      · rw [if_neg (by simp [onward more])]
        rw [if_neg (by simp)] at reached
        rw [← List.append_assoc]
        exact jumps _ _ reached

theorem followWithin_append {tree : FileTree} (pursuit : Pursuit) {inner : Location}
    {rest : List Name} (ahead : pursuit = .node ∨ HasName rest) (limit : Nat) (directory : Location)
    (segments : List Name)
    (reached : tree.followWithin .node limit directory segments =
      .ok (.found inner .directory)) :
    ∃ remaining, tree.followWithin pursuit limit directory (segments ++ rest) =
      tree.followWithin pursuit (remaining + 1) inner rest := by
  induction limit generalizing directory segments with
  | zero => simp [followWithin] at reached
  | succ limit ih => exact follow_append ahead ih directory segments reached

/-- What is ahead of a path that leads to a place is not only slashes behind a name that is free. -/
def GoesOn (rest : List Name) (place : Place) : Prop :=
  rest ≠ [] ∧ (HasName rest ∨ ∀ directory name, place ≠ .free directory name)

theorem HasName.goesOn {rest : List Name} (named : HasName rest) (place : Place) :
    GoesOn rest place :=
  ⟨fun empty => by simpa [empty] using named.isEmpty, Or.inl named⟩

theorem follow_front {tree : FileTree} {pursuit : Pursuit}
    {jump jumpFront : Location → List Name → Except IoError Place} {place : Place}
    {rest : List Name} (onward : GoesOn rest place)
    (jumps : ∀ directory segments, jump directory (segments ++ rest) = .ok place →
      ∃ inner, jumpFront directory segments = .ok (.found inner .directory))
    (directory : Location) (segments : List Name)
    (reached : tree.follow pursuit jump directory (segments ++ rest) = .ok place) :
    ∃ inner, tree.follow .node jumpFront directory segments = .ok (.found inner .directory) := by
  induction segments generalizing directory with
  | nil => exact ⟨directory, rfl⟩
  | cons segment more ih =>
      have ahead : (more ++ rest).isEmpty = false := by simp [onward.1]
      rw [List.cons_append, follow] at reached
      rw [follow]
      split at reached
      · next skipped =>
          rw [if_pos skipped]
          exact ih _ reached
      next stands =>
      rw [if_neg stands]
      split at reached
      · next up =>
          rw [if_pos up]
          exact ih _ reached
      next down =>
      rw [if_neg down, if_neg (by simp)]
      split at reached
      · simp at reached
      split at reached
      · simp at reached
      next short =>
      rw [if_neg short]
      split at reached
      · rcases onward.2 with named | settled
        · simp [(named.append more).unslashed] at reached
        · split at reached
          · cases reached
            exact absurd rfl (settled _ _)
          · simp at reached
      · exact ih _ reached
      · simp [ahead] at reached
      · rw [if_neg (by simp [ahead]), ← List.append_assoc] at reached
        rw [if_neg (by simp)]
        exact jumps _ _ reached

theorem followWithin_front {tree : FileTree} {pursuit : Pursuit} {place : Place}
    {rest : List Name} (onward : GoesOn rest place) (limit : Nat) (directory : Location)
    (segments : List Name)
    (reached : tree.followWithin pursuit limit directory (segments ++ rest) = .ok place) :
    ∃ inner, tree.followWithin .node limit directory segments = .ok (.found inner .directory) := by
  induction limit generalizing directory segments with
  | zero => simp [followWithin] at reached
  | succ limit ih => exact follow_front onward ih directory segments reached

theorem followWithin_skip (tree : FileTree) (pursuit : Pursuit) (limit : Nat) (directory : Location)
    {skipped : List Name} (rest : List Name) (idle : ∀ name ∈ skipped, name = [] ∨ name = ['.']) :
    tree.followWithin pursuit (limit + 1) directory (skipped ++ rest) =
      tree.followWithin pursuit (limit + 1) directory rest := by
  induction skipped with
  | nil => rfl
  | cons name more ih =>
      simp only [followWithin, List.cons_append]
      rw [follow, if_pos (idle name (by simp))]
      exact ih fun other member => idle other (List.mem_cons_of_mem name member)

end TagTemplate.FileTree
