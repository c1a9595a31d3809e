import TagTemplate.Proofs.FileTree.Tidy

/-! File systems as they can be, links and all: each node is in a directory, under one name. -/

namespace TagTemplate.FileTree

def hasDirectory (tree : FileTree) (location : Location) : Bool :=
  match tree.node? location with
  | some .directory => true
  | _ => false

/-- A file system with one node at a location, each in a directory and under a name that a path can
go through, and with a directory to start from. -/
structure Proper (tree : FileTree) : Prop where
  distinct : tree.Distinct
  spelled : ∀ entry ∈ tree.entries, ∀ name ∈ entry.1, name ≠ [] ∧ '/' ∉ name
  inside : ∀ entry ∈ tree.entries, tree.hasDirectory entry.1.dropLast = true
  start : tree.hasDirectory tree.here = true

section
variable {tree : FileTree} {location : Location} {node : FileNode}

theorem hasDirectory_iff :
    tree.hasDirectory location = true ↔ tree.node? location = some .directory := by
  unfold hasDirectory
  split
  · next present => simp [present]
  · next other => simpa using other

namespace Proper

theorem dropLast (proper : tree.Proper) (present : tree.node? location = some node) :
    tree.node? location.dropLast = some .directory := by
  by_cases root : location = []
  · subst root
    rfl
  · obtain ⟨entry, member, rfl⟩ := List.mem_map.mp ((mem_entries_iff root).mpr ⟨node, present⟩)
    exact hasDirectory_iff.mp (proper.inside entry member)

theorem nested (proper : tree.Proper) : tree.Nested := by
  intro above name node present
  have inside := proper.dropLast present
  rwa [List.dropLast_concat] at inside

theorem name (proper : tree.Proper) {above : Location} {name : Name}
    (present : tree.node? (above ++ [name]) = some node) : name ≠ [] ∧ '/' ∉ name := by
  obtain ⟨entry, member, same⟩ :=
    List.mem_map.mp ((mem_entries_iff (by simp)).mpr ⟨node, present⟩)
  exact proper.spelled entry member name (by simp [same])

theorem named (proper : tree.Proper) : tree.Named := fun _ _ _ present => (proper.name present).1

theorem follow_directory (proper : tree.Proper)
    {jump : Location → List Name → Except IoError Place}
    (jumps : ∀ directory segments, tree.node? directory = some .directory →
      jump directory segments = .ok (.found location .directory) →
      tree.node? location = some .directory)
    (directory : Location) (segments : List Name) (inside : tree.node? directory = some .directory)
    (reached : tree.follow .node jump directory segments = .ok (.found location .directory)) :
    tree.node? location = some .directory := by
  induction segments generalizing directory with
  | nil =>
      cases reached
      exact inside
  | cons segment rest ih =>
      rw [follow_cons] at reached
      split at reached
      · exact ih _ inside reached
      split at reached
      · exact ih _ (proper.dropLast inside) reached
      split at reached
      · simp at reached
      split at reached
      · simp at reached
      unfold enter at reached
      split at reached
      · split at reached <;> simp at reached
      · next present => exact ih _ present reached
      · split at reached <;> simp at reached
      · next target present =>
          rw [if_neg (by simp)] at reached
          refine jumps _ _ ?_ reached
          split
          · rfl
          · exact inside

theorem place_node (proper : tree.Proper) {path : Path}
    (reached : tree.place .node path = .ok (.found location node)) :
    tree.node? location = some node := by
  have within : ∀ limit directory segments, tree.node? directory = some .directory →
      tree.followWithin .node limit directory segments = .ok (.found location .directory) →
      tree.node? location = some .directory := by
    intro limit
    induction limit with
    | zero => simp [followWithin]
    | succ limit ih => exact proper.follow_directory ih
  rcases place_ends reached with rfl | present
  · refine within _ _ _ ?_ (place_eq_ok reached)
    unfold startOf
    split
    · rfl
    · exact hasDirectory_iff.mp proper.start
  · exact present

end Proper

end

end TagTemplate.FileTree
