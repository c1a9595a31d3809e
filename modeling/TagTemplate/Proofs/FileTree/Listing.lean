import Mathlib.Data.List.Nodup
import Mathlib.Data.List.Perm.Subperm
import TagTemplate.Proofs.FileTree.Staging

/-! The names in a directory, in a file system that has one node at a location. -/

namespace TagTemplate.FileTree

def Distinct (tree : FileTree) : Prop := ([] :: tree.entries.map (·.1)).Nodup

instance (tree : FileTree) : Decidable tree.Distinct := inferInstanceAs (Decidable (List.Nodup _))

section
variable {tree made : FileTree} {location directory : Location} {name : Name}

theorem mem_entries_iff (below : location ≠ []) :
    location ∈ tree.entries.map (·.1) ↔ ∃ node, tree.node? location = some node := by
  rw [← Option.isSome_iff_exists]
  simp [node?, below, List.find?_isSome, List.mem_map]

theorem nameIn?_eq_some :
    nameIn? directory location = some name ↔ location = directory ++ [name] := by
  unfold nameIn?
  constructor
  · intro there
    split at there
    · next above =>
        have nonempty : location ≠ [] := by
          rintro rfl
          simp at there
        rw [List.getLast?_eq_some_getLast nonempty, Option.some.injEq] at there
        rw [← above, ← there, List.dropLast_concat_getLast nonempty]
    · simp at there
  · rintro rfl
    simp

theorem mem_namesIn :
    name ∈ tree.namesIn directory ↔ ∃ node, tree.node? (directory ++ [name]) = some node := by
  rw [← mem_entries_iff (by simp), namesIn, List.mem_mergeSort, List.mem_filterMap, List.mem_map]
  simp only [nameIn?_eq_some]

namespace Distinct

theorem namesIn_nodup (distinct : tree.Distinct) (directory : Location) :
    (tree.namesIn directory).Nodup := by
  have locations : (tree.entries.map (·.1)).Nodup := (List.nodup_cons.mp distinct).2
  rw [namesIn, (List.mergeSort_perm _ _).nodup_iff]
  have names : tree.entries.filterMap (fun entry => nameIn? directory entry.1) =
      (tree.entries.map (·.1)).filterMap (nameIn? directory) := by
    rw [List.filterMap_map]
    rfl
  rw [names]
  refine locations.filterMap fun first second name here there => ?_
  rw [nameIn?_eq_some.mp here, nameIn?_eq_some.mp there]

theorem erase (distinct : tree.Distinct) (location : Location) :
    (tree.erase location).Distinct := by
  refine List.Nodup.sublist ?_ distinct
  exact ((List.filter_sublist).map _).cons_cons _

theorem put (distinct : tree.Distinct) (below : location ≠ []) (node : FileNode) :
    (tree.put location node).Distinct := by
  have less := distinct.erase location
  simp only [Distinct, FileTree.erase, FileTree.put, List.map_cons, List.nodup_cons,
    List.mem_cons, not_or] at less ⊢
  refine ⟨⟨Ne.symm below, less.1⟩, ?_, less.2⟩
  simp

theorem makeDirectory {path : Path} (ok : tree.makeDirectory path = .ok made)
    (distinct : tree.Distinct) : made.Distinct := by
  unfold FileTree.makeDirectory at ok
  split at ok
  · cases ok
    exact distinct.put (by simp) _
  · simp at ok
  · simp at ok

theorem openFile {path : Path} (ok : tree.openFile path = .ok (location, made))
    (distinct : tree.Distinct) : made.Distinct := by
  unfold FileTree.openFile at ok
  split at ok
  · cases ok
    exact distinct
  · simp at ok
  · cases ok
    exact distinct.put (by simp) _
  · simp at ok

theorem rename {path : Path} (distinct : tree.Distinct)
    (ok : tree.rename location path = .ok made) : made.Distinct := by
  unfold FileTree.rename at ok
  cases aimed : tree.renameTarget path with
  | error cause => simp [aimed, Except.map] at ok
  | ok target =>
      simp only [aimed, Except.map, Except.ok.injEq] at ok
      split at ok
      · subst ok
        exact (distinct.erase location).put (renameTarget_ne_nil aimed) _
      · exact ok ▸ distinct

theorem length_le (distinct : tree.Distinct)
    (kept : ∀ {location node}, tree.node? location = some node →
      ∃ other, made.node? location = some other) : tree.entries.length ≤ made.entries.length := by
  obtain ⟨rootless, locations⟩ := List.nodup_cons.mp distinct
  have within : tree.entries.map (·.1) ⊆ made.entries.map (·.1) := by
    intro location member
    have below : location ≠ [] := by
      rintro rfl
      exact rootless member
    obtain ⟨node, present⟩ := (mem_entries_iff below).mp member
    exact (mem_entries_iff below).mpr (kept present)
  simpa using (locations.subperm within).length_le

end Distinct

end

end TagTemplate.FileTree
