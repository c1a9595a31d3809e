import TagTemplate.Proofs.Ancestors
import TagTemplate.Proofs.FileTree.Lookup

/-! What is new in the files when an output can be written to: directories above it and its lock. -/

namespace TagTemplate.FileTree

theorem Grows.find?_eq_none {allowed} {before after : FileTree} {path : Path}
    (grows : Grows allowed before after) (missing : after.find? path = none) :
    before.find? path = none := by
  cases found : before.find? path with
  | none => rfl
  | some entry =>
      have still := find?_carried grows.carries False.elim found
      simp [missing] at still

theorem find?_of_free {tree : FileTree} {pursuit : Pursuit} {path : Path} {inner : Location}
    {name : Name} (reached : tree.place pursuit path = .ok (.free inner name)) :
    tree.find? path = none := by
  rw [find?, place_node_of_unlinked (by simp) reached]

theorem Grows.along_directory {allowed} {before after : FileTree} {pursuit : Pursuit}
    {inner : Location} {name : Name} (grows : Grows allowed before after)
    (stored : after.node? (inner ++ [name]) = some .directory) :
    Along before after pursuit .node (.free inner name)
      (· = .ok (.found (inner ++ [name]) .directory)) := by
  refine ⟨by simp, by simp, ?_⟩
  intro limit directory segment rest onward onwardToo _ _ blank goes jumps entered
  unfold enter at entered ⊢
  split at entered
  · split at entered
    · next last =>
        cases entered
        simp only [stored]
        exact blank last _
    · simp at entered
  · next present =>
      simp only [grows.kept present]
      exact goes _ entered
  · split at entered <;> simp at entered
  · next target present =>
      split at entered
      · simp at entered
      · simp only [grows.kept present]
        rw [if_neg (by simp)]
        exact jumps _ _ entered

theorem find?_makeDirectory {tree made : FileTree} {path : Path}
    (ok : tree.makeDirectory path = .ok made) :
    ∃ location, tree.find? path = none ∧ made.find? path = some (location, .directory) ∧
      Grows (fun other node => other = location ∧ node = .directory) tree made := by
  unfold makeDirectory at ok
  split at ok
  · next inner name reached =>
      cases ok
      have grows : Grows (fun other node => other = inner ++ [name] ∧ node = .directory) tree
          (tree.put (inner ++ [name]) .directory) := put_grows (place_ends reached) ⟨rfl, rfl⟩
      have stored : (tree.put (inner ++ [name]) .directory).node? (inner ++ [name]) =
          some .directory := by
        rw [node?_put _ _ _ _ (by simp), if_pos rfl]
      have leads := (grows.along_directory stored).place rfl reached
      exact ⟨inner ++ [name], find?_of_free reached, find?_eq_some.mpr leads, grows⟩
  · simp at ok
  · simp at ok

theorem find?_openFile {tree opened : FileTree} {path : Path} {file : Location}
    (ok : tree.openFile path = .ok (file, opened)) :
    opened = tree ∨
      tree.find? path = none ∧ opened.find? path = some (file, .file ByteArray.empty false) := by
  have grows := openFile_grows ok
  obtain ⟨content, executable, leads⟩ := place_of_openFile ok
  unfold openFile at ok
  split at ok
  · cases ok
    exact .inl rfl
  · simp at ok
  · next inner name reached =>
      cases ok
      refine .inr ⟨find?_of_free reached, ?_⟩
      have present := (place_ends leads).resolve_left (by simp)
      rw [node?_put _ _ _ _ (by simp), if_pos rfl] at present
      cases present
      exact find?_eq_some.mpr (place_node_of_unlinked (by simp) leads)
  · simp at ok

/-- What may be new in files that are ready for an output: a directory that a path above the output
leads to, or the empty file that the path of the lock leads to. Before, the path led nowhere. -/
inductive Provides (output : Path) (before ready : FileTree) (location : Location) :
    FileNode → Prop
  | directory {path} (above : path.Above output) (missing : before.find? path = none)
      (made : ready.find? path = some (location, .directory)) :
      Provides output before ready location .directory
  | lock (missing : before.find? (Lock.pathFor output) = none)
      (made : ready.find? (Lock.pathFor output) =
        some (location, .file ByteArray.empty false)) :
      Provides output before ready location (.file ByteArray.empty false)

def Provided (output : Path) (before ready : FileTree) : Prop :=
  Grows (Provides output before ready) before ready

section
variable {output : Path} {before ready later : FileTree}

theorem Provides.grow {allowed} (grows : Grows allowed ready later) {location : Location}
    {node : FileNode} (provides : Provides output before ready location node) :
    Provides output before later location node := by
  cases provides with
  | directory above missing made =>
      exact .directory above missing (find?_carried grows.carries False.elim made)
  | lock missing made => exact .lock missing (find?_carried grows.carries False.elim made)

theorem Provided.refl (output : Path) (before : FileTree) : Provided output before before :=
  Grows.refl before

theorem Provided.grow {allowed} (provided : Provided output before ready)
    (grows : Grows allowed ready later)
    (adds : ∀ {location node}, allowed location node →
      Provides output before later location node) : Provided output before later :=
  (Grows.mono (fun _ _ => Provides.grow grows) provided).trans (grows.mono fun _ _ => adds)

theorem Provided.makeDirectory {path : Path} (provided : Provided output before ready)
    (above : path.Above output) (ok : ready.makeDirectory path = .ok later) :
    Provided output before later := by
  obtain ⟨location, missing, made, grows⟩ := find?_makeDirectory ok
  refine provided.grow grows ?_
  rintro other node ⟨rfl, rfl⟩
  exact .directory above (provided.find?_eq_none missing) made

theorem Provided.openFile {file : Location} (provided : Provided output before ready)
    (ok : ready.openFile (Lock.pathFor output) = .ok (file, later)) :
    Provided output before later := by
  rcases find?_openFile ok with rfl | ⟨missing, made⟩
  · exact provided
  · refine provided.grow (openFile_grows ok) ?_
    rintro other node ⟨rfl, rfl⟩
    exact .lock (provided.find?_eq_none missing) made

end

end TagTemplate.FileTree
