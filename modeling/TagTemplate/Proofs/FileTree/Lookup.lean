import TagTemplate.Proofs.FileTree.Replacement

/-! How what a path leads to depends on what it is followed for, and where its end is. -/

namespace TagTemplate.FileTree

section
variable {tree : FileTree} {pursuit : Pursuit} {location : Location} {node : FileNode}

theorem along_node {place : Place}
    (unlinked : pursuit = .entry → ∀ location target, place ≠ .found location (.link target)) :
    Along tree tree pursuit .node place (· = .ok place) := by
  refine ⟨by simp, fun _ => rfl, ?_⟩
  intro limit directory segment rest onward onwardToo _ _ _ goes jumps entered
  unfold enter at entered ⊢
  split at entered
  · exact entered
  · exact goes _ entered
  · exact entered
  · next target present =>
      split at entered
      · next last =>
          cases entered
          exact absurd rfl (unlinked (by simpa using (Bool.and_eq_true_iff.mp last).2) _ target)
      · rw [if_neg (by simp)]
        exact jumps _ _ entered

theorem place_node_of_unlinked {path : Path} {place : Place}
    (unlinked : ∀ location target, place ≠ .found location (.link target))
    (reached : tree.place pursuit path = .ok place) : tree.place .node path = .ok place :=
  (along_node fun _ => unlinked).place rfl reached

theorem place_node_of_entry {path : Path} (unlinked : ∀ target, node ≠ .link target)
    (reached : tree.place .entry path = .ok (.found location node)) :
    tree.place .node path = .ok (.found location node) :=
  place_node_of_unlinked (by simpa using fun _ target _ => unlinked target) reached

theorem place_entry_of_node {path : Path} {place : Place}
    (reached : tree.place .node path = .ok place) :
    tree.place .entry path = .ok place ∨
      ∃ other target, tree.place .entry path = .ok (.found other (.link target)) := by
  have along : Along tree tree .node .entry place fun result =>
      result = .ok place ∨ ∃ other target, result = .ok (.found other (.link target)) := by
    refine ⟨by simp, fun _ => Or.inl rfl, ?_⟩
    intro limit directory segment rest onward onwardToo _ _ _ goes jumps entered
    unfold enter at entered ⊢
    split at entered
    · exact Or.inl entered
    · exact goes _ entered
    · exact Or.inl entered
    · next target present =>
        rw [if_neg (by simp)] at entered
        split
        · exact Or.inr ⟨_, _, rfl⟩
        · exact jumps _ _ entered
  exact along.place rfl reached

def EndsInName (segments : List Name) : Prop :=
  ∃ above name, segments = above ++ [name] ∧ Path.IsName name

theorem EndsInName.cons {segments : List Name} (segment : Name) (ends : EndsInName segments) :
    EndsInName (segment :: segments) := by
  obtain ⟨above, name, rfl, named⟩ := ends
  exact ⟨segment :: above, name, rfl, named⟩

theorem EndsInName.of_append {front rest : List Name} (ends : EndsInName (front ++ rest))
    (onward : rest ≠ []) : EndsInName rest := by
  obtain ⟨above, name, shape, named⟩ := ends
  rw [← List.dropLast_concat_getLast onward, ← List.append_assoc] at shape
  obtain ⟨_, last⟩ := List.append_inj' shape rfl
  have same : rest.getLast onward = name := by simpa using last
  exact ⟨rest.dropLast, name, by rw [← same, List.dropLast_concat_getLast onward], named⟩

theorem follow_endsInName {jump : Location → List Name → Except IoError Place}
    (leaf : node ≠ .directory)
    (jumps : ∀ directory segments, jump directory segments = .ok (.found location node) →
      EndsInName segments)
    (directory : Location) (segments : List Name)
    (reached : tree.follow pursuit jump directory segments = .ok (.found location node)) :
    EndsInName segments := by
  induction segments generalizing directory with
  | nil =>
      cases reached
      exact absurd rfl leaf
  | cons segment rest ih =>
      rw [follow] at reached
      split at reached
      · exact (ih _ reached).cons segment
      next stands =>
      split at reached
      · exact (ih _ reached).cons segment
      next down =>
      have named : Path.IsName segment := ⟨fun blank => stands (Or.inl blank),
        fun point => stands (Or.inr point), down⟩
      have alone : rest = [] → EndsInName (segment :: rest) := by
        rintro rfl
        exact ⟨[], segment, rfl, named⟩
      split at reached
      · simp at reached
      split at reached
      · simp at reached
      split at reached
      · split at reached <;> simp at reached
      · exact (ih _ reached).cons segment
      · split at reached
        · next last => exact alone (by simpa using last)
        · simp at reached
      · by_cases last : rest = []
        · exact alone last
        · rw [if_neg (by simp [last])] at reached
          exact ((jumps _ _ reached).of_append last).cons segment

theorem place_endsInName {path : Path} (leaf : node ≠ .directory)
    (reached : tree.place pursuit path = .ok (.found location node)) :
    EndsInName path.segments := by
  have within : ∀ limit directory segments,
      tree.followWithin pursuit limit directory segments = .ok (.found location node) →
      EndsInName segments := by
    intro limit
    induction limit with
    | zero => simp [followWithin]
    | succ limit ih => exact follow_endsInName leaf ih
  exact within _ _ _ (place_eq_ok reached)

end

theorem Grows.along_filled {allowed} {before after : FileTree} {inner : Location} {name : Name}
    {content : ByteArray} {executable : Bool} (grows : Grows allowed before after)
    (stored : after.node? (inner ++ [name]) = some (.file content executable)) :
    Along before after .file .file (.free inner name)
      (· = .ok (.found (inner ++ [name]) (.file content executable))) := by
  refine ⟨id, by simp, ?_⟩
  intro limit directory segment rest onward onwardToo _ unslashed _ goes jumps entered
  unfold enter at entered ⊢
  split at entered
  · split at entered
    · next blank =>
        cases entered
        -- a slash behind the name would have been refused
        have last : rest.isEmpty = true := by
          cases rest with
          | nil => rfl
          | cons first others => simp [isSlashed, blank] at unslashed
        simp [stored, last]
    · simp at entered
  · next present =>
      simp only [grows.kept present]
      exact goes _ entered
  · split at entered <;> simp at entered
  · next target present =>
      rw [if_neg (by simp)] at entered
      simp only [grows.kept present]
      rw [if_neg (by simp)]
      exact jumps _ _ entered

theorem place_of_openFile {tree opened : FileTree} {path : Path} {file : Location}
    (ok : tree.openFile path = .ok (file, opened)) :
    ∃ content executable,
      opened.place .file path = .ok (.found file (.file content executable)) := by
  have grows := openFile_grows ok
  unfold openFile at ok
  split at ok
  · next location content executable reached =>
      cases ok
      exact ⟨content, executable, reached⟩
  · simp at ok
  · next inner name reached =>
      cases ok
      have stored : (tree.put (inner ++ [name]) (.file ByteArray.empty false)).node?
          (inner ++ [name]) = some (.file ByteArray.empty false) := by
        rw [node?_put _ _ _ _ (by simp), if_pos rfl]
      exact ⟨ByteArray.empty, false, (grows.along_filled stored).place rfl reached⟩
  · simp at ok

theorem openFile_of_place {tree : FileTree} {path : Path} {file : Location} {content : ByteArray}
    {executable : Bool}
    (reached : tree.place .file path = .ok (.found file (.file content executable))) :
    tree.openFile path = .ok (file, tree) := by
  simp [openFile, reached]

theorem makeDirectories_again {tree : FileTree} {path : Path} {location : Location}
    (reached : tree.place .node path = .ok (.found location .directory)) :
    tree.makeDirectories path = (none, tree) := by
  have there : tree.makeDirectory path = .error .alreadyExists := by
    unfold makeDirectory
    obtain found | ⟨_, _, found⟩ := place_entry_of_node reached
    · rw [found]
    · rw [found]
  obtain ⟨parents, shape⟩ : ∃ parents, path.ancestors = path :: parents := by
    unfold Path.ancestors
    cases path.segments.length with
    | zero => exact ⟨_, rfl⟩
    | succ fuel => exact ⟨_, rfl⟩
  rw [makeDirectories, shape, makeAll]
  split
  · rfl
  · simp [there, isDirectory_iff.mpr ⟨location, reached⟩]

section
variable {tree : FileTree} {path : Path} {above : List Name} {name : Name} {place : Place}

theorem front_of_place {pursuit : Pursuit} (shape : path.segments = above ++ [name])
    (named : Path.IsName name) (reached : tree.place pursuit path = .ok place) :
    ∃ inner, tree.followWithin .node linkLimit (tree.startOf path) above =
        .ok (.found inner .directory) ∧
      ∃ remaining, tree.followWithin pursuit (remaining + 1) inner [name] = .ok place := by
  have leads := place_eq_ok reached
  rw [shape] at leads
  have hasName : HasName [name] := ⟨name, by simp, named.1⟩
  obtain ⟨inner, front⟩ := followWithin_front (hasName.goesOn place) _ _ _ leads
  obtain ⟨remaining, onward⟩ := followWithin_append pursuit (Or.inr hasName) _ _ _ front
  exact ⟨inner, front, remaining, onward ▸ leads⟩

theorem enter_of_name {pursuit : Pursuit} {remaining : Nat} {inner : Location}
    (named : Path.IsName name)
    (reached : tree.followWithin pursuit (remaining + 1) inner [name] = .ok place) :
    tree.enter pursuit (tree.follow pursuit (tree.followWithin pursuit remaining))
      (tree.followWithin pursuit remaining) inner name [] = .ok place := by
  rw [followWithin, follow_cons, if_neg (by simp [named.1, named.2.1]), if_neg named.2.2,
    if_neg (by simp [isSlashed])] at reached
  split at reached
  · simp at reached
  · exact reached

theorem place_name {pursuit : Pursuit} (shape : path.segments = above ++ [name])
    (named : Path.IsName name)
    (direct : pursuit = .entry ∨ ∀ location target, tree.node? location ≠ some (.link target))
    (reached : tree.place pursuit path = .ok place) :
    ∃ inner, place = .free inner name ∨ ∃ node, place = .found (inner ++ [name]) node := by
  obtain ⟨inner, _, remaining, last⟩ := front_of_place shape named reached
  have entered := enter_of_name named last
  unfold enter at entered
  refine ⟨inner, ?_⟩
  split at entered
  · cases entered
    exact Or.inl rfl
  · cases entered
    exact Or.inr ⟨_, rfl⟩
  · cases entered
    exact Or.inr ⟨_, rfl⟩
  · next target present =>
      rcases direct with rfl | unlinked
      · cases entered
        exact Or.inr ⟨_, rfl⟩
      · exact absurd present (unlinked _ _)

theorem renameTarget_name {target : Location} (ok : tree.renameTarget path = .ok target) :
    ∃ inner name, target = inner ++ [name] ∧ path.fileName? = some name := by
  obtain ⟨undirected, unslashed, place, reached, _, aimed⟩ := place_of_renameTarget ok
  obtain ⟨above, name, shape, named⟩ := Path.exists_name unslashed undirected
  obtain ⟨inner, rfl | ⟨node, rfl⟩⟩ := place_name shape named (Or.inl rfl) reached
  · exact ⟨inner, name, aimed, Path.fileName?_name shape named⟩
  · exact ⟨inner, name, aimed, Path.fileName?_name shape named⟩

theorem place_entry_of_renameTarget {target : Location} {node : FileNode}
    (ok : tree.renameTarget path = .ok target) (present : tree.node? target = some node) :
    tree.place .entry path = .ok (.found target node) := by
  obtain ⟨_, _, place, reached, nowhere, aimed⟩ := place_of_renameTarget ok
  have ends := place_ends reached
  cases place with
  | free directory name => cases (aimed ▸ present).symm.trans ends
  | found location other =>
      have here : target = location := aimed
      subst here
      rcases ends with rfl | there
      · exact absurd rfl (nowhere target)
      · cases present.symm.trans there
        exact reached

theorem node?_name {pursuit : Pursuit} {location : Location} {node : FileNode}
    (shape : path.segments = above ++ [name]) (named : Path.IsName name)
    (reached : tree.place pursuit path = .ok (.found location node)) :
    ∃ inner other, tree.node? (inner ++ [name]) = some other := by
  obtain ⟨inner, _, remaining, last⟩ := front_of_place shape named reached
  have entered := enter_of_name named last
  unfold enter at entered
  refine ⟨inner, ?_⟩
  split at entered
  · simp at entered
  all_goals exact ⟨_, by assumption⟩

end

end TagTemplate.FileTree
