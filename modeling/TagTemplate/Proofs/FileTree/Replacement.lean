import TagTemplate.Proofs.FileTree.Staging

/-! Where a path leads after a file has been put in the place that the path named. -/

namespace TagTemplate.FileTree

theorem Replaced.carries {plain replaced : FileTree} {target : Location} {content : ByteArray}
    (held : Replaced plain replaced target content) :
    Carries (fun location => location = target) replaced plain where
  here := held.here.symm
  kept := by
    intro location node present unfiled
    by_cases same : location = target
    · rw [same, held.stored] at present
      cases present
      exact absurd rfl (unfiled same content false)
    · rwa [held.others same] at present

theorem place_of_renameTarget {tree : FileTree} {path : Path} {target : Location}
    (ok : tree.renameTarget path = .ok target) :
    path.endsInDirection = false ∧ path.endsInSlash = false ∧
      ∃ place, tree.place .entry path = .ok place ∧
        (∀ location, place ≠ .found location .directory) ∧
        target = match place with
          | .free directory name => directory ++ [name]
          | .found location _ => location := by
  unfold renameTarget at ok
  split at ok
  · simp at ok
  next place reached =>
  split at ok
  · simp at ok
  next undirected =>
  split at ok
  · simp at ok
  next unslashed =>
  refine ⟨by simpa using undirected, by simpa using unslashed, place, reached, ?_⟩
  split at ok
  · cases ok
    exact ⟨by simp, rfl⟩
  · simp at ok
  · next location node file =>
      cases ok
      refine ⟨?_, rfl⟩
      intro other same
      cases same
      exact file rfl

theorem renameTarget_of_place {tree : FileTree} {path : Path} {target : Location} {node : FileNode}
    (undirected : path.endsInDirection = false) (unslashed : path.endsInSlash = false)
    (leaf : node ≠ .directory) (reached : tree.place .entry path = .ok (.found target node)) :
    tree.renameTarget path = .ok target := by
  cases node with
  | directory => exact absurd rfl leaf
  | file content executable => simp [renameTarget, reached, undirected, unslashed]
  | link link => simp [renameTarget, reached, undirected, unslashed]

theorem renameTarget_eq {tree : FileTree} {path : Path} {front idle : List Name} {name : Name}
    {inner target : Location} (shape : path.segments = front ++ (idle ++ [name]))
    (harmless : Path.Idle idle) (named : Path.IsName name)
    (leads : tree.followWithin .node linkLimit (tree.startOf path) front =
      .ok (.found inner .directory))
    (ok : tree.renameTarget path = .ok target) :
    target = inner ++ [name] ∧ ¬ nameLimit < Text.byteLength name := by
  obtain ⟨_, _, place, reached, nowhere, aimed⟩ := place_of_renameTarget ok
  rw [place_eq_followWithin reached, shape] at reached
  have hasName : HasName (idle ++ [name]) := ⟨name, by simp, named.1⟩
  obtain ⟨remaining, onward⟩ := followWithin_append .entry (Or.inr hasName) _ _ _ leads
  rw [onward, followWithin_skip _ _ remaining inner [name] harmless, followWithin, follow,
    if_neg (by simp [named.1, named.2.1]), if_neg named.2.2, if_neg (by simp)] at reached
  split at reached
  · simp at reached
  next short =>
  refine ⟨?_, short⟩
  subst aimed
  split at reached
  · cases reached
    rfl
  · simp only [follow, Except.ok.injEq] at reached
    exact absurd reached.symm (nowhere _)
  · cases reached
    rfl
  · cases reached
    rfl

theorem Replaced.place {plain replaced : FileTree} {path : Path} {target : Location}
    {content : ByteArray} (held : Replaced plain replaced target content)
    (ok : plain.renameTarget path = .ok target) {front idle : List Name} {name : Name}
    {inner : Location} (shape : path.segments = front ++ (idle ++ [name]))
    (harmless : Path.Idle idle) (named : Path.IsName name)
    (leads : replaced.followWithin .node linkLimit (replaced.startOf path) front =
      .ok (.found inner .directory)) (pursuit : Pursuit) :
    replaced.place pursuit path = .ok (.found target (.file content false)) := by
  have before : plain.followWithin .node linkLimit (plain.startOf path) front =
      .ok (.found inner .directory) := by
    have carried := followWithin_carried held.carries (by simp) _ _ _ leads
    rwa [startOf, held.here] at carried
  obtain ⟨rfl, short⟩ := renameTarget_eq shape harmless named before ok
  obtain ⟨_, _, place, reached, _, _⟩ := place_of_renameTarget ok
  have hasName : HasName (idle ++ [name]) := ⟨name, by simp, named.1⟩
  obtain ⟨remaining, onward⟩ := followWithin_append pursuit (Or.inr hasName) _ _ _ leads
  rw [place_eq_followWithin reached, shape, onward,
    followWithin_skip _ _ remaining inner [name] harmless, followWithin, follow,
    if_neg (by simp [named.1, named.2.1]), if_neg named.2.2, if_neg (by simp [isSlashed]),
    if_neg short, held.stored]
  simp

end TagTemplate.FileTree
