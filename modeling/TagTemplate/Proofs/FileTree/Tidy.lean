import Mathlib.Data.List.Induction
import TagTemplate.Proofs.FileTree.Listing
import TagTemplate.Proofs.FileTree.Lookup

/-! File systems of directories and files alone, and what their paths lead to. -/

namespace TagTemplate.FileTree

def Named (tree : FileTree) : Prop :=
  ∀ above name node, tree.node? (above ++ [name]) = some node → name ≠ []

def Nested (tree : FileTree) : Prop :=
  ∀ above name node, tree.node? (above ++ [name]) = some node → tree.node? above = some .directory

/-- A file system without links, in which each node is in a directory and has a name. -/
structure Tidy (tree : FileTree) : Prop where
  unlinked : ∀ location target, tree.node? location ≠ some (.link target)
  parent : ∀ {above name node}, tree.node? (above ++ [name]) = some node →
    tree.node? above = some .directory
  named : tree.Named

section
variable {tree made : FileTree} {pursuit : Pursuit} {directory location : Location} {name : Name}
  {node : FileNode}

theorem Tidy.nested (tidy : tree.Tidy) : tree.Nested := fun _ _ _ => tidy.parent

theorem Nested.above (nested : tree.Nested) {rest : List Name} (onward : rest ≠ [])
    (present : tree.node? (directory ++ rest) = some node) :
    tree.node? directory = some .directory := by
  induction rest using List.reverseRecOn generalizing node with
  | nil => exact absurd rfl onward
  | append_singleton front last ih =>
      rw [← List.append_assoc] at present
      have parent := nested _ _ _ present
      by_cases first : front = []
      · simpa [first] using parent
      · exact ih first parent

theorem Nested.length_le (nested : tree.Nested) (present : tree.node? location = some node) :
    location.length ≤ tree.entries.length := by
  -- The fronts of a location are as many locations as it has names, each with a node.
  let fronts := (List.range location.length).map fun count => location.take (count + 1)
  have once : fronts.Nodup := by
    refine (List.nodup_range).map_on ?_
    intro first inside second insideToo same
    have lengths := congrArg List.length same
    simp only [List.mem_range] at inside insideToo
    simp only [List.length_take] at lengths
    omega
  have within : fronts ⊆ tree.entries.map (·.1) := by
    intro front member
    obtain ⟨count, inside, rfl⟩ := List.mem_map.mp member
    rw [List.mem_range] at inside
    have below : location.take (count + 1) ≠ [] := by
      intro empty
      have lengths := congrArg List.length empty
      simp only [List.length_take, List.length_nil] at lengths
      omega
    rw [mem_entries_iff below]
    by_cases last : location.length = count + 1
    · exact ⟨node, by rwa [← last, List.take_length]⟩
    · rw [← List.take_append_drop (count + 1) location] at present
      refine ⟨_, nested.above ?_ present⟩
      intro empty
      rw [List.drop_eq_nil_iff] at empty
      omega
  simpa [fronts] using (once.subperm within).length_le

theorem follow_below {jump : Location → List Name → Except IoError Place} {names : List Name}
    (unlinked : ∀ location target, tree.node? location ≠ some (.link target))
    (named : ∀ name ∈ names, Path.IsName name)
    (reached : tree.follow .node jump directory names = .ok (.found location node)) :
    location = directory ++ names ∧ ∀ name ∈ names, ¬ nameLimit < Text.byteLength name := by
  induction names generalizing directory with
  | nil =>
      cases reached
      simp
  | cons name rest ih =>
      have isName := named name (by simp)
      rw [follow, if_neg (by simp [isName.1, isName.2.1]), if_neg isName.2.2,
        if_neg (by simp)] at reached
      split at reached
      · simp at reached
      next short =>
      split at reached
      · split at reached <;> simp at reached
      · obtain ⟨rfl, others⟩ := ih (fun other member => named other (by simp [member])) reached
        refine ⟨by simp, fun other member => ?_⟩
        rcases List.mem_cons.mp member with rfl | later
        · exact short
        · exact others other later
      · split at reached
        · next last =>
            cases reached
            obtain rfl : rest = [] := by simpa using last
            exact ⟨rfl, by simpa using short⟩
        · simp at reached
      · next target present => exact absurd present (unlinked _ _)

theorem Nested.follow (nested : tree.Nested)
    (jump : Location → List Name → Except IoError Place) {names : List Name}
    (named : ∀ name ∈ names, Path.IsName name)
    (short : ∀ name ∈ names, ¬ nameLimit < Text.byteLength name)
    (unlinked : ∀ target, node ≠ .link target)
    (present : tree.node? (directory ++ names) = some node)
    (there : node = .directory ∨ names ≠ []) :
    tree.follow .node jump directory names = .ok (.found (directory ++ names) node) := by
  induction names generalizing directory with
  | nil =>
      obtain rfl := there.resolve_right (by simp)
      simp [FileTree.follow]
  | cons name rest ih =>
      have isName := named name (by simp)
      rw [FileTree.follow, if_neg (by simp [isName.1, isName.2.1]), if_neg isName.2.2,
        if_neg (by simp), if_neg (short name (by simp))]
      have shape : directory ++ name :: rest = directory ++ [name] ++ rest := by simp
      rw [shape] at present ⊢
      have onward := fun there => ih (fun other member => named other (by simp [member]))
        (fun other member => short other (by simp [member])) present there
      by_cases last : rest = []
      · subst last
        rw [List.append_nil] at present ⊢
        rw [present]
        cases node with
        | directory => simp [FileTree.follow]
        | file content executable => simp
        | link target => exact absurd rfl (unlinked target)
      · simp only [nested.above last present]
        exact onward (Or.inr last)

theorem Nested.short (nested : tree.Nested) {jump : Location → List Name → Except IoError Place}
    {names : List Name} {place : Place} (named : ∀ name ∈ names, Path.IsName name)
    (present : tree.node? (directory ++ names) = some node)
    (reached : tree.follow .node jump directory names = .ok place) :
    ∀ name ∈ names, ¬ nameLimit < Text.byteLength name := by
  induction names generalizing directory with
  | nil => simp
  | cons name rest ih =>
      have isName := named name (by simp)
      have shape : directory ++ name :: rest = directory ++ [name] ++ rest := by simp
      rw [shape] at present
      rw [FileTree.follow, if_neg (by simp [isName.1, isName.2.1]), if_neg isName.2.2,
        if_neg (by simp)] at reached
      split at reached
      · simp at reached
      next short =>
      intro other member
      rcases List.mem_cons.mp member with rfl | later
      · exact short
      · simp only [nested.above (List.ne_nil_of_mem later) present] at reached
        exact ih (fun name member => named name (by simp [member])) present reached other later

theorem place_free {path : Path} (reached : tree.place pursuit path = .ok (.free directory name)) :
    name ≠ [] := by
  have along : Along tree tree pursuit pursuit (.free directory name) fun _ => name ≠ [] := by
    refine ⟨id, by simp, ?_⟩
    intro limit inner segment rest onward onwardToo named _ _ goes jumps entered
    unfold enter at entered
    split at entered
    · split at entered
      · cases entered
        exact named.1
      · simp at entered
    · exact goes _ entered
    · split at entered <;> simp at entered
    · split at entered
      · simp at entered
      · exact jumps _ _ entered
  exact along.place rfl reached

namespace Named

theorem put (named : tree.Named) (nonempty : name ≠ []) (node : FileNode) :
    (tree.put (directory ++ [name]) node).Named := by
  intro above other new present
  rw [node?_put _ _ _ _ (by simp)] at present
  split at present
  · next same =>
      obtain ⟨_, last⟩ := List.append_inj' same rfl
      simpa [← List.singleton_inj.mp last] using nonempty
  · exact named above other new present

theorem makeDirectory {path : Path} (ok : tree.makeDirectory path = .ok made)
    (named : tree.Named) : made.Named := by
  unfold FileTree.makeDirectory at ok
  split at ok
  · next reached =>
      cases ok
      exact named.put (place_free reached) _
  · simp at ok
  · simp at ok

theorem openFile {path : Path} (ok : tree.openFile path = .ok (location, made))
    (named : tree.Named) : made.Named := by
  unfold FileTree.openFile at ok
  split at ok
  · cases ok
    exact named
  · simp at ok
  · next reached =>
      cases ok
      exact named.put (place_free reached) _
  · simp at ok

theorem replaced {path : Path} {target : Location} {content : ByteArray} (named : tree.Named)
    (aimed : tree.renameTarget path = .ok target) (held : Replaced tree made target content) :
    made.Named := by
  intro above name node present
  by_cases here : above ++ [name] = target
  · obtain ⟨_, _, place, reached, nowhere, aims⟩ := place_of_renameTarget aimed
    cases place with
    | free directory last =>
        have same : above ++ [name] = directory ++ [last] := here.trans aims
        obtain ⟨_, names⟩ := List.append_inj' same rfl
        exact List.singleton_inj.mp names ▸ place_free reached
    | found location other =>
        have same : target = location := aims
        have there := (place_ends reached).resolve_left fun root => nowhere location (by rw [root])
        exact named above name other (by rwa [here, same])
  · exact named above name node (by rwa [← held.others here])

end Named

end

end TagTemplate.FileTree
