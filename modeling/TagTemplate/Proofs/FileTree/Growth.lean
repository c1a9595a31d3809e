import TagTemplate.Proofs.FileTree.Following

/-! What changes to a file system add to it, and that they leave all other nodes as they were. -/

namespace TagTemplate.FileTree

/-- All nodes of a file system are in another one, at the same locations, and each node that is new
there is one of those allowed. -/
structure Grows (allowed : Location → FileNode → Prop) (before after : FileTree) : Prop where
  here : after.here = before.here
  kept : ∀ {location node}, before.node? location = some node → after.node? location = some node
  fresh : ∀ {location node}, before.node? location = none → after.node? location = some node →
    allowed location node

abbrev Raised : FileTree → FileTree → Prop := Grows fun _ node => node = .directory

abbrev Same : FileTree → FileTree → Prop := Grows fun _ _ => False

theorem Grows.of_same {allowed} {before after : FileTree} (here : after.here = before.here)
    (same : ∀ location, after.node? location = before.node? location) :
    Grows allowed before after where
  here := here
  kept := fun present => (same _).trans present
  fresh := fun absent present => by simp [same, absent] at present

theorem Grows.refl {allowed} (tree : FileTree) : Grows allowed tree tree :=
  .of_same rfl fun _ => rfl

theorem Grows.trans {allowed} {first second third : FileTree} (early : Grows allowed first second)
    (late : Grows allowed second third) : Grows allowed first third where
  here := late.here.trans early.here
  kept := fun present => late.kept (early.kept present)
  fresh := by
    intro location node absent present
    cases between : second.node? location with
    | none => exact late.fresh between present
    | some other =>
        have same : other = node := by simpa [late.kept between] using present
        exact early.fresh absent (same ▸ between)

theorem Grows.mono {allowed permitted : Location → FileNode → Prop} {before after : FileTree}
    (weaker : ∀ location node, allowed location node → permitted location node)
    (grows : Grows allowed before after) : Grows permitted before after where
  here := grows.here
  kept := grows.kept
  fresh := fun absent present => weaker _ _ (grows.fresh absent present)

theorem ne_nil_of_free {tree : FileTree} {location : Location}
    (free : tree.node? location = none) : location ≠ [] := by
  rintro rfl
  simp [node?] at free

theorem put_grows {allowed} {tree : FileTree} {location : Location} {node : FileNode}
    (free : tree.node? location = none) (permitted : allowed location node) :
    Grows allowed tree (tree.put location node) where
  here := rfl
  kept := by
    intro other present old
    rw [node?_put _ _ _ _ (ne_nil_of_free free), if_neg]
    · exact old
    · rintro rfl
      simp [free] at old
  fresh := by
    intro other present absent new
    rw [node?_put _ _ _ _ (ne_nil_of_free free)] at new
    split at new
    · next same =>
        cases new
        exact same ▸ permitted
    · simp [absent] at new

/-- What a file system says about the end of a path. The directory that a path starts from need not
be among its nodes. -/
def Ends (tree : FileTree) : Place → Prop
  | .found location node => node = .directory ∨ tree.node? location = some node
  | .free directory name => tree.node? (directory ++ [name]) = none

theorem place_ends {tree : FileTree} {pursuit : Pursuit} {path : Path} {place : Place}
    (reached : tree.place pursuit path = .ok place) : tree.Ends place := by
  have along : Along tree tree pursuit pursuit place fun _ => tree.Ends place := by
    refine ⟨id, ?_, ?_⟩
    · rintro directory rfl
      exact Or.inl rfl
    · intro limit directory segment rest onward onwardToo _ _ _ goes jumps entered
      unfold enter at entered
      split at entered
      · next absent =>
          split at entered
          · cases entered
            exact absent
          · simp at entered
      · exact goes _ entered
      · next content executable present =>
          split at entered
          · cases entered
            exact Or.inr present
          · simp at entered
      · next target present =>
          split at entered
          · cases entered
            exact Or.inr present
          · exact jumps _ _ entered
  exact along.place rfl reached

theorem makeDirectory_raised {tree made : FileTree} {path : Path}
    (ok : tree.makeDirectory path = .ok made) : Raised tree made := by
  unfold makeDirectory at ok
  split at ok
  · next directory name reached =>
      cases ok
      exact put_grows (place_ends reached) rfl
  · simp at ok
  · simp at ok

theorem makeAll_keeps {Holds : FileTree → Prop} (paths : List Path)
    (keeps : ∀ {tree made path}, path ∈ paths → makeDirectory tree path = .ok made → Holds tree →
      Holds made) {tree : FileTree} (holds : Holds tree) : Holds (makeAll paths tree).2 := by
  induction paths with
  | nil => exact holds
  | cons path parents ih =>
      have later := ih fun member ok => keeps (List.mem_cons_of_mem _ member) ok
      rw [makeAll]
      split
      · exact holds
      split
      · next made ok => exact keeps List.mem_cons_self ok holds
      · split
        · next cause changed failed => simpa [failed] using later
        · next changed done =>
            have above : Holds changed := by simpa [done] using later
            split
            · next made ok => exact keeps List.mem_cons_self ok above
            · split
              · exact above
              · exact above
      · split
        · exact holds
        · exact holds

theorem makeDirectories_raised (tree : FileTree) (path : Path) :
    Raised tree (tree.makeDirectories path).2 :=
  makeAll_keeps path.ancestors (fun _ ok raised => raised.trans (makeDirectory_raised ok))
    (Grows.refl tree)

theorem openFile_grows {tree opened : FileTree} {path : Path} {file : Location}
    (ok : tree.openFile path = .ok (file, opened)) :
    Grows (fun location node => location = file ∧ node = .file ByteArray.empty false)
      tree opened := by
  unfold openFile at ok
  split at ok
  · cases ok
    exact Grows.refl tree
  · simp at ok
  · next directory name reached =>
      cases ok
      exact put_grows (place_ends reached) ⟨rfl, rfl⟩
  · simp at ok

theorem le_longest {name : Name} {names : List Name} (member : name ∈ names) :
    name.length ≤ (names.map List.length).foldr max 0 := by
  induction names with
  | nil => simp at member
  | cons first rest ih =>
      simp only [List.map_cons, List.foldr_cons]
      rcases List.mem_cons.mp member with rfl | later
      · exact Nat.le_max_left _ _
      · exact Nat.le_trans (ih later) (Nat.le_max_right _ _)

theorem length_lt_temporaryName {tree : FileTree} {inner : Location} {name : Name}
    {node : FileNode} (present : tree.node? (inner ++ [name]) = some node) :
    name.length < tree.temporaryName.length := by
  have found : ∃ entry ∈ tree.entries, entry.1 = inner ++ [name] := by
    simp only [node?, List.append_eq_nil_iff, List.cons_ne_nil, and_false, ↓reduceIte,
      Option.map_eq_some_iff] at present
    obtain ⟨entry, here, _⟩ := present
    exact ⟨entry, List.mem_of_find?_eq_some here, by simpa using List.find?_some here⟩
  obtain ⟨entry, member, same⟩ := found
  have bound := le_longest (List.mem_map_of_mem
    (f := fun entry : Location × FileNode => entry.1.getLast?.getD []) member)
  simp only [same, List.getLast?_append, List.getLast?_singleton, Option.some_or,
    Option.getD_some, List.map_map] at bound
  have longest : tree.longestName = List.foldr max 0 (List.map
      (List.length ∘ fun entry : Location × FileNode => entry.1.getLast?.getD [])
      tree.entries) := rfl
  simp only [temporaryName, List.length_append, List.length_replicate]
  omega

theorem node?_temporary (tree : FileTree) (directory : Location) :
    tree.node? (directory ++ [tree.temporaryName]) = none := by
  cases present : tree.node? (directory ++ [tree.temporaryName]) with
  | none => rfl
  | some node => exact absurd (length_lt_temporaryName present) (Nat.lt_irrefl _)

theorem makeTemporary_fresh {tree made : FileTree} {path : Path} {temporary : Location}
    (ok : tree.makeTemporary path = .ok (temporary, made)) :
    tree.node? temporary = none ∧ made = tree.put temporary (.file ByteArray.empty false) := by
  unfold makeTemporary at ok
  split at ok
  · next directory reached =>
      cases ok
      exact ⟨node?_temporary tree directory, rfl⟩
  · simp at ok
  · simp at ok
  · simp at ok

end TagTemplate.FileTree
