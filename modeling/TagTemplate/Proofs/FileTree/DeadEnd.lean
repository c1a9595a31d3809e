import TagTemplate.Proofs.FileTree.Lookup

/-! Where paths lead after a file has been put at a location that no path goes through. -/

namespace TagTemplate.FileTree

/-- There is no directory at a location, and no link to one. -/
structure DeadEnd (tree : FileTree) (target : Location) : Prop where
  leaf : tree.node? target ≠ some .directory
  blind : ∀ {link}, tree.node? target = some (.link link) → ∀ limit inner,
    tree.followWithin .node limit (if link.absolute then [] else target.dropLast) link.segments ≠
      .ok (.found inner .directory)

theorem DeadEnd.of_unlinked {tree : FileTree} {path : Path} {target : Location}
    (aimed : tree.renameTarget path = .ok target)
    (unlinked : ∀ link, tree.node? target ≠ some (.link link)) : tree.DeadEnd target where
  leaf present := by
    obtain ⟨_, _, place, reached, nowhere, _⟩ := place_of_renameTarget aimed
    exact nowhere target (Except.ok.inj
      (reached.symm.trans (place_entry_of_renameTarget aimed present)))
  blind present := absurd present (unlinked _)

/-- What there is at a location, or what a link there leads to, through any number of links. -/
inductive Leads (tree : FileTree) (target : Location) : Location → FileNode → Prop
  | here {node} (present : tree.node? target = some node) : Leads tree target target node
  | through {link limit location node} (present : tree.node? target = some (.link link))
      (reached : tree.followWithin .node limit (if link.absolute then [] else target.dropLast)
        link.segments = .ok (.found location node)) : Leads tree target location node

theorem DeadEnd.not_directory {tree : FileTree} {target location : Location} {node : FileNode}
    (ends : tree.DeadEnd target) (leads : tree.Leads target location node) :
    node ≠ .directory := by
  rintro rfl
  cases leads with
  | here present => exact ends.leaf present
  | through present reached => exact ends.blind present _ _ reached

theorem follow_more {tree : FileTree} {pursuit : Pursuit} {place : Place}
    {jump jumpToo : Location → List Name → Except IoError Place}
    (more : ∀ directory segments, jump directory segments = .ok place →
      jumpToo directory segments = .ok place)
    (directory : Location) (segments : List Name)
    (reached : tree.follow pursuit jump directory segments = .ok place) :
    tree.follow pursuit jumpToo directory segments = .ok place := by
  induction segments generalizing directory with
  | nil => exact reached
  | cons segment rest ih =>
      rw [follow_cons] at reached ⊢
      split at reached
      · next skipped =>
          rw [if_pos skipped]
          exact ih _ reached
      next stands =>
      rw [if_neg stands]
      split at reached
      · next up =>
          rw [if_pos up]
          exact ih _ reached
      next down =>
      rw [if_neg down]
      split at reached
      · simp at reached
      next unslashed =>
      rw [if_neg unslashed]
      split at reached
      · simp at reached
      next short =>
      rw [if_neg short]
      exact enter_congr (· = .ok place) rfl rfl (fun inner => ih inner) more reached

theorem followWithin_more {tree : FileTree} {pursuit : Pursuit} {place : Place} {limit greater : Nat}
    (order : limit ≤ greater) {directory : Location} {segments : List Name}
    (reached : tree.followWithin pursuit limit directory segments = .ok place) :
    tree.followWithin pursuit greater directory segments = .ok place := by
  induction limit generalizing greater directory segments with
  | zero => simp [followWithin] at reached
  | succ limit ih =>
      obtain ⟨more, rfl⟩ := Nat.exists_eq_add_one.mpr (Nat.lt_of_lt_of_le (Nat.succ_pos limit) order)
      exact follow_more (fun _ _ => ih (Nat.le_of_succ_le_succ order)) _ _ reached

theorem followWithin_unique {tree : FileTree} {pursuit : Pursuit} {place other : Place}
    {limit limitToo : Nat} {directory : Location} {segments : List Name}
    (reached : tree.followWithin pursuit limit directory segments = .ok place)
    (reachedToo : tree.followWithin pursuit limitToo directory segments = .ok other) :
    place = other := by
  have first := followWithin_more (Nat.le_max_left limit limitToo) reached
  have second := followWithin_more (Nat.le_max_right limit limitToo) reachedToo
  exact Except.ok.inj (first.symm.trans second)

theorem Leads.unique {tree : FileTree} {target location other : Location} {content : ByteArray}
    {executable : Bool} {node : FileNode}
    (leads : tree.Leads target location (.file content executable))
    (leadsToo : tree.Leads target other node) :
    other = location ∧ node = .file content executable ∨ ∃ link, tree.node? other = some (.link link) ∧
      node = .link link := by
  cases leads with
  | here present =>
      cases leadsToo with
      | here presentToo => exact .inl ⟨rfl, Option.some.inj (presentToo.symm.trans present)⟩
      | through presentToo _ => cases present.symm.trans presentToo
  | through present reached =>
      cases leadsToo with
      | here presentToo => exact .inr ⟨_, present, Option.some.inj (presentToo.symm.trans present)⟩
      | through presentToo reachedToo =>
          cases present.symm.trans presentToo
          cases followWithin_unique reached reachedToo
          exact .inl ⟨rfl, rfl⟩

theorem DeadEnd.of_leads {tree : FileTree} {target location : Location} {content : ByteArray}
    {executable : Bool} (leads : tree.Leads target location (.file content executable)) :
    tree.DeadEnd target where
  leaf present := by
    rcases leads.unique (.here present) with ⟨-, same⟩ | ⟨link, -, same⟩
    · cases same
    · cases same
  blind present limit inner reached := by
    rcases leads.unique (.through present reached) with ⟨-, same⟩ | ⟨link, -, same⟩
    · cases same
    · cases same

theorem exists_leads {tree : FileTree} {path : Path} {location : Location} {node : FileNode}
    (leaf : node ≠ .directory) (found : tree.find? path = some (location, node)) :
    ∃ target, tree.renameTarget path = .ok target ∧ tree.Leads target location node := by
  have reached := find?_eq_some.mp found
  obtain ⟨above, name, shape, named⟩ := place_endsInName leaf reached
  obtain ⟨undirected, unslashed⟩ := Path.ends_of_name shape named
  rcases place_entry_of_node reached with there | ⟨other, link, there⟩
  · exact ⟨location, renameTarget_of_place undirected unslashed leaf there,
      .here ((place_ends there).resolve_left leaf)⟩
  · have present := (place_ends there).resolve_left (by simp)
    refine ⟨other, renameTarget_of_place undirected unslashed (by simp) there, ?_⟩
    -- both ways go on from the same directory, where the link is
    obtain ⟨inner, front, remaining, last⟩ := front_of_place shape named reached
    obtain ⟨innerToo, frontToo, _, lastToo⟩ := front_of_place shape named there
    cases front.symm.trans frontToo
    have entered := enter_of_name named last
    have enteredToo := enter_of_name named lastToo
    unfold enter at entered enteredToo
    split at enteredToo
    · simp at enteredToo
    · simp [follow] at enteredToo
    · simp at enteredToo
    · cases enteredToo
      have jumped : tree.followWithin .node remaining (if link.absolute then [] else inner)
          link.segments = .ok (.found location node) := by simpa [present] using entered
      have around : (inner ++ [name]).dropLast = inner := List.dropLast_concat
      rw [← around] at jumped
      exact .through present jumped

inductive Onto (plain : FileTree) (target : Location) (content : ByteArray) :
    Location → FileNode → Except IoError Place → Prop
  | same (location node) : Onto plain target content location node (.ok (.found location node))
  | new {location node} (leads : plain.Leads target location node) :
      Onto plain target content location node (.ok (.found target (.file content false)))

section
variable {plain replaced : FileTree} {target location : Location} {content : ByteArray}
  {pursuit : Pursuit} {node : FileNode}

theorem DeadEnd.last (ends : plain.DeadEnd target) (followed : pursuit ≠ .entry) {link : Path}
    {limit : Nat} {rest : List Name} (present : plain.node? target = some (.link link))
    (reached : plain.followWithin pursuit limit (if link.absolute then [] else target.dropLast)
      (link.segments ++ rest) = .ok (.found location node)) :
    rest = [] ∧ plain.Leads target location node := by
  have last : rest = [] := by
    apply Decidable.byContradiction
    intro onward
    obtain ⟨inner, front⟩ := followWithin_front ⟨onward, Or.inr (by simp)⟩ _ _ _ reached
    exact ends.blind present _ _ front
  rw [last, List.append_nil] at reached
  exact ⟨last, .through present ((along_node fun entry => absurd entry followed).followWithin _ _ _
    reached)⟩

theorem Replaced.along (held : Replaced plain replaced target content)
    (ends : plain.DeadEnd target) (followed : pursuit ≠ .entry) :
    Along plain replaced pursuit pursuit (.found location node)
      (Onto plain target content location node) := by
  refine ⟨id, fun _ => .same location node, ?_⟩
  intro limit directory segment rest onward onwardToo _ _ _ goes jumps entered
  -- Only where the new file is can the path lead elsewhere.
  by_cases new : directory ++ [segment] = target
  · unfold enter at entered ⊢
    rw [new, held.stored]
    rw [new] at entered
    split at entered
    · split at entered <;> simp at entered
    · next present => exact absurd present ends.leaf
    · next bytes mode present =>
        split at entered
        · next last =>
            cases entered
            simpa [last] using .new (.here present)
        · simp at entered
    · next link present =>
        rw [if_neg (by simp [followed])] at entered
        have start : directory = target.dropLast := by simp [← new]
        rw [start] at entered
        obtain ⟨rfl, leads⟩ := ends.last followed present entered
        exact .new leads
  · exact enter_congr _ (held.others new).symm (.same _ _) goes jumps entered

theorem Replaced.place_onto (held : Replaced plain replaced target content)
    (ends : plain.DeadEnd target) (followed : pursuit ≠ .entry) {path : Path}
    (reached : plain.place pursuit path = .ok (.found location node)) :
    Onto plain target content location node (replaced.place pursuit path) :=
  (held.along ends followed).place held.here reached

theorem Replaced.follow_directory (held : Replaced plain replaced target content)
    (ends : plain.DeadEnd target) {limit : Nat} {directory : Location} {segments : List Name}
    (reached : plain.followWithin .node limit directory segments =
      .ok (.found location .directory)) :
    replaced.followWithin .node limit directory segments = .ok (.found location .directory) := by
  have onto := (held.along ends (by simp)).followWithin _ _ _ reached
  generalize replaced.followWithin .node limit directory segments = after at onto
  cases onto with
  | same => rfl
  | new leads => exact absurd rfl (ends.not_directory leads)

theorem Replaced.place_directory (held : Replaced plain replaced target content)
    (ends : plain.DeadEnd target) {path : Path}
    (reached : plain.place .node path = .ok (.found location .directory)) :
    replaced.place .node path = .ok (.found location .directory) := by
  rw [place_eq_followWithin reached, startOf, held.here]
  exact held.follow_directory ends (place_eq_ok reached)

theorem Replaced.place_file (held : Replaced plain replaced target content)
    (ends : plain.DeadEnd target) (followed : pursuit ≠ .entry) {path : Path} {old : ByteArray}
    {executable : Bool}
    (reached : plain.place pursuit path = .ok (.found location (.file old executable))) :
    ∃ file bytes mode, replaced.place pursuit path = .ok (.found file (.file bytes mode)) := by
  have onto := held.place_onto ends followed reached
  generalize replaced.place pursuit path = after at onto
  cases onto with
  | same => exact ⟨_, _, _, rfl⟩
  | new => exact ⟨_, _, _, rfl⟩

end

end TagTemplate.FileTree
