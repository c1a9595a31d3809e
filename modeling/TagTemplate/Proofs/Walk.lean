import Mathlib.Data.List.ProdSigma
import TagTemplate.Proofs.Candidates
import TagTemplate.Proofs.FileTree.Proper

/-! What a walk comes upon: the files that no hidden name and no link back is on the way to. -/

namespace TagTemplate.Discovery

open FileTree

def IsShown (name : Name) : Prop := Path.IsName name ∧ isHidden name = false

theorem isShown_iff {name : Name} : IsShown name ↔ name ≠ [] ∧ isHidden name = false := by
  refine ⟨fun ⟨named, shown⟩ => ⟨named.1, shown⟩,
    fun ⟨nonempty, shown⟩ => ⟨⟨nonempty, ?_, ?_⟩, shown⟩⟩
  · rintro rfl
    simp [isHidden] at shown
  · rintro rfl
    simp [isHidden] at shown

/-- A way down from a root through directories, the last of them first. No link on it leads back to
a directory that the way is in. -/
inductive Way (files : FileTree) (root : Path) : List Location → List Name → Prop
  | start {location} (here : files.find? (root.join ⟨false, []⟩) = some (location, .directory)) :
      Way files root [location] []
  | down {location above names name inner} (way : Way files root (location :: above) names)
      (found : files.find? (root.join ⟨false, names ++ [name]⟩) = some (inner, .directory))
      (onward : isLink files (location ++ [name]) = true → inner ∉ location :: above) :
      Way files root (inner :: location :: above) (names ++ [name])

section
variable {files before after : FileTree} {root : Path} {start location : Location}
  {names : List Name} {node : FileNode}

theorem join_isPrefix (root : Path) (names more : List Name) :
    (root.join ⟨false, names⟩).text <+: (root.join ⟨false, names ++ more⟩).text := by
  obtain ⟨segments, absolute⟩ := join_append root names more
  rw [Path.text, Path.text, segments, absolute, List.prefix_append_right_inj]
  exact Path.intercalate_isPrefix _ _ _

theorem join_nonempty (root : Path) (named : ∃ name ∈ names, Path.IsName name) :
    (root.join ⟨false, names⟩).isEmpty = false := by
  obtain ⟨name, member, isName⟩ := named
  rw [← Bool.not_eq_true]
  intro empty
  obtain ⟨_, idle⟩ := Path.idle_of_isEmpty empty
  obtain ⟨segments, _⟩ := join_append root [] names
  rw [List.nil_append] at segments
  rcases idle name (by simp [segments, member]) with blank | point
  · exact isName.1 blank
  · exact isName.2.1 point

theorem followWithin_join (here : files.find? (root.join ⟨false, []⟩) = some (start, .directory))
    (names : List Name) :
    ∃ remaining, files.followWithin .node linkLimit (files.startOf (root.join ⟨false, names⟩))
        (root.join ⟨false, names⟩).segments =
      files.followWithin .node (remaining + 1) start names := by
  obtain ⟨segments, absolute⟩ := join_append root [] names
  rw [List.nil_append] at segments absolute
  rw [startOf, segments, absolute]
  exact followWithin_append .node (Or.inl rfl) _ _ _ (place_eq_ok (find?_eq_some.mp here))

theorem find?_of_node (nested : files.Nested)
    (here : files.find? (root.join ⟨false, []⟩) = some (start, .directory))
    {other : FileTree} {found : Location × FileNode} {whole : List Name}
    (reached : other.find? (root.join ⟨false, whole⟩) = some found) (front : names <+: whole)
    (named : ∀ name ∈ names, Path.IsName name)
    (short : ∀ name ∈ names, ¬ nameLimit < Text.byteLength name)
    (unlinked : ∀ target, node ≠ .link target)
    (present : files.node? (start ++ names) = some node) (below : names ≠ []) :
    files.find? (root.join ⟨false, names⟩) = some (start ++ names, node) := by
  obtain ⟨more, rfl⟩ := front
  have nonempty : (root.join ⟨false, names⟩).isEmpty = false := by
    obtain ⟨name, rest, rfl⟩ := List.exists_cons_of_ne_nil below
    exact join_nonempty root ⟨name, by simp, named name (by simp)⟩
  obtain ⟨inner, last⟩ := found
  rw [find?_eq_some] at reached ⊢
  obtain ⟨remaining, onward⟩ := followWithin_join here names
  rw [place_eq_of_isPrefix reached (join_isPrefix root _ _) nonempty, onward]
  exact nested.follow _ named short unlinked present (Or.inr below)

theorem find?_below (tidy : files.Tidy)
    (here : files.find? (root.join ⟨false, []⟩) = some (start, .directory))
    {other : FileTree} {found : Location × FileNode} {whole : List Name}
    (reached : other.find? (root.join ⟨false, whole⟩) = some found) (front : names <+: whole)
    (named : ∀ name ∈ names, Path.IsName name)
    (short : ∀ name ∈ names, ¬ nameLimit < Text.byteLength name)
    (present : files.node? (start ++ names) = some node) (below : names ≠ []) :
    files.find? (root.join ⟨false, names⟩) = some (start ++ names, node) := by
  refine find?_of_node tidy.nested here reached front named short ?_ present below
  rintro target rfl
  exact tidy.unlinked _ _ present

theorem find?_location (unlinked : ∀ location target, files.node? location ≠ some (.link target))
    (here : files.find? (root.join ⟨false, []⟩) = some (start, .directory))
    (named : ∀ name ∈ names, Path.IsName name)
    (reached : files.find? (root.join ⟨false, names⟩) = some (location, node)) :
    location = start ++ names ∧ ∀ name ∈ names, ¬ nameLimit < Text.byteLength name := by
  have leads := place_eq_ok (find?_eq_some.mp reached)
  obtain ⟨remaining, onward⟩ := followWithin_join here names
  exact follow_below unlinked named (onward.symm.trans leads)

theorem start_of_walk {depth : Nat} {above : List Location} {entry : Entry}
    (member : entry ∈ walk files root depth above names) :
    ∃ found, files.find? (root.join ⟨false, names⟩) = some found := by
  cases depth with
  | zero => simp [walk] at member
  | succ depth =>
      rw [walk_succ] at member
      split at member
      · simp at member
      · next found => exact ⟨_, found⟩

theorem find?_root (directory : before.isDirectory root = true)
    (goes : ∃ found, after.find? (root.join ⟨false, []⟩) = some found) :
    ∃ start, before.find? (root.join ⟨false, []⟩) = some (start, .directory) := by
  obtain ⟨location, reached⟩ := isDirectory_iff.mp directory
  obtain ⟨⟨_, _⟩, goes⟩ := goes
  have leads := place_eq_ok reached
  simp only [find?_eq_some]
  rw [place_eq_followWithin (find?_eq_some.mp goes), startOf]
  by_cases slashed : root.segments.getLast? = some []
  · obtain ⟨front, shape⟩ := List.getLast?_eq_some_iff.mp slashed
    have segments : (root.join ⟨false, []⟩).segments = front := by
      simp [Path.join, shape]
    rw [shape] at leads
    rw [segments]
    exact followWithin_front ⟨by simp, Or.inr (by simp)⟩ _ _ _ leads
  · have segments : (root.join ⟨false, []⟩).segments = root.segments := by
      simp [Path.join, slashed]
    rw [segments]
    exact ⟨location, leads⟩

theorem Way.found {above : List Location} (way : Way files root (location :: above) names) :
    files.find? (root.join ⟨false, names⟩) = some (location, .directory) := by
  cases way with
  | start here => exact here
  | down _ found _ => exact found

theorem node?_of_find? {name : Name} {inner : Location}
    (here : files.find? (root.join ⟨false, names⟩) = some (location, .directory))
    (named : Path.IsName name)
    (below : files.find? (root.join ⟨false, names ++ [name]⟩) = some (inner, node)) :
    ∃ other, files.node? (location ++ [name]) = some other ∧
      (isLink files (location ++ [name]) = false → inner = location ++ [name]) := by
  rw [find?_eq_some] at here below
  obtain ⟨segments, absolute⟩ := join_append root names [name]
  have leads := place_eq_ok below
  obtain ⟨remaining, onward⟩ := followWithin_append .node (Or.inl rfl) _ _ _ (place_eq_ok here)
  rw [startOf, segments, absolute, ← startOf, onward, followWithin, follow_cons,
    if_neg (by simp [named.1, named.2.1]), if_neg named.2.2, if_neg (by simp)] at leads
  split at leads
  · simp at leads
  unfold enter at leads
  split at leads
  · simp at leads
  · next present =>
      cases leads
      exact ⟨_, present, fun _ => rfl⟩
  · next present =>
      cases leads
      exact ⟨_, present, fun _ => rfl⟩
  · next target present => exact ⟨_, present, by simp [isLink, present]⟩

theorem mem_branch_iff {depth : Nat} {above : List Location} {name : Name} {entry : Entry}
    (file : entry.isFile = true) :
    entry ∈ branch files root depth location above names name ↔
      isHidden name = false ∧
        (entry = ⟨names ++ [name], true⟩ ∧
            files.isFile (root.join ⟨false, names ++ [name]⟩) = true ∨
          ∃ inner, files.find? (root.join ⟨false, names ++ [name]⟩) = some (inner, .directory) ∧
            (isLink files (location ++ [name]) = true → inner ∉ location :: above) ∧
            entry ∈ walk files root depth (location :: above) (names ++ [name])) := by
  have unfiled : entry ≠ ⟨names ++ [name], false⟩ := by
    rintro rfl
    simp at file
  unfold branch
  by_cases hidden : isHidden name = true
  · simp [hidden]
  have shown : isHidden name = false := by simpa using hidden
  rw [if_neg hidden]
  split
  · next found => simp [shown, isFile, found]
  · next inner found =>
      simp only [isFile, found, Bool.false_eq_true, and_false, false_or, shown, true_and,
        Option.some.injEq, Prod.mk.injEq, and_true, exists_eq_left']
      split
      · next looped =>
          rw [Bool.and_eq_true, List.contains_iff_mem] at looped
          simp only [List.mem_singleton, unfiled, false_iff]
          exact fun both => both.1 looped.1 looped.2
      · next unlooped =>
          rw [Bool.and_eq_true, List.contains_iff_mem, not_and] at unlooped
          simp only [List.mem_cons, unfiled, false_or]
          exact ⟨fun deep => ⟨by simpa using unlooped, deep⟩, And.right⟩
  · next noFile noDirectory =>
      rw [List.mem_singleton]
      refine ⟨fun member => absurd member unfiled, ?_⟩
      rintro ⟨-, ⟨-, there⟩ | ⟨inner, found, -⟩⟩
      · obtain ⟨_, _, _, found⟩ := isFile_iff.mp there
        exact absurd found (noFile _ _ _)
      · exact absurd found (noDirectory inner)

theorem find?_join_nil {files : FileTree} {text : List Char} {start : Location}
    (reached : files.find? (Path.ofText text) = some (start, .directory)) :
    files.find? ((Path.ofText text).join ⟨false, []⟩) = some (start, .directory) := by
  by_cases slashed : (Path.ofText text).segments.getLast? = some []
  · obtain ⟨front, shape⟩ := List.getLast?_eq_some_iff.mp slashed
    have trimmed : (Path.ofText text).join ⟨false, []⟩ = ⟨(Path.ofText text).absolute, front⟩ := by
      simp [Path.join, shape]
    have some : text ≠ [] := by
      rintro rfl
      simp [find?, place, Path.ofText, Text.pieces, Path.text, Path.isEmpty] at reached
    rw [find?_eq_some] at reached ⊢
    have leads := place_eq_ok reached
    rw [shape] at leads
    obtain ⟨inner, above⟩ := followWithin_front ⟨by simp, Or.inr (by simp)⟩ _ _ _ leads
    obtain ⟨remaining, onward⟩ := followWithin_append .node (Or.inl rfl) _ _ _ above
    have same : start = inner := by
      rw [leads, followWithin, follow, if_pos (Or.inl rfl), follow] at onward
      cases onward
      rfl
    have front : (⟨(Path.ofText text).absolute, front⟩ : Path).text <+: (Path.ofText text).text := by
      rw [Path.text, Path.text, shape, List.prefix_append_right_inj]
      exact Path.intercalate_isPrefix _ _ _
    rw [trimmed, place_eq_of_isPrefix reached front (Path.isEmpty_front some shape), same]
    exact above
  · have same : (Path.ofText text).join ⟨false, []⟩ = Path.ofText text := by
      simp [Path.join, slashed]
    rwa [same]

theorem way_of_walk {Spelled : Name → Prop}
    (spelled : ∀ above name node, files.node? (above ++ [name]) = some node → Spelled name)
    {depth : Nat} {above : List Location} {entry : Entry}
    (member : entry ∈ walk files root depth above names) (file : entry.isFile = true) :
    ∃ front last, entry.names = names ++ front ++ [last] ∧
      (∀ name ∈ front ++ [last], Spelled name ∧ isHidden name = false) ∧
      files.isFile (root.join ⟨false, entry.names⟩) = true ∧
      ((∀ location, files.find? (root.join ⟨false, names⟩) = some (location, .directory) →
          Way files root (location :: above) names) →
        ∃ locations, Way files root locations (names ++ front)) := by
  induction depth generalizing above names with
  | zero => simp [walk] at member
  | succ depth ih =>
      rw [walk_succ] at member
      split at member
      · simp at member
      next location node here =>
      obtain ⟨name, listed, below⟩ := List.mem_flatMap.mp member
      obtain ⟨other, present⟩ := mem_namesIn.mp listed
      obtain ⟨visible, ⟨rfl, there⟩ | ⟨inner, found, onward, deep⟩⟩ := (mem_branch_iff file).mp below
      · obtain ⟨_, _, _, found⟩ := isFile_iff.mp there
        cases find?_above here found
        refine ⟨[], name, by simp, ?_, there, fun way => ⟨_, by simpa using way _ here⟩⟩
        simpa using ⟨spelled _ _ _ present, visible⟩
      · cases find?_above here found
        obtain ⟨front, last, shape, others, there, goes⟩ := ih deep
        refine ⟨name :: front, last, by simp [shape], ?_, there, ?_⟩
        · intro next member
          rcases List.mem_cons.mp member with rfl | later
          · exact ⟨spelled _ _ _ present, visible⟩
          · exact others next later
        · intro way
          have further := goes fun location same => by
            cases same.symm.trans found
            exact .down (way _ here) found onward
          simpa using further

theorem file_of_walk (named : files.Named) {depth : Nat} {above : List Location} {entry : Entry}
    (member : entry ∈ walk files root depth above names) (file : entry.isFile = true) :
    ∃ rest, rest ≠ [] ∧ entry.names = names ++ rest ∧ (∀ name ∈ rest, IsShown name) ∧
      files.isFile (root.join ⟨false, entry.names⟩) = true := by
  obtain ⟨front, last, shape, shown, there, _⟩ := way_of_walk named member file
  exact ⟨front ++ [last], by simp, by simp [shape],
    fun name member => isShown_iff.mpr (shown name member), there⟩

theorem Way.mem_walk {above : List Location} (way : Way files root (location :: above) names)
    (shown : ∀ name ∈ names, IsShown name) {depth : Nat} {entry : Entry}
    (file : entry.isFile = true) (member : entry ∈ walk files root depth above names) :
    entry ∈ walk files root (names.length + depth) [] [] := by
  generalize held : location :: above = locations at way
  induction way generalizing location above depth with
  | start here =>
      cases held
      simpa using member
  | @down before others front name inner way found onward ih =>
      cases held
      have visible := shown name (by simp)
      have deeper : entry ∈ walk files root (depth + 1) others front := by
        rw [walk_succ, way.found]
        refine List.mem_flatMap.mpr ⟨name, ?_, ?_⟩
        · obtain ⟨other, present, _⟩ := node?_of_find? way.found visible.1 found
          exact mem_namesIn.mpr ⟨other, present⟩
        · exact (mem_branch_iff file).mpr
            ⟨visible.2, Or.inr ⟨inner, found, onward, member⟩⟩
      have whole := ih (fun other member => shown other (by simp [member])) deeper rfl
      rw [List.length_append, List.length_singleton, Nat.add_assoc, Nat.add_comm 1]
      exact whole

theorem walk_of_way {locations : List Location} {name : Name}
    (way : Way files root locations names) (shown : ∀ other ∈ names ++ [name], IsShown other)
    (file : files.isFile (root.join ⟨false, names ++ [name]⟩) = true) {depth : Nat}
    (deep : names.length < depth) :
    (⟨names ++ [name], true⟩ : Entry) ∈ walk files root depth [] [] := by
  obtain ⟨location, above, rfl⟩ : ∃ location above, locations = location :: above := by
    cases way <;> exact ⟨_, _, rfl⟩
  obtain ⟨rest, rfl⟩ : ∃ rest, depth = names.length + (rest + 1) := ⟨depth - names.length - 1, by omega⟩
  have visible := shown name (by simp)
  obtain ⟨_, _, _, found⟩ := isFile_iff.mp file
  refine way.mem_walk (fun other member => shown other (by simp [member])) rfl ?_
  rw [walk_succ, way.found]
  obtain ⟨other, present, _⟩ := node?_of_find? way.found visible.1 found
  refine List.mem_flatMap.mpr ⟨name, mem_namesIn.mpr ⟨other, present⟩, ?_⟩
  exact (mem_branch_iff rfl).mpr ⟨visible.2, Or.inl ⟨rfl, file⟩⟩

theorem way_of_node (nested : files.Nested)
    (here : files.find? (root.join ⟨false, []⟩) = some (start, .directory))
    {found : Location × FileNode} {front rest : List Name}
    (reached : files.find? (root.join ⟨false, front ++ rest⟩) = some found)
    (named : ∀ name ∈ front ++ rest, Path.IsName name)
    (short : ∀ name ∈ front ++ rest, ¬ nameLimit < Text.byteLength name) (ahead : rest ≠ [])
    (present : files.node? (start ++ (front ++ rest)) = some node) :
    ∃ above, Way files root ((start ++ front) :: above) front := by
  induction front using List.reverseRecOn generalizing rest with
  | nil => exact ⟨[], by simpa using .start here⟩
  | append_singleton front name ih =>
      have again : front ++ [name] ++ rest = front ++ (name :: rest) := by simp
      have directory : files.node? (start ++ (front ++ [name])) = some .directory := by
        rw [← List.append_assoc start] at present
        exact nested.above ahead present
      have found := find?_of_node nested here reached (List.prefix_append _ _)
        (fun other member => named other (List.mem_append_left _ member))
        (fun other member => short other (List.mem_append_left _ member)) (by simp) directory
        (by simp)
      rw [again] at reached named short present
      obtain ⟨above, way⟩ := ih reached named short (by simp) present
      refine ⟨_, way.down found fun link => ?_⟩
      rw [List.append_assoc, isLink, directory] at link
      simp at link

theorem mem_walk_iff (tidy : files.Tidy)
    (here : files.find? (root.join ⟨false, []⟩) = some (start, .directory)) :
    (⟨names, true⟩ : Entry) ∈ walk files root (depthLimit files) [] [] ↔
      names ≠ [] ∧ (∀ name ∈ names, IsShown name) ∧
        files.isFile (root.join ⟨false, names⟩) = true := by
  constructor
  · intro member
    obtain ⟨rest, some, shape, shown, file⟩ := file_of_walk tidy.named member rfl
    obtain rfl : names = rest := by simpa using shape
    exact ⟨some, shown, file⟩
  · rintro ⟨below, shown, file⟩
    obtain ⟨location, content, executable, found⟩ := isFile_iff.mp file
    have present := (place_ends (find?_eq_some.mp found)).resolve_left (by simp)
    have named : ∀ name ∈ names, Path.IsName name := fun name member => (shown name member).1
    obtain ⟨rfl, short⟩ := find?_location tidy.unlinked here named found
    have depth := tidy.nested.length_le present
    obtain ⟨front, last, rfl⟩ : ∃ front last, names = front ++ [last] :=
      ⟨_, _, (List.dropLast_concat_getLast below).symm⟩
    obtain ⟨above, way⟩ := way_of_node tidy.nested here found named short (by simp) present
    have enough : front.length < depthLimit files := by
      simp only [List.length_append, List.length_singleton] at depth
      exact Nat.lt_of_lt_of_le (by omega) (Nat.le_mul_of_pos_left _ (by omega))
    exact walk_of_way way shown file enough

end

section
variable {files : FileTree} {root : Path} {names : List Name}

theorem Way.node? (proper : files.Proper) {locations : List Location}
    (way : Way files root locations names) :
    ∀ location ∈ locations, files.node? location = some .directory := by
  induction way with
  | start here =>
      intro location member
      rw [List.mem_singleton.mp member]
      exact proper.place_node (find?_eq_some.mp here)
  | down way found _ ih =>
      intro location member
      rcases List.mem_cons.mp member with rfl | earlier
      · exact proper.place_node (find?_eq_some.mp found)
      · exact ih location earlier

theorem Way.stations {locations : List Location} (way : Way files root locations names)
    (named : ∀ name ∈ names, Path.IsName name) {location : Location} {above : List Location}
    (shape : locations = location :: above) :
    ∃ origin ∈ locations, ∃ stations : List (Location × Location),
      stations.length = names.length + 1 ∧ stations.Nodup ∧
        ∀ station ∈ stations, station.1 ∈ locations ∧ station.2 ∈ locations ∧
          (station.1 = origin → station.2.length ≤ location.length) := by
  induction way generalizing location above with
  | @start first here =>
      cases shape
      exact ⟨first, by simp, [(first, first)], by simp⟩
  | @down before others front name inner way found onward ih =>
      obtain ⟨rfl, rfl⟩ := List.cons.inj shape
      obtain ⟨origin, passed, stations, length, once, known⟩ :=
        ih (fun other member => named other (by simp [member])) rfl
      by_cases link : isLink files (before ++ [name]) = true
      · -- A link leads to a directory that no station has seen.
        have fresh := onward link
        refine ⟨inner, by simp, (inner, inner) :: stations, by simp [length], ?_, ?_⟩
        · rw [List.nodup_cons]
          exact ⟨fun again => fresh (known _ again).1, once⟩
        · intro station member
          rcases List.mem_cons.mp member with rfl | earlier
          · simp
          · obtain ⟨first, second, _⟩ := known station earlier
            refine ⟨List.mem_cons_of_mem _ first, List.mem_cons_of_mem _ second, ?_⟩
            intro same
            exact absurd (same ▸ first) fresh
      · -- Without one the way is farther below the same directory.
        rw [Bool.not_eq_true] at link
        obtain ⟨_, _, direct⟩ := node?_of_find? way.found (named name (by simp)) found
        obtain rfl := direct link
        refine ⟨origin, List.mem_cons_of_mem _ passed, (origin, before ++ [name]) :: stations,
          by simp [length], ?_, ?_⟩
        · rw [List.nodup_cons]
          refine ⟨fun again => ?_, once⟩
          have short := (known _ again).2.2 rfl
          rw [List.length_append, List.length_singleton] at short
          omega
        · intro station member
          rcases List.mem_cons.mp member with rfl | earlier
          · simp [passed]
          · obtain ⟨first, second, order⟩ := known station earlier
            refine ⟨List.mem_cons_of_mem _ first, List.mem_cons_of_mem _ second, fun same => ?_⟩
            have short := order same
            simp
            omega

theorem Way.length_lt (proper : files.Proper) {locations : List Location}
    (way : Way files root locations names) (named : ∀ name ∈ names, Path.IsName name) :
    names.length < depthLimit files := by
  obtain ⟨location, above, shape⟩ : ∃ location above, locations = location :: above := by
    cases way <;> exact ⟨_, _, rfl⟩
  obtain ⟨_, _, stations, length, once, known⟩ := way.stations named shape
  let sites := [] :: files.entries.map (·.1)
  have site : ∀ location ∈ locations, location ∈ sites := by
    intro location member
    by_cases top : location = []
    · simp [sites, top]
    · exact List.mem_cons_of_mem _ ((mem_entries_iff top).mpr ⟨_, way.node? proper location member⟩)
  have within : stations ⊆ sites ×ˢ sites := by
    intro station member
    obtain ⟨first, second, _⟩ := known station member
    exact List.mem_product.mpr ⟨site _ first, site _ second⟩
  have few := (once.subperm within).length_le
  have count : sites.length = files.entries.length + 1 := by simp [sites]
  rw [List.length_product, length, count] at few
  have order : (files.entries.length + 1) * (files.entries.length + 1) ≤ depthLimit files :=
    Nat.mul_le_mul (by omega) (by omega)
  omega

theorem mem_walk_iff_way (proper : files.Proper) :
    (⟨names, true⟩ : Entry) ∈ walk files root (depthLimit files) [] [] ↔
      names ≠ [] ∧ (∀ name ∈ names, IsShown name) ∧
        (∃ locations, Way files root locations names.dropLast) ∧
        files.isFile (root.join ⟨false, names⟩) = true := by
  constructor
  · intro member
    obtain ⟨front, last, shape, shown, file, goes⟩ := way_of_walk proper.named member rfl
    obtain rfl : names = front ++ [last] := by simpa using shape
    obtain ⟨locations, way⟩ := goes fun location here => .start here
    exact ⟨by simp, fun name member => isShown_iff.mpr (shown name member),
      ⟨locations, by simpa using way⟩, file⟩
  · rintro ⟨below, shown, ⟨locations, way⟩, file⟩
    obtain ⟨front, last, rfl⟩ : ∃ front last, names = front ++ [last] :=
      ⟨_, _, (List.dropLast_concat_getLast below).symm⟩
    rw [List.dropLast_concat] at way
    have enough := way.length_lt proper fun name member => (shown name (by simp [member])).1
    exact walk_of_way way shown file enough

end

end TagTemplate.Discovery
