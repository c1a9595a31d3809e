import TagTemplate.Proofs.Discovery
import TagTemplate.Proofs.Discovery.Naming
import TagTemplate.Proofs.FileTree.Listing
import TagTemplate.Proofs.FileTree.Lookup
import TagTemplate.Proofs.Text

/-! The templates that a discovery comes upon, before and after a change to the files. -/

namespace TagTemplate

open FileTree

theorem FileTree.read_eq_ok_iff {files : FileTree} {path : Path} {content : ByteArray} :
    files.read path = .ok content ↔
      ∃ location executable, files.find? path = some (location, .file content executable) := by
  simp only [find?_eq_some]
  unfold FileTree.read
  constructor
  · intro ok
    split at ok
    · next location _ executable reached =>
        cases ok
        exact ⟨location, executable, reached⟩
    · simp at ok
    · simp at ok
    · simp at ok
  · rintro ⟨location, executable, reached⟩
    simp only [reached]

theorem FileTree.readText_eq_ok_iff {files : FileTree} {path : Path} {text : String} :
    files.readText path = .ok text ↔ files.read path = .ok text.toUTF8 := by
  unfold readText
  constructor
  · intro ok
    split at ok
    · simp at ok
    next content read =>
    split at ok
    · next decoded =>
        cases ok
        rw [read, Text.fromUTF8?_eq_some_iff.mp decoded]
    · simp at ok
  · intro read
    simp only [read, Text.fromUTF8?_eq_some_iff.mpr rfl]

/-- What a discovery comes upon is still there: the directories, the files, or others in their
places, and no links but those that were there. -/
structure FileTree.Retains (before after : FileTree) : Prop where
  directory : ∀ {path location}, before.place .node path = .ok (.found location .directory) →
    after.place .node path = .ok (.found location .directory)
  file : ∀ {path location content executable},
    before.place .node path = .ok (.found location (.file content executable)) →
    ∃ other bytes mode, after.place .node path = .ok (.found other (.file bytes mode))
  names : ∀ {location node}, before.node? location = some node →
    ∃ other, after.node? location = some other
  links : ∀ {location target}, after.node? location = some (.link target) →
    before.node? location = some (.link target)

namespace Discovery

def candidates (files : FileTree) (root : Path) (suffix : String) (names : List String) :
    List Candidate :=
  if names.isEmpty then (sortedEntries files root).filterMap (candidate? root suffix)
  else names.map fun name => ⟨name, listedPath root suffix name⟩

section
variable {files before after : FileTree} {root : Path} {suffix : String} {entry : Entry}

theorem join_append (root : Path) (names more : List Name) :
    (root.join ⟨false, names ++ more⟩).segments = (root.join ⟨false, names⟩).segments ++ more ∧
    (root.join ⟨false, names ++ more⟩).absolute = (root.join ⟨false, names⟩).absolute := by
  simp [Path.join]

theorem find?_above {names : List Name} {name : Name} {location : Location} {node : FileNode}
    {found : Location × FileNode}
    (here : files.find? (root.join ⟨false, names⟩) = some (location, node))
    (below : files.find? (root.join ⟨false, names ++ [name]⟩) = some found) :
    node = .directory := by
  obtain ⟨inner, last⟩ := found
  rw [find?_eq_some] at here below
  obtain ⟨segments, absolute⟩ := join_append root names [name]
  have leads := place_eq_ok below
  rw [startOf, segments, absolute] at leads
  obtain ⟨above, front⟩ := followWithin_front ⟨by simp, Or.inr (by simp)⟩ _ _ _ leads
  have reached := place_eq_ok here
  rw [startOf, front] at reached
  cases reached
  rfl

def branch (files : FileTree) (root : Path) (depth : Nat) (location : Location)
    (above : List Location) (names : List Name) (name : Name) : List Entry :=
  if isHidden name then []
  else
    match files.find? (root.join ⟨false, names ++ [name]⟩) with
    | some (_, .file _ _) => [⟨names ++ [name], true⟩]
    | some (inner, .directory) =>
        if isLink files (location ++ [name]) && (location :: above).contains inner then
          [⟨names ++ [name], false⟩]
        else
          ⟨names ++ [name], false⟩ ::
            walk files root depth (location :: above) (names ++ [name])
    | _ => [⟨names ++ [name], false⟩]

theorem walk_succ (files : FileTree) (root : Path) (depth : Nat) (above : List Location)
    (names : List Name) :
    walk files root (depth + 1) above names =
      match files.find? (root.join ⟨false, names⟩) with
      | none => []
      | some (location, _) =>
          (files.namesIn location).flatMap (branch files root depth location above names) := rfl

theorem found_of_branch {depth : Nat} {location : Location} {above : List Location}
    {names : List Name} {name : Name}
    (member : entry ∈ branch files root depth location above names name)
    (file : entry.isFile = true) :
    ∃ found, files.find? (root.join ⟨false, names ++ [name]⟩) = some found := by
  unfold branch at member
  split at member
  · simp at member
  split at member
  · next found => exact ⟨_, found⟩
  · next found => exact ⟨_, found⟩
  · rw [List.mem_singleton] at member
    simp [member] at file

theorem branch_retained (retains : Retains before after) {depth deeper : Nat} {location : Location}
    {above : List Location} {names : List Name} {name : Name}
    (deep : ∀ {above names}, entry ∈ walk before root depth above names →
      entry ∈ walk after root deeper above names)
    (member : entry ∈ branch before root depth location above names name)
    (file : entry.isFile = true) : entry ∈ branch after root deeper location above names name := by
  unfold branch at member ⊢
  split at member
  · simp at member
  next shown =>
  rw [if_neg shown]
  split at member
  · next found content executable below =>
      obtain ⟨other, bytes, mode, belowToo⟩ := retains.file (find?_eq_some.mp below)
      simpa only [find?_eq_some.mpr belowToo] using member
  · next inner below =>
      simp only [find?_eq_some.mpr (retains.directory (find?_eq_some.mp below))]
      split at member
      · rw [List.mem_singleton] at member
        simp [member] at file
      · next unlooped =>
          have unloopedToo : ¬(isLink after (location ++ [name]) &&
              (location :: above).contains inner) = true := by
            intro looped
            rw [Bool.and_eq_true] at looped
            refine unlooped (Bool.and_eq_true _ _ ▸ ⟨?_, looped.2⟩)
            have link := looped.1
            unfold isLink at link ⊢
            split at link
            · next target there => simp [retains.links there]
            · simp at link
          rw [if_neg unloopedToo]
          rcases List.mem_cons.mp member with rfl | below
          · simp at file
          · exact List.mem_cons_of_mem _ (deep below)
  · rw [List.mem_singleton] at member
    simp [member] at file

theorem walk_retained (retains : Retains before after) {depth deeper : Nat}
    (order : depth ≤ deeper) {above : List Location} {names : List Name}
    (member : entry ∈ walk before root depth above names) (file : entry.isFile = true) :
    entry ∈ walk after root deeper above names := by
  -- The depths differ since a file system with more nodes has a greater limit.
  induction depth generalizing deeper above names with
  | zero => simp [walk] at member
  | succ depth ih =>
      obtain ⟨deeper, rfl⟩ : ∃ more, deeper = more + 1 := ⟨deeper - 1, by omega⟩
      rw [walk_succ] at member ⊢
      split at member
      · simp at member
      next location node here =>
      obtain ⟨name, listed, below⟩ := List.mem_flatMap.mp member
      obtain ⟨found, there⟩ := found_of_branch below file
      cases find?_above here there
      obtain ⟨present, known⟩ := mem_namesIn.mp listed
      simp only [find?_eq_some.mpr (retains.directory (find?_eq_some.mp here)), List.mem_flatMap]
      exact ⟨name, mem_namesIn.mpr (retains.names known),
        branch_retained retains (fun deep => ih (by omega) deep) below file⟩

theorem names_of_branch {depth : Nat} {location : Location} {above : List Location}
    {names : List Name} {name : Name}
    (deep : ∀ {entry above names}, entry ∈ walk files root depth above names →
      ∃ name rest, entry.names = names ++ name :: rest)
    (member : entry ∈ branch files root depth location above names name) :
    ∃ rest, entry.names = names ++ name :: rest := by
  have alone : ∀ isFile, entry ∈ [(⟨names ++ [name], isFile⟩ : Entry)] →
      ∃ rest, entry.names = names ++ name :: rest := by
    intro isFile single
    exact ⟨[], by rw [List.mem_singleton.mp single]⟩
  unfold branch at member
  split at member
  · simp at member
  split at member
  · exact alone _ member
  · split at member
    · exact alone _ member
    · rcases List.mem_cons.mp member with first | below
      · exact alone false (by simp [first])
      · obtain ⟨inner, rest, shape⟩ := deep below
        exact ⟨inner :: rest, by simp [shape]⟩
  · exact alone _ member

theorem names_of_walk {depth : Nat} {above : List Location} {names : List Name}
    (member : entry ∈ walk files root depth above names) :
    ∃ name rest, entry.names = names ++ name :: rest := by
  induction depth generalizing entry above names with
  | zero => simp [walk] at member
  | succ depth ih =>
      rw [walk_succ] at member
      split at member
      · simp at member
      · obtain ⟨name, _, below⟩ := List.mem_flatMap.mp member
        exact ⟨name, names_of_branch ih below⟩

theorem walk_nodup (distinct : files.Distinct) (root : Path) (depth : Nat) (above : List Location)
    (names : List Name) : ((walk files root depth above names).map (·.names)).Nodup := by
  induction depth generalizing above names with
  | zero => simp [walk]
  | succ depth ih =>
      rw [walk_succ]
      split
      · simp
      next location node here =>
      rw [List.map_flatMap, List.nodup_flatMap]
      constructor
      · intro name listed
        unfold branch
        split
        · simp
        split
        · simp
        · split
          · simp
          · rw [List.map_cons, List.nodup_cons]
            refine ⟨?_, ih _ _⟩
            intro again
            obtain ⟨entry, deep, same⟩ := List.mem_map.mp again
            obtain ⟨inner, rest, shape⟩ := names_of_walk deep
            simp [shape] at same
        · simp
      · refine (distinct.namesIn_nodup location).imp ?_
        intro first second different both here there
        obtain ⟨entry, member, rfl⟩ := List.mem_map.mp here
        obtain ⟨other, memberToo, same⟩ := List.mem_map.mp there
        obtain ⟨rest, shape⟩ := names_of_branch names_of_walk member
        obtain ⟨restToo, shapeToo⟩ := names_of_branch names_of_walk memberToo
        rw [shape, shapeToo, List.append_cancel_left_eq, List.cons.injEq] at same
        exact different same.1.symm

theorem candidate?_eq_some_iff {entry : Entry} {candidate : Candidate} :
    candidate? root suffix entry = some candidate ↔
      entry.isFile = true ∧ candidate.path = root.join ⟨false, entry.names⟩ ∧
        candidate.name ≠ "" ∧ (candidate.name ++ suffix).toList = joined entry.names := by
  obtain ⟨name, path⟩ := candidate
  unfold candidate?
  split
  · next file =>
      simp only [Option.map_eq_some_iff, stem?_eq_some_iff, Candidate.mk.injEq, file, true_and,
        String.toList_append]
      constructor
      · rintro ⟨stem, ⟨some, shape⟩, rfl, rfl⟩
        exact ⟨rfl, by simpa using some, by simp [shape]⟩
      · rintro ⟨rfl, some, shape⟩
        exact ⟨name.toList, ⟨by simpa using some, shape.symm⟩, by simp⟩
  · next other => simp [other]

theorem candidate?_eq_some {candidate : Candidate}
    (some : candidate? root suffix entry = .some candidate) :
    entry.isFile = true ∧ candidate.path = root.join ⟨false, entry.names⟩ ∧
      joined entry.names = candidate.name.toList ++ suffix.toList := by
  obtain ⟨file, path, _, shape⟩ := candidate?_eq_some_iff.mp some
  exact ⟨file, path, by rw [← shape, String.toList_append]⟩

def InOrder (suffix : String) (first second : Candidate) : Prop :=
  Text.isAtMost (first.name.toList ++ suffix.toList) (second.name.toList ++ suffix.toList) = true

theorem InOrder.antisymm {first second : Candidate} (early : InOrder suffix first second)
    (late : InOrder suffix second first) : first.name = second.name :=
  String.toList_inj.mp (List.append_cancel_right (Text.isAtMost_antisymm early late))

theorem sortedEntries_pairwise (files : FileTree) (root : Path) :
    (sortedEntries files root).Pairwise fun first second =>
      Text.isAtMost (joined first.names) (joined second.names) = true := by
  apply List.pairwise_mergeSort
  · exact fun _ _ _ early late => Text.isAtMost_trans early late
  · exact fun _ _ => Text.isAtMost_total _ _

theorem candidates_inOrder (files : FileTree) (root : Path) (suffix : String) :
    ((sortedEntries files root).filterMap (candidate? root suffix)).Pairwise (InOrder suffix) := by
  rw [List.pairwise_filterMap]
  refine (sortedEntries_pairwise files root).imp ?_
  intro first second order candidate some other someToo
  rw [(candidate?_eq_some some).2.2, (candidate?_eq_some someToo).2.2] at order
  exact order

theorem candidates_nodup (distinct : files.Distinct) (root : Path) (suffix : String) :
    ((sortedEntries files root).filterMap (candidate? root suffix)).Nodup := by
  have entries : (sortedEntries files root).Nodup := by
    rw [sortedEntries, (List.mergeSort_perm _ _).nodup_iff]
    exact (walk_nodup distinct root _ _ _).of_map
  refine entries.filterMap ?_
  rintro ⟨names, isFile⟩ ⟨namesToo, isFileToo⟩ candidate here there
  obtain ⟨file, path, _⟩ := candidate?_eq_some here
  obtain ⟨fileToo, pathToo, _⟩ := candidate?_eq_some there
  have same := congrArg Path.segments (path.symm.trans pathToo)
  simp only [Path.join, Bool.false_eq_true, ↓reduceIte, List.append_cancel_left_eq] at same
  simp_all

theorem mem_candidates (name : Name) (location : Location) {stem : Name}
    (here : (files.find? (root.join ⟨false, []⟩)).map (·.1) = some location)
    (listed : (files.node? (location ++ [name])).isSome) (shown : isHidden name = false)
    (file : files.isFile (root.join ⟨false, [name]⟩) = true)
    (ending : stem? suffix.toList name = some stem) :
    String.ofList stem ∈ (candidates files root suffix []).map (·.name) := by
  have member : (⟨[name], true⟩ : Entry) ∈ sortedEntries files root := by
    obtain ⟨depth, deep⟩ : ∃ depth, depthLimit files = depth + 1 :=
      Nat.exists_eq_succ_of_ne_zero (Nat.mul_ne_zero (by omega) (by omega))
    obtain ⟨⟨_, node⟩, found, rfl⟩ := Option.map_eq_some_iff.mp here
    rw [sortedEntries, List.mem_mergeSort, deep, walk_succ, found]
    refine List.mem_flatMap.mpr ⟨name, mem_namesIn.mpr (Option.isSome_iff_exists.mp listed), ?_⟩
    unfold isFile at file
    unfold branch
    rw [if_neg (by simp [shown])]
    split at file
    · next found => simp [found]
    · simp at file
  refine List.mem_map.mpr ⟨⟨String.ofList stem, root.join ⟨false, [name]⟩⟩, ?_, rfl⟩
  exact List.mem_filterMap.mpr ⟨_, member, by simp [candidate?, joined, ending]⟩

theorem isSuffix_of_candidates {names : List String} {candidate : Candidate}
    (member : candidate ∈ candidates files root suffix names) {front : List Name} {last : Name}
    (shape : candidate.path.segments = front ++ [last]) :
    last <:+ candidate.name.toList ++ suffix.toList := by
  unfold candidates at member
  split at member
  · obtain ⟨entry, found, some⟩ := List.mem_filterMap.mp member
    obtain ⟨_, path, text⟩ := candidate?_eq_some some
    rw [sortedEntries, List.mem_mergeSort] at found
    obtain ⟨name, rest, below⟩ := names_of_walk found
    rw [path] at shape
    have ending := Path.join_isSuffix (by simp [below]) shape
    rwa [Path.text, if_neg (by simp), List.nil_append, ← joined, text] at ending
  · obtain ⟨name, _, rfl⟩ := List.mem_map.mp member
    have ending := Path.join_isSuffix (Path.segments_ofString _) shape
    rwa [Path.ofString, Path.text_ofText, String.toList_append] at ending

theorem candidates_retained (retains : Retains before after) (distinct : before.Distinct)
    {candidate : Candidate}
    (member : candidate ∈ (sortedEntries before root).filterMap (candidate? root suffix)) :
    candidate ∈ (sortedEntries after root).filterMap (candidate? root suffix) := by
  rw [List.mem_filterMap] at member ⊢
  obtain ⟨entry, found, some⟩ := member
  refine ⟨entry, ?_, some⟩
  rw [sortedEntries, List.mem_mergeSort] at found ⊢
  have fewer := distinct.length_le retains.names
  have order : depthLimit before ≤ depthLimit after :=
    Nat.mul_le_mul (Nat.add_le_add_right fewer 2) (Nat.add_le_add_right fewer 2)
  exact walk_retained retains order found (candidate?_eq_some some).1

theorem readUnit_congr {obstacles : Obstacles} {count : Nat} {candidate : Candidate}
    (same : after.readText candidate.path = before.readText candidate.path) :
    readUnit obstacles after count candidate = readUnit obstacles before count candidate := by
  unfold readUnit
  rw [same]

theorem readAll_congr {obstacles : Obstacles} {found : List Candidate}
    (same : ∀ candidate ∈ found,
      after.readText candidate.path = before.readText candidate.path) (count : Nat) :
    readAll obstacles after count found = readAll obstacles before count found := by
  induction found generalizing count with
  | nil => rfl
  | cons candidate rest ih =>
      simp only [readAll, readUnit_congr (same candidate (by simp)),
        ih (fun other member => same other (List.mem_cons_of_mem _ member))]

theorem readUnit_name {obstacles : Obstacles} {count : Nat} {candidate : Candidate}
    {template : TemplateUnit} (ok : readUnit obstacles files count candidate = .ok template) :
    template.name = candidate.name := by
  unfold readUnit at ok
  simp only at ok
  split at ok
  · cases ok
    rfl
  · simp at ok

theorem readAll_names {obstacles : Obstacles} {count : Nat} {found : List Candidate}
    {units : List TemplateUnit} (ok : readAll obstacles files count found = .ok units) :
    units.map (·.name) = found.map (·.name) := by
  induction found generalizing count units with
  | nil =>
      cases ok
      rfl
  | cons candidate rest ih =>
      simp only [readAll] at ok
      split at ok
      · simp at ok
      next template read =>
      split at ok
      · simp at ok
      next templates others =>
      cases ok
      simp [readUnit_name read, ih others]

theorem isFile_of_readText {path : Path} {text : String} (ok : files.readText path = .ok text) :
    files.isFile path = true := by
  obtain ⟨location, executable, found⟩ := read_eq_ok_iff.mp (readText_eq_ok_iff.mp ok)
  exact isFile_iff.mpr ⟨location, _, executable, found⟩

theorem readUnit_text {count : Nat} {candidate : Candidate} {template : TemplateUnit}
    (ok : readUnit .none files count candidate = .ok template) :
    ∃ text, files.readText candidate.path = .ok text := by
  unfold readUnit at ok
  simp only [Obstacles.none] at ok
  split at ok
  · next text read => exact ⟨text, read⟩
  · simp at ok

theorem listed_again {names : List String} {found units : List TemplateUnit}
    (same : ∀ name ∈ names, after.readText (listedPath root suffix name) =
      before.readText (listedPath root suffix name))
    (ok : listed .none before root suffix names found = .ok units) :
    listed .none after root suffix names found = .ok units := by
  induction names generalizing found with
  | nil => exact ok
  | cons name names ih =>
      simp only [listed] at ok ⊢
      split at ok
      · simp at ok
      next going =>
      rw [if_neg going]
      split at ok
      · simp at ok
      next fresh =>
      rw [if_neg fresh]
      split at ok
      · split at ok
        · next template read =>
            have unchanged := same name (by simp)
            have readToo := (readUnit_congr unchanged).trans read
            obtain ⟨text, there⟩ := readUnit_text readToo
            rw [if_pos (isFile_of_readText there), readToo]
            exact ih (fun other member => same other (List.mem_cons_of_mem _ member)) ok
        · simp at ok
      · simp at ok

theorem listed_names {obstacles : Obstacles} {names : List String} {found units : List TemplateUnit}
    (ok : listed obstacles files root suffix names found = .ok units) :
    units.map (·.name) = found.map (·.name) ++ names := by
  induction names generalizing found with
  | nil =>
      cases ok
      simp
  | cons name names ih =>
      simp only [listed] at ok
      split at ok
      · simp at ok
      split at ok
      · simp at ok
      split at ok
      · split at ok
        · next template read =>
            rw [ih ok]
            simp [readUnit_name read]
        · simp at ok
      · simp at ok

theorem listed_texts {names : List String} {found units : List TemplateUnit}
    (ok : listed .none files root suffix names found = .ok units) {name : String}
    (member : name ∈ names) : ∃ text, files.readText (listedPath root suffix name) = .ok text := by
  induction names generalizing found with
  | nil => simp at member
  | cons first rest ih =>
      simp only [listed] at ok
      split at ok
      · simp at ok
      split at ok
      · simp at ok
      split at ok
      · split at ok
        · next template read =>
            rcases List.mem_cons.mp member with rfl | later
            · exact readUnit_text read
            · exact ih ok later
        · simp at ok
      · simp at ok

theorem discover_names {names : List String} {units : List TemplateUnit}
    (ok : discover .none files root suffix names = .ok units) :
    units.map (·.name) = (candidates files root suffix names).map (·.name) := by
  unfold discover at ok
  unfold candidates
  split at ok
  · next all =>
      rw [if_pos all]
      unfold scanned at ok
      split at ok
      · simp only at ok
        rw [if_neg (by simp [Obstacles.none])] at ok
        exact readAll_names ok
      · simp at ok
  · next list =>
      rw [if_neg list, listed_names ok]
      simp [Function.comp_def]

theorem discover_again (retains : Retains before after) (distinct : before.Distinct)
    (distinctToo : after.Distinct) {names : List String} {units : List TemplateUnit}
    (ok : discover .none before root suffix names = .ok units)
    (once : ((candidates before root suffix names).map (·.name)).Nodup)
    (same : ∀ candidate ∈ candidates after root suffix names,
      candidate ∈ candidates before root suffix names ∧
        after.readText candidate.path = before.readText candidate.path) :
    discover .none after root suffix names = .ok units := by
  unfold discover at ok ⊢
  unfold candidates at same once
  split at ok
  · next all =>
      simp only [if_pos all] at same once ⊢
      unfold scanned at ok ⊢
      split at ok
      · next directory =>
          simp only at ok
          rw [if_neg (by simp [Obstacles.none])] at ok
          have agree : (sortedEntries after root).filterMap (candidate? root suffix) =
              (sortedEntries before root).filterMap (candidate? root suffix) := by
            -- The same templates, and two of one name would have been refused: one order is left.
            have perm : ((sortedEntries after root).filterMap (candidate? root suffix)).Perm
                ((sortedEntries before root).filterMap (candidate? root suffix)) := by
              rw [List.perm_ext_iff_of_nodup (candidates_nodup distinctToo root suffix)
                (candidates_nodup distinct root suffix)]
              exact fun candidate => ⟨fun member => (same candidate member).1,
                candidates_retained retains distinct⟩
            refine perm.eq_of_pairwise ?_ (candidates_inOrder after root suffix)
              (candidates_inOrder before root suffix)
            intro first second member memberToo early late
            exact List.inj_on_of_nodup_map once (same first member).1 memberToo
              (early.antisymm late)
          have directoryToo : after.isDirectory root = true := by
            obtain ⟨location, reached⟩ := isDirectory_iff.mp directory
            exact isDirectory_iff.mpr ⟨location, retains.directory reached⟩
          rw [if_pos directoryToo]
          simp only
          rw [if_neg (by simp [Obstacles.none]), readAll_congr fun candidate member =>
            (same candidate member).2, agree]
          exact ok
      · simp at ok
  · next list =>
      simp only [if_neg list] at same ⊢
      refine listed_again (fun name member => ?_) ok
      exact (same _ (List.mem_map.mpr ⟨name, member, rfl⟩)).2

end

end Discovery

end TagTemplate
