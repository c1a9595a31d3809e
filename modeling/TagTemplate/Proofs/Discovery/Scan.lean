import Mathlib
import TagTemplate.Proofs.Discovery.Reading
import TagTemplate.Proofs.Text.ByteOrder
import TagTemplate.Proofs.Walk

/-! Which templates are found below a root: each one once, in the order of their paths. -/

namespace TagTemplate

open FileTree

theorem FileTree.readText_of_isFile {files : FileTree} {path : Path} (proper : files.Proper)
    (texts : ∀ location content executable, (location, .file content executable) ∈ files.entries →
      ∃ source : String, content = source.toUTF8)
    (file : files.isFile path = true) : ∃ source, files.readText path = .ok source := by
  obtain ⟨location, content, executable, leads⟩ := isFile_iff.mp file
  have present := proper.place_node (find?_eq_some.mp leads)
  have member : (location, .file content executable) ∈ files.entries := by
    unfold node? at present
    split at present
    · simp at present
    · obtain ⟨entry, listed, same⟩ := Option.map_eq_some_iff.mp present
      have here : entry.1 = location := by simpa using List.find?_some listed
      rw [← here, ← same]
      exact List.mem_of_find?_eq_some listed
  obtain ⟨source, rfl⟩ := texts _ _ _ member
  exact ⟨source, readText_eq_ok_iff.mpr (read_eq_ok_iff.mpr ⟨location, executable, leads⟩)⟩

namespace Discovery

section
variable {files : FileTree} {root : Path} {suffix : String} {names : List Name}

def InTree (files : FileTree) (root : Path) (names : List Name) : Prop :=
  ∃ start content executable, files.find? root = some (start, .directory) ∧
    files.node? (start ++ names) = some (.file content executable)

def OnWay (files : FileTree) (root : Path) (names : List Name) : Prop :=
  (∃ locations, Way files root locations names.dropLast) ∧
    files.isFile (root.join ⟨false, names⟩) = true

structure IsTemplate (files : FileTree) (root : Path) (suffix : String) (names : List Name) :
    Prop where
  shown : ∀ name ∈ names, IsShown name
  ending : suffix.toList <:+ joined names
  longer : suffix.toList.length < (joined names).length
  file : InTree files root names ∨ OnWay files root names

/-- A template is that of the file with some names: it has their path without the suffix for its
name, and the file's text for its source. -/
structure Presents (files : FileTree) (root : Path) (suffix : String) (names : List Name)
    (template : TemplateUnit) : Prop where
  name : (template.name ++ suffix).toList = joined names
  path : template.path = root.join ⟨false, names⟩
  source : files.read template.path = .ok template.source.toUTF8

theorem IsTemplate.some (template : IsTemplate files root suffix names) : names ≠ [] := by
  rintro rfl
  have longer := template.longer
  simp [joined] at longer

theorem OnWay.of_inTree (proper : files.Proper) {text : List Char}
    (inside : InTree files (.ofText text) names) (shown : ∀ name ∈ names, IsShown name)
    (some : names ≠ []) {source : String}
    (readable : files.readText ((Path.ofText text).join ⟨false, names⟩) = .ok source) :
    OnWay files (.ofText text) names := by
  have file := isFile_of_readText readable
  obtain ⟨start, content, executable, root, present⟩ := inside
  have here := find?_join_nil root
  obtain ⟨location, _, _, found⟩ := isFile_iff.mp file
  have named : ∀ name ∈ names, Path.IsName name := fun name member => (shown name member).1
  obtain ⟨remaining, onward⟩ := followWithin_join here names
  have short := proper.nested.short named present
    (onward.symm.trans (place_eq_ok (find?_eq_some.mp found)))
  obtain ⟨front, last, rfl⟩ : ∃ front last, names = front ++ [last] :=
    ⟨_, _, (List.dropLast_concat_getLast some).symm⟩
  obtain ⟨above, way⟩ := way_of_node proper.nested here found named short (by simp) present
  exact ⟨⟨_, by simpa using way⟩, file⟩

theorem mem_candidates_iff (proper : files.Proper) {candidate : Candidate} :
    candidate ∈ candidates files root suffix [] ↔
      ∃ names, names ≠ [] ∧ (∀ name ∈ names, IsShown name) ∧ OnWay files root names ∧
        candidate.path = root.join ⟨false, names⟩ ∧ candidate.name ≠ "" ∧
        (candidate.name ++ suffix).toList = joined names := by
  rw [candidates, if_pos List.isEmpty_nil, List.mem_filterMap]
  constructor
  · rintro ⟨⟨names, isFile⟩, member, chosen⟩
    rw [sortedEntries, List.mem_mergeSort] at member
    obtain ⟨rfl, path, some, name⟩ := candidate?_eq_some_iff.mp chosen
    obtain ⟨below, shown, way, file⟩ := (mem_walk_iff_way proper).mp member
    exact ⟨names, below, shown, ⟨way, file⟩, path, some, name⟩
  · rintro ⟨names, below, shown, ⟨way, file⟩, path, some, name⟩
    refine ⟨⟨names, true⟩, ?_, candidate?_eq_some_iff.mpr ⟨rfl, path, some, name⟩⟩
    rw [sortedEntries, List.mem_mergeSort]
    exact (mem_walk_iff_way proper).mpr ⟨below, shown, way, file⟩

theorem OnWay.spelled (proper : files.Proper) (way : OnWay files root names)
    (shown : ∀ name ∈ names, IsShown name) (some : names ≠ []) : ∀ name ∈ names, '/' ∉ name := by
  have member := (mem_walk_iff_way proper).mpr ⟨some, shown, way⟩
  obtain ⟨front, last, shape, spelled, _⟩ :=
    way_of_walk (fun _ _ _ present => (proper.name present).2) member rfl
  intro name inside
  rw [show names = front ++ [last] by simpa using shape] at inside
  exact (spelled name inside).1

theorem candidates_names_nodup (proper : files.Proper) (root : Path) (suffix : String) :
    ((candidates files root suffix []).map (·.name)).Nodup := by
  have once : (candidates files root suffix []).Nodup := by
    rw [candidates, if_pos List.isEmpty_nil]
    exact candidates_nodup proper.distinct root suffix
  refine once.map_on ?_
  rintro ⟨name, path⟩ member ⟨other, pathToo⟩ memberToo same
  obtain ⟨names, below, shown, way, rfl, _, shape⟩ := (mem_candidates_iff proper).mp member
  obtain ⟨others, belowToo, shownToo, wayToo, rfl, _, shapeToo⟩ :=
    (mem_candidates_iff proper).mp memberToo
  obtain rfl : name = other := same
  have spelled := way.spelled proper shown below
  have spelledToo := wayToo.spelled proper shownToo belowToo
  rw [joined_inj below belowToo spelled spelledToo (shape.symm.trans shapeToo)]

section
variable {units : List TemplateUnit} (proper : files.Proper)
  (ok : discover .none files root suffix [] = .ok units)
include proper ok

theorem scan_nodup : (units.map (·.name)).Nodup := by
  have names := candidates_names_nodup proper root suffix
  rw [← (scan_eq_ok_iff.mp ok).2.1, List.map_map] at names
  exact names

theorem scan_presents {template : TemplateUnit} (member : template ∈ units) :
    ∃ names, names ≠ [] ∧ (∀ name ∈ names, IsShown name) ∧ OnWay files root names ∧
      Presents files root suffix names template ∧ template.name ≠ "" := by
  obtain ⟨_, found, texts⟩ := scan_eq_ok_iff.mp ok
  have candidate : template.candidate ∈ candidates files root suffix [] :=
    found ▸ List.mem_map_of_mem member
  obtain ⟨names, below, shown, way, path, some, shape⟩ := (mem_candidates_iff proper).mp candidate
  exact ⟨names, below, shown, way, ⟨shape, path, readText_eq_ok_iff.mp (texts template member)⟩, some⟩

theorem scan_ascending : units.Pairwise fun first second =>
    (first.name ++ suffix).toUTF8.data.toList < (second.name ++ suffix).toUTF8.data.toList := by
  have once := scan_nodup proper ok
  have inOrder := candidates_inOrder files root suffix
  obtain ⟨_, found, _⟩ := scan_eq_ok_iff.mp ok
  rw [candidates, if_pos List.isEmpty_nil] at found
  rw [← found, List.pairwise_map] at inOrder
  refine (inOrder.and (List.pairwise_map.mp once)).imp ?_
  rintro first second ⟨order, apart⟩
  have apartToo : first.name ++ suffix ≠ second.name ++ suffix := by
    intro same
    have letters := congrArg String.toList same
    simp only [String.toList_append, List.append_cancel_right_eq, String.toList_inj] at letters
    exact apart letters
  refine Text.toUTF8_lt ?_ apartToo
  rw [String.toList_append, String.toList_append]
  exact order

end

def scannedIn (files : FileTree) (root : Path) (suffix : String) (entries : List Entry) :
    Except Failure (List TemplateUnit) :=
  readAll .none files 0 ((entries.filterMap (candidate? root suffix)).mergeSort
    fun first second =>
      Text.isAtMost (first.name.toList ++ suffix.toList) (second.name.toList ++ suffix.toList))

theorem scannedIn_perm (proper : files.Proper) (directory : files.isDirectory root = true)
    {entries : List Entry} (order : entries.Perm (walk files root (depthLimit files) [] [])) :
    scannedIn files root suffix entries = discover .none files root suffix [] := by
  have names := candidates_names_nodup proper root suffix
  have sorted := candidates_inOrder files root suffix
  rw [candidates, if_pos List.isEmpty_nil] at names
  have same : (entries.filterMap (candidate? root suffix)).mergeSort
      (fun first second => Text.isAtMost (first.name.toList ++ suffix.toList)
        (second.name.toList ++ suffix.toList)) =
      (sortedEntries files root).filterMap (candidate? root suffix) := by
    have perm : ((entries.filterMap (candidate? root suffix)).mergeSort fun first second =>
        Text.isAtMost (first.name.toList ++ suffix.toList)
          (second.name.toList ++ suffix.toList)).Perm
        ((sortedEntries files root).filterMap (candidate? root suffix)) :=
      (List.mergeSort_perm _ _).trans
        ((order.trans (List.mergeSort_perm _ _).symm).filterMap _)
    refine perm.eq_of_pairwise ?_ ?_ sorted
    · intro first second member memberToo early late
      have same : first.name = second.name := @InOrder.antisymm suffix _ _ early late
      exact List.inj_on_of_nodup_map names (perm.subset member) memberToo same
    · apply List.pairwise_mergeSort
      · exact fun _ _ _ early late => Text.isAtMost_trans early late
      · exact fun _ _ => Text.isAtMost_total _ _
  rw [scannedIn, same, discover, if_pos List.isEmpty_nil, scanned, if_pos directory]
  simp only
  rw [if_neg (by simp [Obstacles.none])]

theorem IsTemplate.onWay (proper : files.Proper) {text : List Char}
    (template : IsTemplate files (.ofText text) suffix names) {source : String}
    (readable : files.readText ((Path.ofText text).join ⟨false, names⟩) = .ok source) :
    OnWay files (.ofText text) names := by
  rcases template.file with inside | way
  · exact .of_inTree proper inside template.shown template.some readable
  · exact way

theorem OnWay.isTemplate (way : OnWay files root names) (shown : ∀ name ∈ names, IsShown name)
    {name : String} (shape : (name ++ suffix).toList = joined names) (some : name ≠ "") :
    IsTemplate files root suffix names := by
  have longer : 0 < name.toList.length := List.length_pos_iff.mpr (by simpa using some)
  rw [String.toList_append] at shape
  refine ⟨shown, ⟨_, shape⟩, ?_, Or.inr way⟩
  rw [← shape, List.length_append]
  omega

theorem IsTemplate.exists_name (template : IsTemplate files root suffix names) :
    ∃ name, (name ++ suffix).toList = joined names ∧ name ≠ "" := by
  obtain ⟨front, shape⟩ := template.ending
  refine ⟨String.ofList front, by simpa using shape, ?_⟩
  rintro empty
  obtain rfl : front = [] := by simpa using empty
  have longer := template.longer
  rw [← shape] at longer
  simp at longer

/-- A scan finds each template below its root once, and nothing else, in the order of the bytes of
their paths, whatever the order in which it comes upon them. -/
theorem scan_exact (proper : files.Proper) {text : String}
    (directory : files.isDirectory (.ofString text) = true)
    (readable : ∀ names, IsTemplate files (.ofString text) suffix names →
      ∃ source, files.readText ((Path.ofString text).join ⟨false, names⟩) = .ok source) :
    ∃ units, discover .none files (.ofString text) suffix [] = .ok units ∧
      (∀ names, IsTemplate files (.ofString text) suffix names →
        ∃! template, template ∈ units ∧
          Presents files (.ofString text) suffix names template) ∧
      (∀ template ∈ units, ∃! names, IsTemplate files (.ofString text) suffix names ∧
        Presents files (.ofString text) suffix names template) ∧
      units.Pairwise (fun first second => (first.name ++ suffix).toUTF8.data.toList <
        (second.name ++ suffix).toUTF8.data.toList) ∧
      (units.map (·.name)).Nodup ∧
      ∀ entries : List Entry,
        entries.Perm (walk files (.ofString text) (depthLimit files) [] []) →
        scannedIn files (.ofString text) suffix entries = .ok units := by
  have onWay := fun names (template : IsTemplate files (.ofString text) suffix names) =>
    template.onWay proper (readable names template).choose_spec
  have spelled := fun names (template : IsTemplate files (.ofString text) suffix names) =>
    (onWay names template).spelled proper template.shown template.some
  obtain ⟨units, ok⟩ : ∃ units, discover .none files (.ofString text) suffix [] = .ok units := by
    have texts : ∀ candidate ∈ candidates files (.ofString text) suffix [],
        ∃ source, files.readText candidate.path = .ok source := by
      intro candidate member
      obtain ⟨names, _, shown, way, path, some, shape⟩ := (mem_candidates_iff proper).mp member
      exact path ▸ readable names (way.isTemplate shown shape some)
    obtain ⟨units, read⟩ := exists_readAll texts
    exact ⟨units, scan_eq_ok_iff.mpr ⟨directory, readAll_eq_ok_iff.mp read⟩⟩
  have once := scan_nodup proper ok
  refine ⟨units, ok, ?_, ?_, scan_ascending proper ok, once, fun entries order => ?_⟩
  · intro names isTemplate
    obtain ⟨name, shape, some⟩ := isTemplate.exists_name
    obtain ⟨_, found, texts⟩ := scan_eq_ok_iff.mp ok
    have candidate : (⟨name, (Path.ofString text).join ⟨false, names⟩⟩ : Candidate) ∈
        candidates files (.ofString text) suffix [] :=
      (mem_candidates_iff proper).mpr
        ⟨names, isTemplate.some, isTemplate.shown, onWay names isTemplate, rfl, some, shape⟩
    rw [← found] at candidate
    obtain ⟨template, member, same⟩ := List.mem_map.mp candidate
    obtain ⟨rfl, path⟩ := Candidate.mk.inj same
    refine ⟨template, ⟨member, shape, path, readText_eq_ok_iff.mp (texts template member)⟩, ?_⟩
    rintro other ⟨memberToo, present⟩
    have whole := present.name.trans shape.symm
    simp only [String.toList_append, List.append_cancel_right_eq, String.toList_inj] at whole
    exact List.inj_on_of_nodup_map once memberToo member whole
  · intro template member
    obtain ⟨names, _, shown, way, present, some⟩ := scan_presents proper ok member
    have isTemplate := way.isTemplate shown present.name some
    refine ⟨names, ⟨isTemplate, present⟩, ?_⟩
    rintro others ⟨isTemplateToo, presentToo⟩
    exact joined_inj isTemplateToo.some isTemplate.some (spelled _ isTemplateToo)
      (spelled _ isTemplate) (presentToo.name.symm.trans present.name)
  · rw [scannedIn_perm proper directory order, ok]

end

def linkedTree : FileTree where
  entries :=
    [(["t".toList], .directory), (["t".toList, "b.hbs".toList], .file "B".toUTF8 false),
      (["t".toList, "a".toList], .directory),
      (["t".toList, "a".toList, "c.hbs".toList], .file "C".toUTF8 false),
      (["t".toList, ".h.hbs".toList], .file "".toUTF8 false),
      (["t".toList, "x.txt".toList], .file "".toUTF8 false),
      (["t".toList, "l.hbs".toList], .link (.ofString "b.hbs")),
      (["t".toList, "up".toList], .link (.ofString "../t"))]
  here := []

theorem proper_linkedTree : linkedTree.Proper where
  distinct := by decide
  spelled := by decide
  inside := by decide
  start := by decide

theorem readable_linkedTree (names : List Name)
    (template : IsTemplate linkedTree (.ofString "t") ".hbs" names) :
    ∃ source, linkedTree.readText ((Path.ofString "t").join ⟨false, names⟩) = .ok source := by
  have texts : ∀ location content executable,
      (location, .file content executable) ∈ linkedTree.entries →
        ∃ source : String, content = source.toUTF8 := by
    intro location content executable member
    simp only [linkedTree, List.mem_cons, Prod.mk.injEq, FileNode.file.injEq, reduceCtorEq,
      and_false, List.not_mem_nil, or_false, false_or] at member
    rcases member with ⟨_, rfl, _⟩ | ⟨_, rfl, _⟩ | ⟨_, rfl, _⟩ | ⟨_, rfl, _⟩ <;> exact ⟨_, rfl⟩
  refine readText_of_isFile proper_linkedTree texts ?_
  obtain ⟨start, content, executable, root, present⟩ | ⟨_, file⟩ := template.file
  · obtain rfl : ["t".toList] = start := by
      have place : (linkedTree.find? (.ofString "t")).map (·.1) = some ["t".toList] := by
        decide +kernel
      simpa [root] using place.symm
    have known := (mem_entries_iff (by simp)).mpr ⟨_, present⟩
    simp only [linkedTree, List.map_cons, List.map_nil, List.mem_cons, List.cons_append,
      List.nil_append, List.cons.injEq, true_and, List.not_mem_nil, or_false] at known
    rcases known with rfl | rfl | rfl | rfl | rfl | rfl | rfl | rfl
    · exact absurd rfl template.some
    · decide +kernel
    · exact absurd template.longer (by decide)
    · decide +kernel
    · decide +kernel
    · decide +kernel
    · decide +kernel
    · exact absurd template.longer (by decide)
  · exact file

def linkedUnits : List TemplateUnit :=
  [⟨"a/c", .ofString "t/a/c.hbs", "C"⟩, ⟨"b", .ofString "t/b.hbs", "B"⟩,
    ⟨"l", .ofString "t/l.hbs", "B"⟩]

theorem discover_linkedTree :
    discover .none linkedTree (.ofString "t") ".hbs" [] = .ok linkedUnits := by
  cbv

theorem scan_linkedTree : linkedTree.Proper ∧ linkedTree.isDirectory (.ofString "t") = true ∧
    (∀ names, IsTemplate linkedTree (.ofString "t") ".hbs" names →
      ∃ source, linkedTree.readText ((Path.ofString "t").join ⟨false, names⟩) = .ok source) ∧
    (linkedUnits.map (·.name)).Nodup ∧
    ∀ template ∈ linkedUnits, ∃! names, IsTemplate linkedTree (.ofString "t") ".hbs" names ∧
      Presents linkedTree (.ofString "t") ".hbs" names template := by
  have directory : linkedTree.isDirectory (.ofString "t") = true := by decide +kernel
  have readable := readable_linkedTree
  obtain ⟨units, ok, _, sound, _, once, _⟩ := scan_exact proper_linkedTree directory readable
  obtain rfl : linkedUnits = units := by simpa [discover_linkedTree] using ok
  exact ⟨proper_linkedTree, directory, readable, once, sound⟩

end Discovery

end TagTemplate
