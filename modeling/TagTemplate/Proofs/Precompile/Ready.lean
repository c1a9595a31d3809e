import TagTemplate.Proofs.FileTree.DeadEnd
import TagTemplate.Proofs.Precompile.Writing

/-! The files that several runs write one output into, without their temporary files. -/

namespace TagTemplate

namespace FileTree

def Opens (files : FileTree) (output : Path) (lock : Location) : Prop :=
  ∃ content executable, files.place .file (Lock.pathFor output) =
    .ok (.found lock (.file content executable))

theorem Opens.name {files : FileTree} {output : Path} {lock : Location}
    (leads : files.Opens output lock)
    (unlinked : ∀ location target, files.node? location ≠ some (.link target)) :
    ∃ inner,
      lock = inner ++ ['.' :: output.fileName?.getD "output".toList ++ ".lock".toList] := by
  obtain ⟨content, executable, reached⟩ := leads
  obtain ⟨above, shape⟩ :=
    output.withFileName_segments ('.' :: output.fileName?.getD "output".toList ++ ".lock".toList)
  obtain ⟨inner, free | ⟨node, found⟩⟩ :=
    place_name shape (Path.isName_lock _) (Or.inr unlinked) reached
  · simp at free
  · exact ⟨inner, (Place.found.inj found).1⟩

theorem temporary_ne {files staged : FileTree} {lock temporary : Location} {directory : Path}
    (leads : files.Opens output lock)
    (ok : files.makeTemporary directory = .ok (temporary, staged)) :
    temporary.getLast? ≠ output.fileName? := by
  have last : temporary.getLast? = some files.temporaryName := by
    unfold makeTemporary at ok
    split at ok
    · cases ok
      simp
    · simp at ok
    · simp at ok
    · simp at ok
  rw [last]
  intro same
  obtain ⟨content, executable, reached⟩ := leads
  obtain ⟨above, shape⟩ := output.withFileName_segments
    ('.' :: output.fileName?.getD "output".toList ++ ".lock".toList)
  have named := Path.isName_lock (output.fileName?.getD "output".toList)
  obtain ⟨inner, node, present⟩ := node?_name shape named reached
  have longer := length_lt_temporaryName present
  simp only [← same, Option.getD_some, List.length_append, List.length_cons] at longer
  omega

def Provisional (output : Path) (before : FileTree) (temporary : Location) : Prop :=
  ∃ ready lock directory made, Prepared output before ready ∧ ready.Opens output lock ∧
    ready.makeTemporary directory = .ok (temporary, made)

/-- The path of an output leads to no directory through a link, and neither to the file that the
path of its lock leads to nor to a temporary file, whatever getting ready to write adds. -/
structure Separate (output : Path) (before : FileTree) : Prop where
  blind : ∀ {ready target}, Prepared output before ready →
    ready.renameTarget output = .ok target → ready.DeadEnd target
  apart : ∀ {ready target location node}, Prepared output before ready →
    ready.renameTarget output = .ok target → ready.Leads target location node →
    ¬ ready.Opens output location
  aside : ∀ {ready target directory name}, Prepared output before ready →
    ready.renameTarget output = .ok target →
    ready.place .node output = .ok (.free directory name) →
    ¬ Provisional output before (directory ++ [name])

theorem Separate.of_entry {output : Path} {before : FileTree}
    (unlinked : ∀ {ready location target}, Prepared output before ready →
      ready.place .entry output ≠ .ok (.found location (.link target)))
    (apart : ∀ {ready location content executable}, Prepared output before ready →
      ready.place .entry output = .ok (.found location (.file content executable)) →
      ready.place .file (Lock.pathFor output) ≠ .ok (.found location (.file content executable))) :
    Separate output before := by
  refine ⟨?_, ?_, ?_⟩
  · intro ready target prepared aimed
    exact .of_unlinked aimed fun link present =>
      unlinked prepared (place_entry_of_renameTarget aimed present)
  · rintro ready target location node prepared aimed leads ⟨content, executable, opens⟩
    cases leads with
    | through present _ =>
        exact unlinked prepared (place_entry_of_renameTarget aimed present)
    | here _ =>
        have present := (place_ends opens).resolve_left (by simp)
        exact apart prepared (place_entry_of_renameTarget aimed present) opens
  · rintro ready target directory name prepared aimed free ⟨files, lock, parent, made, -, opens, ok⟩
    obtain ⟨inner, last, shape, named⟩ := renameTarget_name aimed
    obtain ⟨_, _, place, reached, _, same⟩ := place_of_renameTarget aimed
    have there : place = .free directory name := by
      rcases place_entry_of_node free with entry | ⟨other, link, entry⟩
      · exact Except.ok.inj (reached.symm.trans entry)
      · exact absurd entry (unlinked prepared)
    subst there
    have names := (List.append_inj' (shape.symm.trans same) rfl).2
    refine temporary_ne opens ok ?_
    rw [List.getLast?_concat, named, List.singleton_inj.mp names]

theorem Separate.of_unlinked {before : FileTree} (output : Path)
    (unlinked : ∀ location target, before.node? location ≠ some (.link target)) :
    Separate output before := by
  have still : ∀ {ready}, Prepared output before ready →
      ∀ location target, ready.node? location ≠ some (.link target) :=
    fun prepared location target present => unlinked location target (prepared.link present)
  refine .of_entry ?_ ?_
  · intro ready location target prepared reached
    exact still prepared location target ((place_ends reached).resolve_left (by simp))
  · intro ready location content executable prepared reached opens
    obtain ⟨above, name, shape, named⟩ := place_endsInName (by simp) reached
    obtain ⟨inner, free | ⟨_, found⟩⟩ := place_name shape named (Or.inl rfl) reached
    · simp at free
    obtain ⟨innerToo, lock⟩ := Opens.name ⟨_, _, opens⟩ (still prepared)
    have same := (Place.found.inj found).1.symm.trans lock
    have names := (List.append_inj' same rfl).2
    rw [Path.fileName?_name shape named] at names
    have lengths := congrArg (fun names => (names.map List.length).sum) names
    simp at lengths
    omega

theorem Separate.of_file {output : Path} {before : FileTree} {location lock : Location}
    {content : ByteArray} {executable : Bool}
    (found : before.find? output = some (location, .file content executable))
    (opens : before.Opens output lock) (other : lock ≠ location) : Separate output before := by
  have still : ∀ {ready target}, Prepared output before ready →
      ready.renameTarget output = .ok target →
      ready.find? output = some (location, .file content executable) ∧
        ready.Leads target location (.file content executable) := by
    intro ready target prepared aimed
    have foundToo := find?_carried prepared.carries False.elim found
    obtain ⟨targetToo, aimedToo, leads⟩ := exists_leads (by simp) foundToo
    cases aimed.symm.trans aimedToo
    exact ⟨foundToo, leads⟩
  refine ⟨fun prepared aimed => .of_leads (still prepared aimed).2, ?_, ?_⟩
  · rintro ready target there node prepared aimed leads ⟨bytes, mode, reached⟩
    obtain ⟨old, oldMode, reachedToo⟩ := opens
    cases reached.symm.trans (prepared.place_found reachedToo)
    rcases (still prepared aimed).2.unique leads with ⟨same, -⟩ | ⟨link, present, -⟩
    · exact other same
    · cases present.symm.trans ((place_ends reached).resolve_left (by simp))
  · intro ready target directory name prepared aimed free
    cases free.symm.trans (find?_eq_some.mp (still prepared aimed).1)

/-- Files as runs leave them: new are at most directories, the lock once it has been opened, and the
output with the text that was put there last. -/
inductive Ready (output : Path) (before : FileTree) :
    FileTree → Option Location → Option String → Prop
  | raised {plain} (raised : before.Raised plain) : Ready output before plain none none
  | opened {plain lock} (prepared : Prepared output before plain)
      (grows : Grows (fun location node => node = .directory ∨ location = lock) before plain)
      (leads : plain.Opens output lock) : Ready output before plain (some lock) none
  | replaced {plain lock target text} (here : plain.here = before.here)
      (kept : ∀ {location node}, location ≠ target → before.node? location = some node →
        plain.node? location = some node)
      (fresh : ∀ {location node}, location ≠ target → before.node? location = none →
        plain.node? location = some node → node = .directory ∨ location = lock)
      (leads : plain.Opens output lock) (apart : lock ≠ target)
      (stored : plain.place .entry output = .ok (.found target (.file text.toUTF8 false))) :
      Ready output before plain (some lock) (some text)

section
variable {output : Path} {before plain files : FileTree} {lock : Location}

theorem Grows.opens {allowed} (grows : Grows allowed plain files)
    (leads : plain.Opens output lock) : files.Opens output lock := by
  obtain ⟨content, executable, reached⟩ := leads
  exact ⟨content, executable, grows.place_found reached⟩

theorem Opens.openFile (leads : files.Opens output lock) :
    files.openFile (Lock.pathFor output) = .ok (lock, files) := by
  obtain ⟨content, executable, reached⟩ := leads
  exact openFile_of_place reached

theorem Opens.node? (leads : files.Opens output lock) :
    ∃ content executable, files.node? lock = some (.file content executable) := by
  obtain ⟨content, executable, reached⟩ := leads
  exact ⟨content, executable, (place_ends reached).resolve_left (by simp)⟩

theorem Ready.opens {latest : Option String}
    (ready : Ready output before plain (some lock) latest) : plain.Opens output lock := by
  cases ready with
  | opened _ _ leads => exact leads
  | replaced _ _ _ leads _ _ => exact leads

theorem Ready.grows {opened : Option Location} (ready : Ready output before plain opened none) :
    Grows (fun location node => node = .directory ∨ plain.Opens output location) before plain := by
  cases ready with
  | raised raised => exact raised.mono fun _ _ directory => Or.inl directory
  | opened _ grows leads =>
      refine grows.mono fun location node new => ?_
      rcases new with directory | rfl
      · exact Or.inl directory
      · exact Or.inr leads

theorem Ready.node? {opened : Option Location} {latest : Option String} {location : Location}
    {node : FileNode} (ready : Ready output before plain opened latest)
    (present : plain.node? location = some node) :
    before.node? location = some node ∨ node = .directory ∨ plain.Opens output location ∨
      plain.find? output = some (location, node) := by
  have growth : ∀ {allowed}, Grows allowed before plain →
      before.node? location = some node ∨ allowed location node := by
    intro allowed grows
    cases old : before.node? location with
    | none => exact Or.inr (grows.fresh old present)
    | some other => exact Or.inl ((grows.kept old).symm.trans present)
  cases ready with
  | raised raised => exact (growth raised).imp_right Or.inl
  | opened prepared grows leads =>
      exact (growth (Ready.opened prepared grows leads).grows).imp_right (Or.imp_right Or.inl)
  | @replaced lock target _ _ kept fresh leads _ stored =>
      by_cases same : location = target
      · subst same
        have found := find?_eq_some.mpr (place_node_of_entry (by simp) stored)
        have there := (place_ends stored).resolve_left (by simp)
        cases there.symm.trans present
        exact Or.inr (Or.inr (Or.inr found))
      · cases old : before.node? location with
        | some other => exact Or.inl ((kept same old).symm.trans present)
        | none =>
            rcases fresh same old present with directory | rfl
            · exact Or.inr (Or.inl directory)
            · exact Or.inr (Or.inr (Or.inl leads))

theorem Ready.prepared {opened : Option Location}
    (ready : Ready output before plain opened none) : Prepared output before plain := by
  cases ready with
  | raised raised => exact Prepared.of_raised output raised
  | opened prepared => exact prepared

theorem Ready.find? {opened : Option Location} {text : String}
    (ready : Ready output before plain opened (some text)) :
    ∃ target, plain.find? output = some (target, .file text.toUTF8 false) := by
  cases ready with
  | replaced _ _ _ _ _ stored =>
      exact ⟨_, find?_eq_some.mpr (place_node_of_entry (by simp) stored)⟩

theorem Ready.initial {opened : Option Location} {location : Location} {node : FileNode}
    (separate : Separate output before) (ready : Ready output before plain opened none)
    (found : plain.find? output = some (location, node)) :
    before.node? location = some node ∨ node = .directory := by
  by_cases leaf : node = .directory
  · exact Or.inr leaf
  have present := (place_ends (find?_eq_some.mp found)).resolve_left leaf
  cases old : before.node? location with
  | some other => exact Or.inl ((ready.grows.kept old).symm.trans present)
  | none =>
      refine Or.inr ?_
      cases ready with
      | raised raised => exact raised.fresh old present
      | opened prepared grows opens =>
          rcases grows.fresh old present with directory | rfl
          · exact directory
          · obtain ⟨target, aimed, leads⟩ := exists_leads leaf found
            exact absurd opens (separate.apart prepared aimed leads)

theorem Ready.raise {opened : Option Location} {latest : Option String}
    (ready : Ready output before plain opened latest) (raised : plain.Raised files) :
    Ready output before files opened latest := by
  cases ready with
  | raised early => exact .raised (early.trans raised)
  | opened prepared grows leads =>
      exact .opened (prepared.trans (raised.mono fun _ _ directory => Or.inl directory))
        (grows.trans (raised.mono fun _ _ directory => Or.inl directory)) (raised.opens leads)
  | replaced here kept fresh leads apart stored =>
      refine .replaced (raised.here.trans here)
        (fun other present => raised.kept (kept other present)) ?_ (raised.opens leads) apart
        (raised.place_found stored)
      intro location node other absent present
      cases between : plain.node? location with
      | none => exact Or.inl (raised.fresh between present)
      | some old =>
          have same : old = node := by simpa [raised.kept between] using present
          exact fresh other absent (same ▸ between)

theorem Ready.open {latest : Option String} (ready : Ready output before plain none latest)
    (ok : plain.openFile (Lock.pathFor output) = .ok (lock, files)) :
    Ready output before files (some lock) latest := by
  cases ready with
  | raised raised =>
      refine .opened (Prepared.opened raised ok) ?_ (place_of_openFile ok)
      exact (raised.mono fun _ _ directory => Or.inl directory).trans
        ((openFile_grows ok).mono fun _ _ new => Or.inr new.1)

theorem renameTarget_of_found {target location : Location} {node : FileNode}
    (ok : plain.renameTarget output = .ok target)
    (reached : plain.place .entry output = .ok (.found location node)) : target = location := by
  obtain ⟨_, _, place, reachedToo, _, aimed⟩ := place_of_renameTarget ok
  cases reached.symm.trans reachedToo
  exact aimed

theorem Replaced.place_entry {target : Location} {content : ByteArray}
    (held : Replaced plain files target content) (ok : plain.renameTarget output = .ok target)
    (ends : plain.DeadEnd target) (pursuit : Pursuit) :
    files.place pursuit output = .ok (.found target (.file content false)) := by
  obtain ⟨undirected, unslashed, place, reached, _, _⟩ := place_of_renameTarget ok
  obtain ⟨above, name, shape, named⟩ := Path.exists_name unslashed undirected
  obtain ⟨inner, front, _⟩ := front_of_place shape named reached
  have leads := held.follow_directory ends front
  rw [startOf, ← held.here] at leads
  have split : output.segments = above ++ ([] ++ [name]) := shape
  exact held.place ok split (by simp [Path.Idle]) named leads pursuit

theorem Ready.ends {target : Location} {latest : Option String} (separate : Separate output before)
    (ready : Ready output before plain (some lock) latest)
    (ok : plain.renameTarget output = .ok target) :
    plain.DeadEnd target ∧ ∀ node, ¬ plain.Leads target lock node := by
  cases ready with
  | opened prepared _ opens =>
      exact ⟨separate.blind prepared ok, fun node leads => separate.apart prepared ok leads opens⟩
  | replaced _ _ _ _ apart stored =>
      cases renameTarget_of_found ok stored
      have file := (place_ends stored).resolve_left (by simp)
      refine ⟨.of_unlinked ok fun link present => ?_, fun node leads => ?_⟩
      · cases file.symm.trans present
      · cases leads with
        | here _ => exact apart rfl
        | through present _ => cases file.symm.trans present

theorem Ready.replace {target : Location} {latest : Option String} {text : String}
    (separate : Separate output before) (ready : Ready output before plain (some lock) latest)
    (ok : plain.renameTarget output = .ok target)
    (held : Replaced plain files target text.toUTF8) :
    Ready output before files (some lock) (some text) := by
  obtain ⟨ends, clear⟩ := ready.ends separate ok
  have leads := ready.opens
  have apart : lock ≠ target := by
    rintro rfl
    obtain ⟨content, executable, there⟩ := leads.node?
    exact clear _ (.here there)
  have opens : files.Opens output lock := by
    obtain ⟨content, executable, reached⟩ := leads
    have onto := held.place_onto ends (by simp) reached
    unfold Opens
    generalize files.place .file (Lock.pathFor output) = after at onto ⊢
    cases onto with
    | same => exact ⟨content, executable, rfl⟩
    | new through => exact absurd through (clear _)
  have stored := held.place_entry ok ends .entry
  cases ready with
  | opened prepared grows =>
      refine .replaced (held.here.trans grows.here) ?_ ?_ opens apart stored
      · intro location node other present
        rw [held.others other]
        exact grows.kept present
      · intro location node other absent present
        rw [held.others other] at present
        exact grows.fresh absent present
  | replaced here kept fresh _ _ former =>
      cases renameTarget_of_found ok former
      refine .replaced (held.here.trans here) ?_ ?_ opens apart stored
      · intro location node other present
        rw [held.others other]
        exact kept other present
      · intro location node other absent present
        rw [held.others other] at present
        exact fresh other absent present

end

end FileTree

end TagTemplate
