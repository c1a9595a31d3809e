import TagTemplate.Proofs.Precompile.Success
import TagTemplate.Proofs.Walk

/-! Runs that leave their templates alone. -/

namespace TagTemplate

open FileTree

def Options.candidates (options : Options) (files : FileTree) : List Discovery.Candidate :=
  Discovery.candidates files options.root options.suffix options.templates

def Options.SparesTemplates (options : Options) (before after : FileTree) : Prop :=
  ∀ candidate ∈ options.candidates after, candidate ∈ options.candidates before ∧
    after.readText candidate.path = before.readText candidate.path

instance (options : Options) (before after : FileTree) :
    Decidable (options.SparesTemplates before after) :=
  inferInstanceAs (Decidable (∀ candidate ∈ options.candidates after, _))

/-- Neither of the name of an output and the suffix of templates is an ending of the other. -/
def Options.Aside (options : Options) : Prop :=
  ∀ name, options.output.fileName? = some name →
    ¬ options.suffix.toList <:+ name ∧ ¬ name <:+ options.suffix.toList

theorem FileTree.Retains.of_replaced {output : Path} {before ready after : FileTree}
    {target : Location} {content : ByteArray} (prepared : Prepared output before ready)
    (held : Replaced ready after target content) (dead : ready.DeadEnd target) :
    Retains before after where
  directory reached := held.place_directory dead (prepared.place_found reached)
  file reached := held.place_file dead (by simp) (prepared.place_found reached)
  names := by
    intro location node present
    by_cases here : location = target
    · exact ⟨_, here ▸ held.stored⟩
    · exact ⟨node, (held.others here).trans (prepared.kept present)⟩
  links := by
    intro location link present
    have other : location ≠ target := by
      rintro rfl
      simp [held.stored] at present
    exact prepared.link ((held.others other).symm.trans present)

/-- Files in which only those under the name of an output are others than before, and only those and
hidden ones are new. -/
structure FileTree.Adjoins (output : Path) (before after : FileTree) : Prop where
  retains : Retains before after
  named : after.Named
  carries : Carries (fun location => location.getLast? = output.fileName?) before after
  earlier : ∀ {above name content executable}, output.fileName? ≠ some name →
    Discovery.isHidden name = false →
    after.node? (above ++ [name]) = some (.file content executable) →
    before.node? (above ++ [name]) = some (.file content executable)

theorem WriteJob.Succeeds.adjoins {job : WriteJob} {world : World} {after : FileTree}
    (succeeds : job.Succeeds world after) (tidy : world.files.Tidy) :
    Adjoins job.output world.files after := by
  obtain ⟨lock, ready, target, readies, _, aimed, held⟩ := succeeds.replaced
  have unlinked : ∀ location link, ready.node? location ≠ some (.link link) :=
    fun location link present => tidy.unlinked location link (readies.prepared.link present)
  have dead : ready.DeadEnd target := .of_unlinked aimed (unlinked target)
  obtain ⟨inner, own, rfl, output⟩ := renameTarget_name aimed
  obtain ⟨lockInner, rfl⟩ := readies.opened.name unlinked
  refine ⟨.of_replaced readies.prepared held dead, ?_,
    ⟨held.here.trans readies.prepared.here, ?_⟩, ?_⟩
  · exact (readies.keeps Named.makeDirectory Named.openFile tidy.named).replaced aimed held
  · intro location node present unfiled
    by_cases here : location = inner ++ [own]
    · subst here
      have there := readies.prepared.kept present
      cases node with
      | directory => exact absurd there dead.leaf
      | file content executable => exact absurd rfl (unfiled (by simp [output]) content executable)
      | link link => exact absurd there (unlinked _ link)
    · exact (held.others here).trans (readies.prepared.kept present)
  · intro above name content executable other shown present
    have elsewhere : above ++ [name] ≠ inner ++ [own] := by
      intro same
      rw [List.singleton_inj.mp (List.append_inj' same rfl).2] at other
      exact other output
    rw [held.others elsewhere] at present
    cases old : world.files.node? (above ++ [name]) with
    | some node => exact (readies.grows.kept old).symm.trans present
    | none =>
        rcases readies.grows.fresh old present with directory | lock
        · simp at directory
        · rw [List.singleton_inj.mp (List.append_inj' lock rfl).2] at shown
          simp [Discovery.isHidden] at shown

theorem FileTree.readText_of_find? {before after : FileTree} {path : Path}
    {found : Location × FileNode} (there : before.find? path = some found)
    (thereToo : after.find? path = some found) : after.readText path = before.readText path := by
  obtain ⟨location, node⟩ := found
  rw [find?_eq_some] at there thereToo
  simp [readText, FileTree.read, there, thereToo]

theorem Options.Aside.sparesTemplates {options : Options} {before after : FileTree}
    (aside : options.Aside) (adjoins : Adjoins options.output before after) (tidy : before.Tidy)
    {units : List TemplateUnit} (finds : options.Finds before units) :
    options.SparesTemplates before after := by
  intro candidate member
  have other : ∀ {front last}, candidate.path.segments = front ++ [last] →
      options.output.fileName? ≠ some last := by
    intro front last shape same
    have ending := Discovery.isSuffix_of_candidates member shape
    obtain ⟨longer, shorter⟩ := aside last same
    rcases List.suffix_or_suffix_of_suffix ending (List.suffix_append _ _) with inside | outside
    · exact shorter inside
    · exact longer outside
  unfold Options.Finds discover at finds
  unfold Options.candidates Discovery.candidates at member ⊢
  split at finds
  · next all =>
      rw [if_pos all] at member ⊢
      have directory : before.isDirectory options.root = true := by
        unfold Discovery.scanned at finds
        split at finds
        · assumption
        · simp at finds
      obtain ⟨entry, found, chosen⟩ := List.mem_filterMap.mp member
      obtain ⟨file, path, _⟩ := Discovery.candidate?_eq_some chosen
      rw [Discovery.sortedEntries, List.mem_mergeSort] at found
      obtain ⟨start, here⟩ := Discovery.find?_root directory (Discovery.start_of_walk found)
      obtain ⟨names, below, shape, shown, reached⟩ :=
        Discovery.file_of_walk adjoins.named found file
      obtain rfl : entry = ⟨names, true⟩ := by
        obtain ⟨_, _⟩ := entry
        rw [Discovery.Entry.mk.injEq]
        exact ⟨shape, file⟩
      obtain ⟨location, content, executable, reached⟩ := isFile_iff.mp reached
      have hereToo := find?_eq_some.mpr (adjoins.retains.directory (find?_eq_some.mp here))
      have unlinked : ∀ location target, after.node? location ≠ some (.link target) :=
        fun location target present => tidy.unlinked location target (adjoins.retains.links present)
      have named : ∀ name ∈ names, Path.IsName name := fun name member => (shown name member).1
      obtain ⟨rfl, short⟩ := Discovery.find?_location unlinked hereToo named reached
      -- By its name the file is not new, so the walk came upon it before.
      obtain ⟨front, last, rfl⟩ : ∃ front last, names = front ++ [last] :=
        ⟨_, _, (List.dropLast_concat_getLast below).symm⟩
      have present := (place_ends (find?_eq_some.mp reached)).resolve_left (by simp)
      rw [← List.append_assoc] at present
      have old := adjoins.earlier (other (path ▸ (Discovery.join_append _ front [last]).1))
        (shown last (by simp)).2 present
      rw [List.append_assoc] at old
      have reachedBefore :=
        Discovery.find?_below tidy here reached (List.prefix_refl _) named short old below
      refine ⟨List.mem_filterMap.mpr ⟨_, ?_, chosen⟩, ?_⟩
      · rw [Discovery.sortedEntries, List.mem_mergeSort]
        exact (Discovery.mem_walk_iff tidy here).mpr
          ⟨below, shown, isFile_iff.mpr ⟨_, _, _, reachedBefore⟩⟩
      · rw [path]
        exact readText_of_find? reachedBefore reached
  · next list =>
      rw [if_neg list] at member ⊢
      refine ⟨member, ?_⟩
      obtain ⟨name, listed, rfl⟩ := List.mem_map.mp member
      obtain ⟨text, read⟩ := Discovery.listed_texts finds listed
      obtain ⟨location, content, executable, reached⟩ :=
        isFile_iff.mp (Discovery.isFile_of_readText read)
      have leads := find?_eq_some.mp reached
      obtain ⟨above, last, shape, isName⟩ := place_endsInName (by simp) leads
      obtain ⟨inner, free | ⟨node, found⟩⟩ :=
        place_name shape isName (Or.inr tidy.unlinked) leads
      · simp at free
      have unfiled : location.getLast? ≠ options.output.fileName? := by
        rw [(Place.found.inj found).1, List.getLast?_append, List.getLast?_singleton,
          Option.some_or]
        exact (other shape).symm
      exact readText_of_find? reached
        (find?_carried adjoins.carries (fun lost => absurd lost unfiled) reached)

namespace Run

theorem complete_sparesTemplates {compiler : Compiler} (keeps : compiler.KeepsFiles)
    (around : Nat → Interference) {options : Options} (aside : options.Aside) (cancelled : Bool)
    (now : Nat) (world : World) (tidy : world.files.Tidy) {report : Report}
    (succeeds : (complete compiler around (start options cancelled now) world).1.outcome? =
      some (.ok report)) :
    options.SparesTemplates world.files
      (complete compiler around (start options cancelled now) world).2.files := by
  obtain ⟨bundle, ⟨units, _, finds, _⟩, _, written⟩ :=
    complete_fate keeps around options cancelled now world succeeds
  have success := ((options.job bundle).fate_eq_some_iff _ _).mp written
  exact aside.sparesTemplates (success.adjoins tidy) tidy finds

end Run

end TagTemplate
