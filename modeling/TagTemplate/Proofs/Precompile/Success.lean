import TagTemplate.Proofs.FileTree.DeadEnd
import TagTemplate.Proofs.FileTree.Listing
import TagTemplate.Proofs.Precompile.Fate
import TagTemplate.Proofs.Precompile.Output
import TagTemplate.Proofs.Precompile.Ready
import TagTemplate.Proofs.Precompile.Soundness

/-! All that happens when a run succeeds, and that writing succeeds again after that. -/

namespace TagTemplate

open FileTree

namespace WriteJob

inductive Readies (job : WriteJob) (before : FileTree) (lock : Location) (ready : FileTree) : Prop
  | intro {made prepared} (directories : before.makeDirectories job.directory = (none, made))
      (lockDirectory : Lock.prepare (Lock.pathFor job.output) made = (none, prepared))
      (opens : prepared.openFile (Lock.pathFor job.output) = .ok (lock, ready))

inductive Succeeds (job : WriteJob) (world : World) (after : FileTree) : Prop
  | intro {lock ready temporary staged} (readies : job.Readies world.files lock ready)
      (free : world.isLocked lock = false)
      (creates : ready.makeTemporary job.directory = .ok (temporary, staged))
      (renames : (staged.put temporary (.file job.text.toUTF8 false)).rename temporary job.output =
        .ok after)
      (syncs : after.openError? job.directory = none)

section
variable (job : WriteJob) (world : World) (after : FileTree)

theorem fate_makingParents : job.fate world .makingParents = some after ↔
    ∃ made, world.files.makeDirectories job.directory = (none, made) ∧
      job.fate { world with files := made } .preparingLock = some after := by
  rw [fate_eq]
  simp only [WriteStep.timeless, step, World.timeless]
  rcases world.files.makeDirectories job.directory with ⟨_ | cause, made⟩
  · simp only [Prod.mk.injEq, true_and, exists_eq_left']
    rfl
  · simp

theorem fate_preparingLock : job.fate world .preparingLock = some after ↔
    ∃ prepared, Lock.prepare (Lock.pathFor job.output) world.files = (none, prepared) ∧
      job.fate { world with files := prepared } .openingLock = some after := by
  rw [fate_eq]
  simp only [WriteStep.timeless, step, World.timeless]
  rcases Lock.prepare (Lock.pathFor job.output) world.files with ⟨_ | cause, prepared⟩
  · simp only [Prod.mk.injEq, true_and, exists_eq_left']
    rfl
  · simp

theorem fate_locking (file : Location) (since : Nat) (delay : Lock.Delay) :
    job.fate world (.locking file since delay) = some after ↔
      world.isLocked file = false ∧ job.fate (world.lock file) (.creating file) = some after := by
  cases locked : world.isLocked file with
  | true =>
      have vain : job.fate world (.locking file since delay) = none :=
        job.fateWithin_locked _ world.timeless file _ _ locked
      simp [vain]
  | false =>
      have free : world.timeless.isLocked file = false := locked
      rw [fate_eq]
      simp only [WriteStep.timeless, step, free, true_and, WriteStep.remaining, Nat.zero_sub,
        Bool.false_eq_true, ↓reduceIte]
      rfl

theorem fate_openingLock : job.fate world .openingLock = some after ↔
    ∃ lock ready, world.files.openFile (Lock.pathFor job.output) = .ok (lock, ready) ∧
      world.isLocked lock = false ∧
      job.fate { world with files := ready, locks := lock :: world.locks } (.creating lock) =
        some after := by
  rw [fate_eq]
  simp only [WriteStep.timeless, step, World.timeless, Lock.openFile]
  rcases world.files.openFile (Lock.pathFor job.output) with cause | ⟨lock, ready⟩
  · simp
  · simp only [Except.ok.injEq, Prod.mk.injEq, and_assoc, exists_and_left, exists_eq_left']
    exact job.fate_locking { world with files := ready } after lock 0 Lock.firstDelay

theorem fate_creating (lock : Location) : job.fate world (.creating lock) = some after ↔
    ∃ temporary staged, world.files.makeTemporary job.directory = .ok (temporary, staged) ∧
      job.fate { world with files := staged.put temporary (.file job.text.toUTF8 false) }
        (.persisting lock temporary) = some after := by
  rw [fate_eq]
  simp only [WriteStep.timeless, step, World.timeless]
  rcases world.files.makeTemporary job.directory with cause | ⟨temporary, staged⟩
  · simp [abandon, fateWithin_failed]
  · simp only [Except.ok.injEq, Prod.mk.injEq, and_assoc, exists_and_left, exists_eq_left']
    rfl

theorem fate_persisting (lock temporary : Location) :
    job.fate world (.persisting lock temporary) = some after ↔
      world.files.rename temporary job.output = .ok after ∧
        after.openError? job.directory = none := by
  rw [fate_eq]
  simp only [WriteStep.timeless, step, World.timeless]
  cases world.files.rename temporary job.output with
  | error cause => simp [discard, fateWithin_failed]
  | ok renamed =>
      change job.fate { world with files := renamed } (.openingDirectory lock) = some after ↔ _
      rw [fate_eq]
      simp only [WriteStep.timeless, step, World.timeless, Except.ok.injEq]
      cases error : renamed.openError? job.directory with
      | some cause =>
          simp only [abandon, fateWithin_failed, reduceCtorEq, false_iff, not_and]
          rintro rfl
          simp [error]
      | none =>
          change some renamed = some after ↔ _
          rw [Option.some.injEq, iff_self_and]
          rintro rfl
          exact error

/-- Undisturbed writing comes to something just when all of its operations succeed. -/
theorem fate_eq_some_iff : job.fate world .checking = some after ↔ job.Succeeds world after := by
  change job.fate world .makingParents = some after ↔ _
  simp only [fate_makingParents, fate_preparingLock, fate_openingLock, fate_creating,
    fate_persisting]
  constructor
  · rintro ⟨made, directories, prepared, lockDirectory, lock, ready, opens, free, temporary, staged,
      creates, renames, syncs⟩
    exact ⟨⟨directories, lockDirectory, opens⟩, free, creates, renames, syncs⟩
  · rintro ⟨⟨directories, lockDirectory, opens⟩, free, creates, renames, syncs⟩
    exact ⟨_, directories, _, lockDirectory, _, _, opens, free, _, _, creates, renames, syncs⟩

end

section
variable {job : WriteJob} {before ready after : FileTree} {world : World} {lock inner : Location}

theorem Readies.opened (readies : job.Readies before lock ready) : ready.Opens job.output lock := by
  obtain ⟨_, _, opens⟩ := readies
  exact place_of_openFile opens

theorem Readies.keeps {Holds : FileTree → Prop}
    (makes : ∀ {tree made path}, makeDirectory tree path = .ok made → Holds tree → Holds made)
    (opens : ∀ {tree made file path}, openFile tree path = .ok (file, made) → Holds tree →
      Holds made)
    (readies : job.Readies before lock ready) (holds : Holds before) : Holds ready := by
  obtain ⟨directories, lockDirectory, opened⟩ := readies
  have made : Holds (before.makeDirectories job.directory).2 :=
    makeAll_keeps _ (fun _ ok => makes ok) holds
  rw [directories] at made
  have madeToo := prepare_keeps (Lock.pathFor job.output) (fun _ _ ok => makes ok) made
  rw [lockDirectory] at madeToo
  exact opens opened madeToo

theorem Readies.raised (readies : job.Readies before lock ready) :
    ∃ raised, before.Raised raised ∧
      raised.openFile (Lock.pathFor job.output) = .ok (lock, ready) := by
  obtain @⟨files, _, directories, lockDirectory, opens⟩ := readies
  have made := before.makeDirectories_raised job.directory
  rw [directories] at made
  have madeToo := prepare_raised (Lock.pathFor job.output) files
  rw [lockDirectory] at madeToo
  exact ⟨_, made.trans madeToo, opens⟩

theorem Readies.prepared (readies : job.Readies before lock ready) :
    Prepared job.output before ready := by
  obtain ⟨_, raised, opens⟩ := readies.raised
  exact Prepared.opened raised opens

theorem Readies.grows (readies : job.Readies before lock ready) :
    Grows (fun location node => node = .directory ∨ location = lock) before ready := by
  obtain ⟨_, raised, opens⟩ := readies.raised
  exact (raised.mono fun _ _ directory => Or.inl directory).trans
    ((openFile_grows opens).mono fun _ _ new => Or.inr new.1)

theorem Readies.distinct (readies : job.Readies before lock ready) (distinct : before.Distinct) :
    ready.Distinct :=
  readies.keeps Distinct.makeDirectory Distinct.openFile distinct

theorem Readies.again (there : ready.place .node job.directory = .ok (.found inner .directory))
    (opens : ready.Opens job.output lock) : job.Readies ready lock ready := by
  refine ⟨makeDirectories_again there, ?_, opens.openFile⟩
  obtain ⟨content, executable, reached⟩ := opens
  unfold Lock.prepare
  split
  · rfl
  next parent found =>
  split
  · rfl
  next nonempty =>
  let lockJob : WriteJob := { job with output := Lock.pathFor job.output }
  have directory : lockJob.directory = parent := by
    simp [lockJob, WriteJob.directory, found, nonempty]
  obtain ⟨above, shape⟩ := job.output.withFileName_segments
    ('.' :: job.output.fileName?.getD "output".toList ++ ".lock".toList)
  obtain ⟨innerToo, thereToo⟩ : ∃ inner, ready.place .node lockJob.directory =
      .ok (.found inner .directory) := directory_of_place reached shape (Path.isName_lock _)
  rw [directory] at thereToo
  simp [makeDirectories_again thereToo]

theorem Succeeds.distinct (succeeds : job.Succeeds world after) (distinct : world.files.Distinct) :
    after.Distinct := by
  obtain ⟨readies, _, creates, renames, _⟩ := succeeds
  obtain ⟨free, rfl⟩ := makeTemporary_fresh creates
  have staged := (readies.distinct distinct).put (ne_nil_of_free free) (.file ByteArray.empty false)
  exact (staged.put (ne_nil_of_free free) _).rename renames

theorem Succeeds.replaced (succeeds : job.Succeeds world after) :
    ∃ lock ready target, job.Readies world.files lock ready ∧
      (∃ inner, ready.place .node job.directory = .ok (.found inner .directory)) ∧
      ready.renameTarget job.output = .ok target ∧
      Replaced ready after target job.text.toUTF8 := by
  obtain ⟨readies, _, creates, renames, _⟩ := succeeds
  obtain ⟨target, aimed, held⟩ := ((makeTemporary_staged creates).fill _).rename renames
  refine ⟨_, _, target, readies, ?_, aimed, held⟩
  unfold makeTemporary at creates
  split at creates
  · next inner reached => exact ⟨inner, reached⟩
  · simp at creates
  · simp at creates
  · simp at creates

theorem Readies.succeeds {target : Location} (readies : job.Readies world.files lock world.files)
    (free : world.isLocked lock = false)
    (there : world.files.place .node job.directory = .ok (.found inner .directory))
    (aimed : world.files.renameTarget job.output = .ok target)
    (stored : world.files.place .entry job.output =
      .ok (.found target (.file job.text.toUTF8 false))) :
    ∃ after, job.Succeeds world after ∧ after.here = world.files.here ∧
      ∀ location, after.node? location = world.files.node? location := by
  obtain ⟨undirected, unslashed, _⟩ := place_of_renameTarget aimed
  have creates : world.files.makeTemporary job.directory =
      .ok (inner ++ [world.files.temporaryName], world.files.put
        (inner ++ [world.files.temporaryName]) (.file ByteArray.empty false)) := by
    simp [makeTemporary, there]
  have staged := (makeTemporary_staged creates).fill job.text.toUTF8
  obtain ⟨after, renames⟩ := rename_of_target (inner ++ [world.files.temporaryName])
    (renameTarget_of_place undirected unslashed (by simp) (staged.grows.place_found stored))
  obtain ⟨other, aimedToo, held⟩ := staged.rename renames
  cases aimed.symm.trans aimedToo
  have same : ∀ location, after.node? location = world.files.node? location := by
    intro location
    by_cases here : location = target
    · rw [here, held.stored]
      exact ((place_ends stored).resolve_left (by simp)).symm
    · exact held.others here
  refine ⟨after, ⟨readies, free, creates, renames, ?_⟩, held.here, same⟩
  have grows : Grows (fun _ _ => False) world.files after := .of_same held.here same
  simp [openError?, grows.place_found there]

end

def Lost (step : WriteStep) : Prop := ∃ lock failure, step = .releasing lock (some failure)

/-- A disturbance makes a step fail, or nothing comes of it. -/
theorem step_disturbed (job : WriteJob) (interrupted : Option Interruption)
    (fault : Option IoError) (world : World) (step : WriteStep) :
    job.step interrupted fault world step = job.step none none world step ∨
      match (job.step interrupted fault world step).1 with
      | .going next => Lost next
      | .done outcome => outcome.isSome := by
  cases step with
  | checking | rechecking =>
      cases interrupted with
      | none => exact Or.inl rfl
      | some interruption => exact Or.inr (by simp [WriteJob.step, Lost])
  | releasing => exact Or.inl rfl
  | _ =>
      cases fault with
      | none => exact Or.inl rfl
      | some cause => exact Or.inr (by simp [WriteJob.step, abandon, discard, Lost])

def Bound (job : WriteJob) (files : Option FileTree) : WriteProgress × World → Prop
  | (.going next, after) => Lost next ∨ job.fate after next = files
  | (.done none, after) => files = some after.files
  | (.done (some _), _) => True

theorem step_bound (job : WriteJob) (interrupted : Option Interruption) (fault : Option IoError)
    {world : World} {step : WriteStep} {files : Option FileTree}
    (bound : Lost step ∨ job.fate world step = files) :
    job.Bound files (job.step interrupted fault world step) := by
  by_cases lost : Lost step
  · obtain ⟨lock, failure, rfl⟩ := lost
    trivial
  obtain rfl := bound.resolve_left lost
  have disturbed := job.step_disturbed interrupted fault world step
  -- A step that nothing disturbs keeps to its fate, and one that is disturbed fails.
  rcases disturbed with same | failing
  · have own : job.OwnFailure step := by
      unfold OwnFailure
      split
      · exact absurd ⟨_, _, rfl⟩ lost
      · trivial
    have keeps := job.step_keepsTo world step own
    rw [same]
    generalize job.step none none world step = result at keeps ⊢
    obtain ⟨next | ⟨_ | failure⟩, after⟩ := result
    · exact Or.inr keeps.2
    · exact keeps
    · trivial
  · generalize job.step interrupted fault world step = result at failing ⊢
    obtain ⟨next | ⟨_ | failure⟩, after⟩ := result
    · exact Or.inl failing
    · simp at failing
    · trivial

end WriteJob

namespace RunPhase

def Bound (compiler : Compiler) (options : Options) (before world : World) : RunPhase → Prop
  | .writing bundle step =>
      WriteJob.Lost step ∨ (options.job bundle).fate world step =
        (options.job bundle).fate before .checking
  | .serialized report => ∃ bundle, options.Bundles compiler before.files bundle ∧
      report = options.report bundle ∧
      (options.job bundle).fate before .checking = some world.files
  | .failed _ => True
  | _ => world.timeless = before.timeless

end RunPhase

namespace Run

section
variable {compiler : Compiler} {around : Interference} {options : Options} {before : World}
  {run next : Run} {world after : World}

theorem Acts.bound (keeps : compiler.KeepsFiles) (acts : Acts compiler around run world next after)
    (sound : Sound compiler options before.files run world)
    (bound : run.phase.Bound compiler options before world) :
    next.phase.Bound compiler options before after := by
  obtain rfl := sound.options_eq
  have holds := sound.phase
  have answered : ∀ {calls source}, world.timeless = before.timeless →
      { world.timeless with files := (compiler calls world.files source).files } =
        before.timeless := by
    intro calls source same
    rw [keeps, ← same]
    rfl
  cases acts with
  | @found units phase _ =>
      rw [phase] at bound
      rcases firstPhase_eq run.options units with first | first <;> rw [first] <;> exact bound
  | accepted phase | taskRefused phase | taskAccepted phase =>
      rw [phase] at bound
      exact answered bound
  | compiled phase | dispatched phase | begun phase | taskMalformed phase | gathered phase =>
      rw [phase] at bound
      exact bound
  | bundled phase made =>
      rw [phase] at bound
      have same : world.timeless = before.timeless := bound
      exact Or.inr (by rw [WriteJob.fate, WriteJob.fate, same])
  | @wrote bundle step other after phase goes =>
      rw [phase] at bound
      have next := (run.options.job bundle).step_bound (run.interruption? world.now .writing)
        (around.fault 0) bound
      rw [goes] at next
      exact next
  | @written bundle step after phase ends =>
      rw [phase] at bound holds
      have next := (run.options.job bundle).step_bound (run.interruption? world.now .writing)
        (around.fault 0) bound
      rw [ends] at next
      exact ⟨bundle, holds.1, rfl, next⟩
  | rested => exact bound
  | _ => trivial

theorem complete_fate (keeps : compiler.KeepsFiles) (around : Nat → Interference)
    (options : Options) (cancelled : Bool) (now : Nat) (world : World) {report : Report}
    (succeeds : (complete compiler around (start options cancelled now) world).1.outcome? =
      some (.ok report)) :
    ∃ bundle, options.Bundles compiler world.files bundle ∧ report = options.report bundle ∧
      (options.job bundle).fate world .checking =
        some (complete compiler around (start options cancelled now) world).2.files := by
  let Holds (run : Run) (after : World) : Prop :=
    Sound compiler options world.files run after ∧
      run.phase.Bound compiler options world after
  have holds : Holds (complete compiler around (start options cancelled now) world).1
      (complete compiler around (start options cancelled now) world).2 := by
    apply complete_keeps Holds
    · intro index run world holds
      apply step_keeps Holds
      · exact fun _ ⟨sound, bound⟩ => ⟨⟨sound.options_eq, sound.phase, sound.state⟩, bound⟩
      · rintro run world delay ⟨sound, bound⟩
        refine ⟨⟨sound.options_eq, sound.phase, sound.state⟩, ?_⟩
        cases phase : run.phase <;> rw [phase] at bound <;> exact bound
      · exact fun acts ⟨sound, bound⟩ => ⟨acts.sound sound, acts.bound keeps sound bound⟩
      · exact holds
    · exact ⟨⟨rfl, rfl, fun phase => by simp [start] at phase⟩, rfl⟩
  have bound := holds.2
  rw [phase_of_ok succeeds] at bound
  exact bound

end

end Run

end TagTemplate
