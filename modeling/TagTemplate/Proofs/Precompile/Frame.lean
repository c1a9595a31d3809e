import TagTemplate.Proofs.Precompile.Course
import TagTemplate.Proofs.Precompile.Holding
import TagTemplate.Proofs.Precompile.Provision
import TagTemplate.Proofs.Precompile.Ready
import TagTemplate.Proofs.Precompile.Soundness

/-! All that a run changes in the files, however it ends. -/

namespace TagTemplate

open FileTree

inductive FileTree.Framed (output : Path) (before after : FileTree) : Prop
  | ready (provided : Provided output before after)
  | replaced {ready target content} (provided : Provided output before ready)
      (aimed : ready.renameTarget output = .ok target)
      (replaced : Replaced ready after target content)

namespace WriteJob

def owns (job : WriteJob) (temporary : Location) : Prop :=
  temporary.getLast? ≠ job.output.fileName?

def Frames (job : WriteJob) (before files : FileTree) : WriteStep → Prop
  | .checking => files = before
  | .makingParents | .preparingLock | .openingLock => Provided job.output before files
  | step => ∃ plain lock, Provided job.output before plain ∧ plain.Opens job.output lock ∧
      job.Settles plain files job.owns step

section
variable (job : WriteJob) {before plain files : FileTree} {step : WriteStep}

theorem frames_of_settles {lock : Location} (provided : Provided job.output before plain)
    (opens : plain.Opens job.output lock) (settles : job.Settles plain files job.owns step) :
    job.Frames before files step := by
  cases step with
  | checking | makingParents | preparingLock | openingLock => exact settles.elim
  | _ => exact ⟨plain, lock, provided, opens, settles⟩

theorem Settled.rewrites_or_same {outcome : Option Failure}
    (settled : job.Settled plain files outcome) : job.Rewrites plain files ∨ plain.Same files := by
  cases outcome with
  | none => exact .inl settled
  | some failure =>
      simp only [Settled] at settled
      split at settled
      · exact .inl settled
      · exact .inr settled

theorem Settled.framed {outcome : Option Failure} (provided : Provided job.output before plain)
    (settled : job.Settled plain files outcome) : Framed job.output before files := by
  rcases settled.rewrites_or_same with ⟨target, aimed, replaced⟩ | same
  · exact .replaced provided aimed replaced
  · exact .ready (provided.grow same False.elim)

theorem Settled.free {outcome : Option Failure} {temporary : Location} (owns : job.owns temporary)
    (free : plain.node? temporary = none) (settled : job.Settled plain files outcome) :
    files.node? temporary = none := by
  rcases settled.rewrites_or_same with ⟨target, aimed, replaced⟩ | same
  · obtain ⟨inner, name, rfl, named⟩ := renameTarget_name aimed
    rw [replaced.others, free]
    rintro rfl
    exact owns (by simp [named])
  · cases new : files.node? temporary with
    | none => rfl
    | some node => exact (same.fresh free new).elim

theorem makeDirectories_provided (provided : Provided job.output before files) :
    Provided job.output before (files.makeDirectories job.directory).2 :=
  makeAll_keeps job.directory.ancestors
    (fun among ok provided => provided.makeDirectory (job.above_of_made among ok) ok) provided

theorem prepare_provided (provided : Provided job.output before files) :
    Provided job.output before (Lock.prepare (Lock.pathFor job.output) files).2 :=
  prepare_keeps (Lock.pathFor job.output)
    (fun next among ok provided => provided.makeDirectory (Lock.above_of_made next among ok) ok)
    provided

theorem step_owns {lock : Location} (opens : plain.Opens job.output lock)
    (interrupted : Option Interruption) (fault : Option IoError) (world : World)
    (settles : job.Settles plain world.files job.owns step) :
    job.SettlesOn plain (job.step interrupted fault world step).2.files job.owns
      (job.step interrupted fault world step).1 :=
  job.step_settles (temporary_ne opens) interrupted fault world step settles

def FramesOn (before files : FileTree) : WriteProgress → Prop
  | .going step => job.Frames before files step
  | .done _ => Framed job.output before files

theorem step_frames (interrupted : Option Interruption) (fault : Option IoError) (world : World)
    (step : WriteStep) (frames : job.Frames before world.files step) :
    job.FramesOn before (job.step interrupted fault world step).2.files
      (job.step interrupted fault world step).1 := by
  -- once the lock is open, the files that are ready stay the same ones
  have ready : ∀ {step : WriteStep}, (∃ plain lock, Provided job.output before plain ∧
        plain.Opens job.output lock ∧ job.Settles plain world.files job.owns step) →
      job.FramesOn before (job.step interrupted fault world step).2.files
        (job.step interrupted fault world step).1 := by
    rintro step ⟨plain, lock, provided, opens, settles⟩
    have later := job.step_owns opens interrupted fault world settles
    cases progress : (job.step interrupted fault world step).1 with
    | going next =>
        rw [progress] at later
        exact job.frames_of_settles provided opens later
    | done outcome =>
        rw [progress] at later
        exact Settled.framed job provided later
  cases step with
  | checking =>
      obtain rfl : world.files = before := frames
      cases interrupted with
      | none => exact Provided.refl job.output world.files
      | some interruption => exact .ready (Provided.refl job.output world.files)
  | makingParents =>
      have provided : Provided job.output before world.files := frames
      cases fault with
      | some cause => exact .ready provided
      | none =>
          have grown := job.makeDirectories_provided provided
          simp only [WriteJob.step]
          split
          · next cause files made =>
              simp only [made] at grown
              exact .ready grown
          · next files made =>
              simp only [made] at grown
              exact grown
  | preparingLock =>
      have provided : Provided job.output before world.files := frames
      cases fault with
      | some cause => exact .ready provided
      | none =>
          have grown := job.prepare_provided provided
          simp only [WriteJob.step]
          split
          · next cause files made =>
              simp only [made] at grown
              exact .ready grown
          · next files made =>
              simp only [made] at grown
              exact grown
  | openingLock =>
      have provided : Provided job.output before world.files := frames
      cases fault with
      | some cause => exact .ready provided
      | none =>
          simp only [WriteJob.step]
          split
          · exact .ready provided
          · next lock files opened =>
              have ok := openFile_of_lock opened
              exact ⟨files, lock, provided.openFile ok, place_of_openFile ok, rfl⟩
  | _ => exact ready frames

end

end WriteJob

namespace RunPhase

def precedesWriting : RunPhase → Bool
  | .discovering | .compiling _ _ | .dispatching _ | .together _ _ _ | .aggregating _ _
  | .writing _ .checking => true
  | .writing _ _ | .serialized _ | .failed _ => false

def Frames (options : Options) (before files : FileTree) : RunPhase → Prop
  | .discovering | .compiling _ _ | .dispatching _ | .together _ _ _ | .aggregating _ _ =>
      files = before
  | .writing bundle step => (options.job bundle).Frames before files step
  | .serialized _ | .failed _ => Framed options.output before files

def Settles (options : Options) (plain files : FileTree) : RunPhase → Prop
  | .discovering | .compiling _ _ | .dispatching _ | .together _ _ _ | .aggregating _ _ => False
  | .writing bundle step =>
      (options.job bundle).Settles plain files (options.job bundle).owns step
  | .serialized _ | .failed _ =>
      ∃ bundle outcome, (options.job bundle).Settled plain files outcome

theorem Frames.unchanged {options : Options} {before files : FileTree} {phase : RunPhase}
    (frames : phase.Frames options before files) (early : phase.precedesWriting = true) :
    files = before := by
  unfold precedesWriting at early
  split at early
  case h_7 | h_8 | h_9 => simp at early
  all_goals exact frames

end RunPhase

def WriteProgress.phase (options : Options) (bundle : Bundle) : WriteProgress → RunPhase
  | .going step => .writing bundle step
  | .done (some failure) => .failed failure
  | .done none => .serialized (options.report bundle)

namespace Run

section
variable {compiler : Compiler} {around : Interference} {options : Options}
  {before plain : FileTree} {run next : Run} {world after : World}

theorem Acts.writes {bundle : Bundle} {step : WriteStep}
    (acts : Acts compiler around run world next after) (phase : run.phase = .writing bundle step) :
    next.options = run.options ∧ ∃ progress,
      (run.options.job bundle).step (run.interruption? world.now .writing) (around.fault 0) world
        step = (progress, after) ∧ next.phase = progress.phase run.options bundle := by
  cases acts with
  | wrote same goes =>
      cases phase.symm.trans same
      exact ⟨rfl, _, goes, rfl⟩
  | unwritten same ends =>
      cases phase.symm.trans same
      exact ⟨rfl, _, ends, rfl⟩
  | written same ends =>
      cases phase.symm.trans same
      exact ⟨rfl, _, ends, rfl⟩
  | rested ended => simp [outcome?, phase] at ended
  | unfound same | found same | compiled same | stopped same | malformed same | refused same
  | accepted same | undispatched same | dispatched same | begun same | taskMalformed same
  | taskRefused same | taskAccepted same | gatheredFailure same | gathered same
  | gatheredSkips same | unbundled same | bundled same => simp [phase] at same

theorem Acts.unchanged (keeps : compiler.KeepsFiles)
    (acts : Acts compiler around run world next after)
    (early : run.phase.precedesWriting = true) : after.files = world.files := by
  have writing : ∀ {bundle step}, run.phase = .writing bundle step →
      after.files = world.files := by
    intro bundle step phase
    obtain ⟨-, progress, stepped, -⟩ := acts.writes phase
    obtain rfl : step = .checking := by
      rw [phase] at early
      cases step with
      | checking => rfl
      | _ => simp [RunPhase.precedesWriting] at early
    cases interrupted : run.interruption? world.now .writing with
    | none =>
        rw [interrupted] at stepped
        cases stepped
        rfl
    | some interruption =>
        rw [interrupted] at stepped
        cases stepped
        rfl
  cases acts with
  | wrote phase | unwritten phase | written phase => exact writing phase
  | refused | accepted | taskRefused | taskAccepted => exact keeps _ _ _
  | _ => rfl

theorem Acts.frames (keeps : compiler.KeepsFiles)
    (acts : Acts compiler around run world next after) (same : run.options = options)
    (frames : run.phase.Frames options before world.files) :
    next.options = options ∧ next.phase.Frames options before after.files := by
  subst same
  have framed : ∀ {files : FileTree}, files = before →
      Framed run.options.output before files := by
    rintro files rfl
    exact .ready (Provided.refl run.options.output files)
  have writing : ∀ {bundle step}, run.phase = .writing bundle step →
      next.options = run.options ∧ next.phase.Frames run.options before after.files := by
    intro bundle step phase
    obtain ⟨same, progress, stepped, goes⟩ := acts.writes phase
    rw [phase] at frames
    have later := (run.options.job bundle).step_frames (run.interruption? world.now .writing)
      (around.fault 0) world step frames
    rw [stepped] at later
    rw [goes]
    rcases progress with step | (_ | failure)
    · exact ⟨same, later⟩
    · exact ⟨same, later⟩
    · exact ⟨same, later⟩
  cases acts with
  | wrote phase | unwritten phase | written phase => exact writing phase
  | unfound phase | stopped phase | malformed phase | undispatched phase | gatheredFailure phase
  | gatheredSkips phase | unbundled phase =>
      rw [phase] at frames
      exact ⟨rfl, framed frames⟩
  | @found units phase found =>
      rw [phase] at frames
      rcases firstPhase_eq run.options units with first | first
      · rw [first]
        exact ⟨rfl, frames⟩
      · rw [first]
        exact ⟨rfl, frames⟩
  | compiled phase | dispatched phase | begun phase | taskMalformed phase | gathered phase
  | bundled phase =>
      rw [phase] at frames
      exact ⟨rfl, frames⟩
  | refused phase =>
      rw [phase] at frames
      exact ⟨rfl, framed ((keeps _ _ _).trans frames)⟩
  | accepted phase | taskRefused phase | taskAccepted phase =>
      rw [phase] at frames
      exact ⟨rfl, (keeps _ _ _).trans frames⟩
  | rested ended => exact ⟨rfl, frames⟩

theorem Acts.settles {lock : Location} (opens : plain.Opens options.output lock)
    (acts : Acts compiler around run world next after) (same : run.options = options)
    (settles : run.phase.Settles options plain world.files) :
    next.options = options ∧ next.phase.Settles options plain after.files := by
  subst same
  have writing : ∀ {bundle step}, run.phase = .writing bundle step →
      next.options = run.options ∧ next.phase.Settles run.options plain after.files := by
    intro bundle step phase
    obtain ⟨same, progress, stepped, goes⟩ := acts.writes phase
    rw [phase] at settles
    have later := (run.options.job bundle).step_owns opens (run.interruption? world.now .writing)
      (around.fault 0) world settles
    rw [stepped] at later
    rw [goes]
    rcases progress with step | (_ | failure)
    · exact ⟨same, later⟩
    · exact ⟨same, bundle, none, later⟩
    · exact ⟨same, bundle, some failure, later⟩
  cases acts with
  | wrote phase | unwritten phase | written phase => exact writing phase
  | rested ended => exact ⟨rfl, settles⟩
  | unfound phase | found phase | compiled phase | stopped phase | malformed phase | refused phase
  | accepted phase | undispatched phase | dispatched phase | begun phase | taskMalformed phase
  | taskRefused phase | taskAccepted phase | gatheredFailure phase | gathered phase
  | gatheredSkips phase | unbundled phase | bundled phase =>
      rw [phase] at settles
      exact False.elim settles

theorem advance_frames (keeps : compiler.KeepsFiles) (around : Nat → Interference)
    (options : Options) (cancelled : Bool) (now : Nat) (world : World) (count : Nat) :
    (advance compiler around count (start options cancelled now) world).1.options = options ∧
      (advance compiler around count (start options cancelled now) world).1.phase.Frames options
        world.files
        (advance compiler around count (start options cancelled now) world).2.files := by
  apply advance_keeps fun run after =>
    run.options = options ∧ run.phase.Frames options world.files after.files
  · intro index run after frames
    exact step_keeps _ (fun _ frames => frames) (fun _ frames => frames)
      (fun acts frames => acts.frames keeps frames.1 frames.2) (around index) run after frames
  · exact ⟨rfl, rfl⟩

theorem settles_of_staging {temporary : Location} {files : FileTree}
    (same : run.options = options) (frames : run.phase.Frames options before files)
    (hand : run.hand.temporary? = some temporary) :
    ∃ plain lock, Provided options.output before plain ∧ plain.Opens options.output lock ∧
      run.phase.Settles options plain files ∧ plain.node? temporary = none ∧
      temporary.getLast? ≠ options.output.fileName? := by
  subst same
  cases phase : run.phase with
  | writing bundle step =>
      rw [hand_writing phase] at hand
      rw [phase] at frames
      cases step with
      | filling _ other =>
          obtain rfl : other = temporary := Option.some.inj hand
          obtain ⟨plain, file, provided, opens, settles⟩ := frames
          exact ⟨plain, file, provided, opens, settles, settles.2.choose_spec.free, settles.1⟩
      | syncing _ other | persisting _ other =>
          obtain rfl : other = temporary := Option.some.inj hand
          obtain ⟨plain, file, provided, opens, settles⟩ := frames
          exact ⟨plain, file, provided, opens, settles, settles.2.free, settles.1⟩
      | _ => simp [WriteStep.hand, Hand.temporary?] at hand
  | _ => simp [Run.hand, phase, Hand.temporary?] at hand

theorem step_unchanged (keeps : compiler.KeepsFiles) (around : Interference)
    (early : run.phase.precedesWriting = true) :
    (run.step compiler around world).2.files = world.files := by
  obtain ⟨next, acts, -⟩ := step_acts compiler around run world
  exact (acts.unchanged keeps early :)

theorem complete_early (keeps : compiler.KeepsFiles) (around : Nat → Interference)
    (options : Options) (cancelled : Bool) (now : Nat) (world : World) {count : Nat}
    (early : (advance compiler around count
      (start options cancelled now) world).1.phase.precedesWriting = true)
    (ends : (advance compiler around (count + 1)
      (start options cancelled now) world).1.outcome?.isSome) :
    complete compiler around (start options cancelled now) world =
        advance compiler around (count + 1) (start options cancelled now) world ∧
      (complete compiler around (start options cancelled now) world).2.files = world.files := by
  have going : (advance compiler around count
      (start options cancelled now) world).1.outcome? = none := by
    unfold outcome?
    split
    · next report phase => simp [phase, RunPhase.precedesWriting] at early
    · next failure phase => simp [phase, RunPhase.precedesWriting] at early
    · rfl
  obtain ⟨more, finished⟩ := complete_after compiler around world rfl going
  have last := finished.trans (advance_rests compiler around ends more)
  refine ⟨last, ?_⟩
  rw [last, advance_succ, if_neg (by simp [going]), step_unchanged keeps _ early]
  exact (advance_frames keeps around options cancelled now world count).2.unchanged early

theorem complete_unstaged (keeps : compiler.KeepsFiles) (around : Nat → Interference)
    (options : Options) (cancelled : Bool) (now : Nat) (world : World) {count : Nat}
    {temporary : Location}
    (hand : (advance compiler around count
      (start options cancelled now) world).1.hand.temporary? = some temporary) :
    world.files.node? temporary = none ∧
      (complete compiler around (start options cancelled now) world).2.files.node? temporary =
        none := by
  obtain ⟨same, frames⟩ := advance_frames keeps around options cancelled now world count
  obtain ⟨plain, file, provided, opens, settles, free, owns⟩ :=
    settles_of_staging same frames hand
  constructor
  · cases old : world.files.node? temporary with
    | none => rfl
    | some node =>
        have still := provided.kept old
        simp [free] at still
  have going : (advance compiler around count
      (start options cancelled now) world).1.outcome? = none := by
    unfold outcome?
    split
    · next report phase => simp [Run.hand, phase, Hand.temporary?] at hand
    · next failure phase => simp [Run.hand, phase, Hand.temporary?] at hand
    · rfl
  obtain ⟨more, finished⟩ := complete_after compiler around world rfl going
  have ends := complete_ends compiler around options cancelled now world
  -- at the end the files are compared with those that were ready when the temporary file was made
  obtain ⟨-, late⟩ := advance_keeps_from compiler
    (fun run after => run.options = options ∧ run.phase.Settles options plain after.files) around
    (fun index run after settles => step_keeps _ (fun _ settles => settles)
      (fun _ settles => settles) (fun acts settles => acts.settles opens settles.1 settles.2)
      (around index) run after settles)
    ⟨same, settles⟩ (1 + more)
  rw [← Nat.add_assoc, ← finished] at late
  cases phase : (complete compiler around (start options cancelled now) world).1.phase with
  | serialized report | failed failure =>
      rw [phase] at late
      obtain ⟨bundle, outcome, settled⟩ := late
      exact WriteJob.Settled.free (options.job bundle) owns free settled
  | _ => simp [outcome?, phase] at ends

/-- All that a run changes in the files are its output, its lock and directories that are missing
above it, and nothing at all if it fails before it may write. No temporary file stays. -/
theorem complete_frame (keeps : compiler.KeepsFiles) (around : Nat → Interference)
    (options : Options) (cancelled : Bool) (now : Nat) (world : World) :
    let course count := advance compiler around count (start options cancelled now) world
    let ended := complete compiler around (start options cancelled now) world
    ended.1.outcome?.isSome ∧ Framed options.output world.files ended.2.files ∧
      (∀ count failure, (course count).1.phase.precedesWriting = true →
        (course (count + 1)).1.outcome? = some (.error failure) →
        ended.1.outcome? = some (.error failure) ∧ ended.2.files = world.files) ∧
      ∀ count temporary, (course count).1.hand.temporary? = some temporary →
        world.files.node? temporary = none ∧ ended.2.files.node? temporary = none := by
  intro course ended
  have ends : ended.1.outcome?.isSome :=
    complete_ends compiler around options cancelled now world
  have frames : ∀ count, (course count).1.options = options ∧
      (course count).1.phase.Frames options world.files (course count).2.files :=
    advance_frames keeps around options cancelled now world
  have whole : ended = course (duration compiler around (start options cancelled now) world) :=
    complete_eq_advance compiler around world rfl
  refine ⟨ends, ?_, ?_, ?_⟩
  · have holds := (frames (duration compiler around (start options cancelled now) world)).2
    rw [← whole] at holds
    cases phase : ended.1.phase with
    | serialized report | failed failure =>
        rw [phase] at holds
        exact holds
    | _ => simp [outcome?, phase] at ends
  · intro count failure early fails
    obtain ⟨last, same⟩ := complete_early keeps around options cancelled now world early
      (Option.isSome_of_mem fails)
    exact ⟨(congrArg (·.1.outcome?) last).trans fails, same⟩
  · intro count temporary hand
    exact complete_unstaged keeps around options cancelled now world hand

end

def bareFiles : FileTree := ⟨[([['a']], .file ByteArray.empty false)], []⟩

def founding : Options :=
  ⟨.current, "", ⟨false, [['n'], ['x']]⟩, ["a"], .plain, false, none, 0⟩

def foundingCourse (compile : String → Except Diagnostic String) : Nat → Run × World :=
  fun count => advance (.ofFunction compile) (fun _ => .none) count (start founding false 0)
    ⟨bareFiles, [], 0⟩

def foundingEnd (compile : String → Except Diagnostic String) : Run × World :=
  complete (.ofFunction compile) (fun _ => .none) (start founding false 0) ⟨bareFiles, [], 0⟩

theorem founding_frame :
    (∃ temporary, (foundingCourse .ok 11).1.hand.temporary? = some temporary ∧
      (foundingEnd .ok).2.files.node? temporary = none) ∧
    Framed founding.output bareFiles (foundingEnd .ok).2.files ∧
    (foundingCourse (fun _ => .error ⟨"", none⟩) 1).1.phase.precedesWriting = true ∧
    (foundingCourse (fun _ => .error ⟨"", none⟩) 2).1.outcome? =
      some (.error (.rejected "a" ⟨"", none⟩)) ∧
    (foundingEnd fun _ => .error ⟨"", none⟩).2.files = bareFiles := by
  have early : (foundingCourse (fun _ => .error ⟨"", none⟩) 1).1.phase.precedesWriting = true := by
    decide +kernel
  have fails : (foundingCourse (fun _ => .error ⟨"", none⟩) 2).1.outcome? =
      some (.error (.rejected "a" ⟨"", none⟩)) := by
    decide +kernel
  have stages : (foundingCourse .ok 11).1.hand.temporary?.isSome := by decide +kernel
  obtain ⟨temporary, staged⟩ := Option.isSome_iff_exists.mp stages
  obtain ⟨_, framed, _, gone⟩ := complete_frame (Compiler.keepsFiles_ofFunction .ok)
    (fun _ => .none) founding false 0 ⟨bareFiles, [], 0⟩
  obtain ⟨_, _, unchanged, _⟩ := complete_frame
    (Compiler.keepsFiles_ofFunction fun _ => .error ⟨"", none⟩) (fun _ => .none) founding false 0
    ⟨bareFiles, [], 0⟩
  exact ⟨⟨temporary, staged, (gone 11 temporary staged).2⟩, framed, early, fails,
    (unchanged 1 _ early fails).2⟩

def hangingFiles : FileTree :=
  ⟨[(["a".toList], .file ByteArray.empty false), ([".x.lock".toList], .link (.ofString "r"))], []⟩

def hanging : Run × World :=
  complete (.ofFunction .ok) (fun _ => .none)
    (start ⟨.current, "", .ofString "x", ["a"], .plain, false, none, 0⟩ false 0)
    ⟨hangingFiles, [], 0⟩

/-- Opening the lock makes the file that the link leads to, which is neither in the place of the
output nor in that of the lock. -/
theorem hanging_made :
    hanging.1.state = .serialized ∧
      (hangingFiles.renameTarget (.ofString "x")).toOption = some [['x']] ∧
      (hangingFiles.renameTarget (Lock.pathFor (.ofString "x"))).toOption =
        some [".x.lock".toList] ∧
      hangingFiles.find? (.ofString "r") = none ∧
      (hanging.2.files.read (.ofString "r")).toOption = some ByteArray.empty := by
  refine ⟨by decide +kernel, by decide +kernel, by decide +kernel, ?_, by decide +kernel⟩
  exact Option.isNone_iff_eq_none.mp (by decide +kernel)

end Run

end TagTemplate
