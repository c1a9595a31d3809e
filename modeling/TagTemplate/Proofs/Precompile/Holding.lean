import TagTemplate.Proofs.Precompile.Ending
import TagTemplate.Proofs.Precompile.Writing

/-! What a run that writes has in its hands, and what a step does to that and to the world. -/

namespace TagTemplate

open FileTree

inductive Hand where
  | empty
  | waiting (file : Location)
  | holding (lock : Location)
  | staging (lock temporary : Location) (content : ByteArray)

namespace Hand

def opened? : Hand → Option Location
  | .empty => none
  | .waiting file => some file
  | .holding lock | .staging lock _ _ => some lock

def lock? : Hand → Option Location
  | .empty | .waiting _ => none
  | .holding lock | .staging lock _ _ => some lock

def temporary? : Hand → Option Location
  | .staging _ temporary _ => some temporary
  | _ => none

end Hand

def WriteStep.hand (text : String) : WriteStep → Hand
  | .checking | .makingParents | .preparingLock | .openingLock => .empty
  | .locking file _ _ => .waiting file
  | .rechecking lock | .creating lock | .openingDirectory lock | .syncingDirectory lock
  | .releasing lock _ => .holding lock
  | .filling lock temporary => .staging lock temporary ByteArray.empty
  | .syncing lock temporary | .persisting lock temporary =>
      .staging lock temporary text.toUTF8

def WriteProgress.hand (text : String) : WriteProgress → Hand
  | .going step => step.hand text
  | .done _ => .empty

def WriteStep.replaced? (text : String) : WriteStep → WriteProgress → Option String
  | .persisting _ _, .going (.openingDirectory _) => some text
  | _, _ => none

theorem WriteStep.replaced?_done (text : String) (step : WriteStep) (outcome : Option Failure) :
    step.replaced? text (.done outcome) = none := by
  cases step <;> rfl

/-- All that a step can do to a world and to what is in a run's hands, and the text that it puts in
the place of an output, if it does. -/
inductive Moves (output : Path) (before after : World) : Hand → Hand → Option String → Prop
  | rests (hand) (files : after.files = before.files) (locks : after.locks = before.locks) :
      Moves output before after hand hand none
  | raises (raised : before.files.Raised after.files) (locks : after.locks = before.locks) :
      Moves output before after .empty .empty none
  | opens {file} (ok : before.files.openFile (Lock.pathFor output) = .ok (file, after.files))
      (locks : after.locks = before.locks) : Moves output before after .empty (.waiting file) none
  | yields (file) (files : after.files = before.files) (locks : after.locks = before.locks) :
      Moves output before after (.waiting file) .empty none
  | takes {file} (free : before.isLocked file = false) (files : after.files = before.files)
      (locks : after.locks = file :: before.locks) :
      Moves output before after (.waiting file) (.holding file) none
  | stages (lock) {directory temporary}
      (ok : before.files.makeTemporary directory = .ok (temporary, after.files))
      (locks : after.locks = before.locks) :
      Moves output before after (.holding lock) (.staging lock temporary ByteArray.empty) none
  | fills (lock) {temporary} (old new)
      (files : after.files = before.files.put temporary (.file new false))
      (locks : after.locks = before.locks) :
      Moves output before after (.staging lock temporary old) (.staging lock temporary new) none
  | drops (lock) {temporary} (content) (files : after.files = before.files.erase temporary)
      (locks : after.locks = before.locks) :
      Moves output before after (.staging lock temporary content) (.holding lock) none
  | replaces (lock) {temporary} (text)
      (ok : before.files.rename temporary output = .ok after.files)
      (locks : after.locks = before.locks) :
      Moves output before after (.staging lock temporary text.toUTF8) (.holding lock) (some text)
  | releases (lock) (files : after.files = before.files)
      (locks : after.locks = before.locks.erase lock) :
      Moves output before after (.holding lock) .empty none

theorem Moves.later {output : Path} {world after : World} {delay : Nat} {hand other : Hand}
    {replaced : Option String}
    (moves : Moves output (world.after delay) after hand other replaced) :
    Moves output world after hand other replaced := by
  cases moves with
  | rests _ files locks => exact .rests _ files locks
  | raises raised locks => exact .raises raised locks
  | opens ok locks => exact .opens ok locks
  | yields file files locks => exact .yields file files locks
  | takes free files locks => exact .takes free files locks
  | stages lock ok locks => exact .stages lock ok locks
  | fills lock old new files locks => exact .fills lock old new files locks
  | drops lock content files locks => exact .drops lock content files locks
  | replaces lock text ok locks => exact .replaces lock text ok locks
  | releases lock files locks => exact .releases lock files locks

theorem Moves.locks {output : Path} {before after : World} {hand other : Hand}
    {replaced : Option String} (moves : Moves output before after hand other replaced)
    {locks : List Location} (held : before.locks = hand.lock?.toList ++ locks) :
    after.locks = other.lock?.toList ++ locks := by
  cases moves with
  | releases lock _ unlocks => simp [unlocks, held, Hand.lock?]
  | takes _ _ locked => simp [locked, held, Hand.lock?]
  | rests _ _ locks | raises _ locks | opens _ locks | yields _ _ locks | stages _ _ locks
  | fills _ _ _ _ locks | drops _ _ _ locks | replaces _ _ _ locks => exact locks.trans held

namespace WriteJob

theorem step_moves (job : WriteJob) (interrupted : Option Interruption) (fault : Option IoError)
    (world : World) (step : WriteStep) :
    Moves job.output world (job.step interrupted fault world step).2 (step.hand job.text)
      ((job.step interrupted fault world step).1.hand job.text)
      (step.replaced? job.text (job.step interrupted fault world step).1) := by
  cases step with
  | checking => cases interrupted <;> exact .rests _ rfl rfl
  | makingParents =>
      cases fault with
      | some cause => exact .rests _ rfl rfl
      | none =>
          have raised := world.files.makeDirectories_raised job.directory
          simp only [WriteJob.step]
          split
          · next cause files made =>
              simp only [made] at raised
              exact .raises raised rfl
          · next files made =>
              simp only [made] at raised
              exact .raises raised rfl
  | preparingLock =>
      cases fault with
      | some cause => exact .rests _ rfl rfl
      | none =>
          have raised := prepare_raised (Lock.pathFor job.output) world.files
          simp only [WriteJob.step]
          split
          · next cause files made =>
              simp only [made] at raised
              exact .raises raised rfl
          · next files made =>
              simp only [made] at raised
              exact .raises raised rfl
  | openingLock =>
      cases fault with
      | some cause => exact .rests _ rfl rfl
      | none =>
          simp only [WriteJob.step]
          split
          · exact .rests _ rfl rfl
          · next file files opened => exact .opens (openFile_of_lock opened) rfl
  | locking file since delay =>
      cases fault with
      | some cause => exact .yields file rfl rfl
      | none =>
          simp only [WriteJob.step]
          split
          · split
            · exact .yields file rfl rfl
            · exact .rests _ rfl rfl
          · next free => exact .takes (by simpa using free) rfl rfl
  | rechecking lock => cases interrupted <;> exact .rests _ rfl rfl
  | creating lock =>
      cases fault with
      | some cause => exact .rests _ rfl rfl
      | none =>
          simp only [WriteJob.step]
          split
          · exact .rests _ rfl rfl
          · next temporary files made => exact .stages lock made rfl
  | filling lock temporary =>
      cases fault with
      | some cause => exact .drops lock _ rfl rfl
      | none => exact .fills lock _ _ rfl rfl
  | syncing lock temporary =>
      cases fault with
      | some cause => exact .drops lock _ rfl rfl
      | none => exact .rests _ rfl rfl
  | persisting lock temporary =>
      cases fault with
      | some cause => exact .drops lock _ rfl rfl
      | none =>
          simp only [WriteJob.step]
          cases renamed : world.files.rename temporary job.output with
          | error cause => exact .drops lock _ rfl rfl
          | ok files => exact .replaces lock job.text renamed rfl
  | openingDirectory lock =>
      cases fault with
      | some cause => exact .rests _ rfl rfl
      | none =>
          simp only [WriteJob.step]
          split <;> exact .rests _ rfl rfl
  | syncingDirectory lock => cases fault <;> exact .rests _ rfl rfl
  | releasing lock outcome => exact .releases lock rfl rfl

end WriteJob

namespace Run

def hand (run : Run) : Hand :=
  match run.phase with
  | .writing bundle step => step.hand (run.textOf bundle)
  | _ => .empty

def replaced? (run next : Run) : Option String :=
  match run.phase, next.phase with
  | .writing bundle step, .writing _ after => step.replaced? (run.textOf bundle) (.going after)
  | _, _ => none

section
variable {compiler : Compiler} {around : Interference} {run next : Run} {world after : World}
  {bundle : Bundle} {step : WriteStep}

theorem hand_writing (phase : run.phase = .writing bundle step) :
    run.hand = step.hand (run.options.job bundle).text := by
  rw [hand, phase]
  rfl

theorem hand_idle (idle : ∀ bundle step, run.phase ≠ .writing bundle step) : run.hand = .empty := by
  unfold hand
  split
  · next phase => exact absurd phase (idle _ _)
  · rfl

theorem replaced?_writing {other : WriteStep} (phase : run.phase = .writing bundle step)
    (goes : next.phase = .writing bundle other) :
    run.replaced? next = step.replaced? (run.options.job bundle).text (.going other) := by
  rw [replaced?, phase, goes]
  rfl

theorem replaced?_ended (ended : next.outcome?.isSome) : run.replaced? next = none := by
  unfold replaced?
  split
  · next goes => simp [outcome?, goes] at ended
  · rfl

theorem moves_idle (idle : ∀ bundle step, run.phase ≠ .writing bundle step)
    (options : next.options = run.options) (hand : next.hand = .empty)
    (files : after.files = world.files) (locks : after.locks = world.locks) :
    next.options = run.options ∧
      Moves run.options.output world after run.hand next.hand (run.replaced? next) := by
  have unchanged : run.replaced? next = none := by
    unfold replaced?
    split
    · next phase _ => exact absurd phase (idle _ _)
    · rfl
  rw [hand_idle idle, hand, unchanged]
  exact ⟨options, .rests _ files locks⟩

theorem Acts.moves (keeps : compiler.KeepsFiles)
    (acts : Acts compiler around run world next after) :
    next.options = run.options ∧
      Moves run.options.output world after run.hand next.hand (run.replaced? next) := by
  cases acts with
  | @wrote bundle step other after phase goes =>
      have moves := (run.options.job bundle).step_moves (run.interruption? world.now .writing)
        (around.fault 0) world step
      rw [goes] at moves
      refine ⟨rfl, ?_⟩
      rw [hand_writing phase, replaced?_writing phase rfl]
      exact moves
  | @unwritten bundle step failure after phase ends =>
      have moves := (run.options.job bundle).step_moves (run.interruption? world.now .writing)
        (around.fault 0) world step
      rw [ends, WriteStep.replaced?_done] at moves
      refine ⟨rfl, ?_⟩
      rw [hand_writing phase, replaced?_ended rfl]
      exact moves
  | @written bundle step after phase ends =>
      have moves := (run.options.job bundle).step_moves (run.interruption? world.now .writing)
        (around.fault 0) world step
      rw [ends, WriteStep.replaced?_done] at moves
      refine ⟨rfl, ?_⟩
      rw [hand_writing phase, replaced?_ended rfl]
      exact moves
  | rested ended =>
      have idle : ∀ bundle step, run.phase ≠ .writing bundle step := by
        intro bundle step phase
        simp [outcome?, phase] at ended
      exact moves_idle idle rfl (hand_idle idle) rfl rfl
  | @found units phase found =>
      refine moves_idle (by simp [phase]) rfl ?_ rfl rfl
      rcases firstPhase_eq run.options units with first | first <;> rw [first] <;> rfl
  | refused phase unit free sound answer =>
      exact moves_idle (by simp [phase]) rfl rfl (keeps _ _ _) rfl
  | accepted phase unit free sound answer =>
      exact moves_idle (by simp [phase]) rfl rfl (keeps _ _ _) rfl
  | taskRefused phase runs unit sound answer =>
      exact moves_idle (by simp [phase]) rfl rfl (keeps _ _ _) rfl
  | taskAccepted phase runs unit sound answer =>
      exact moves_idle (by simp [phase]) rfl rfl (keeps _ _ _) rfl
  | unfound phase | compiled phase | stopped phase | malformed phase | undispatched phase
  | dispatched phase | begun phase | taskMalformed phase | gatheredFailure phase
  | gathered phase | gatheredSkips phase | unbundled phase | bundled phase =>
      exact moves_idle (by simp [phase]) rfl rfl rfl rfl

theorem step_moves (keeps : compiler.KeepsFiles) (around : Interference) (run : Run)
    (world : World) :
    (run.step compiler around world).1.options = run.options ∧
      Moves run.options.output world (run.step compiler around world).2 run.hand
        (run.step compiler around world).1.hand
        (run.replaced? (run.step compiler around world).1) := by
  obtain ⟨next, acts, stepped⟩ := step_acts compiler around run world
  obtain ⟨options, moves⟩ := acts.moves keeps
  rw [stepped]
  exact ⟨options, moves.later⟩

theorem complete_locks (keeps : compiler.KeepsFiles) (around : Nat → Interference)
    (options : Options) (cancelled : Bool) (now : Nat) (world : World) :
    (complete compiler around (start options cancelled now) world).2.locks = world.locks := by
  have holds := complete_keeps (fun run after => after.locks = run.hand.lock?.toList ++ world.locks)
    around (start options cancelled now) world
    (fun index run after held => (step_moves keeps (around index) run after).2.locks held) rfl
  have ends : (complete compiler around (start options cancelled now) world).1.outcome?.isSome :=
    complete_ends compiler around options cancelled now world
  rw [hand_idle] at holds
  · exact holds
  · intro bundle step phase
    simp [outcome?, phase] at ends

end

end Run

end TagTemplate
