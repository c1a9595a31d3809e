import TagTemplate.Proofs.Precompile.Ending

/-! What writing comes to when nothing disturbs it. Time plays no part in that. -/

namespace TagTemplate

def World.timeless (world : World) : World := { world with now := 0 }

def WriteStep.timeless : WriteStep → WriteStep
  | .locking file _ _ => .locking file 0 Lock.firstDelay
  | step => step

namespace WriteJob

def fateWithin (job : WriteJob) : Nat → World → WriteStep → Option FileTree
  | 0, _, _ => none
  | steps + 1, world, step =>
      match job.step none none world step with
      | (.going next, after) => job.fateWithin steps after next
      | (.done none, after) => some after.files
      | (.done (some _), _) => none

/-- The files that writing leaves from a step on, when it succeeds; none when it fails. -/
def fate (job : WriteJob) (world : World) (step : WriteStep) : Option FileTree :=
  job.fateWithin (step.remaining 0 0) world.timeless step.timeless

def OwnFailure (job : WriteJob) : WriteStep → Prop
  | .releasing _ (some failure) => ∃ fault, failure = job.failure fault
  | _ => True

def KeepsTo (job : WriteJob) (fate : Option FileTree) : WriteProgress × World → Prop
  | (.going next, after) => job.OwnFailure next ∧ job.fate after next = fate
  | (.done none, after) => fate = some after.files
  | (.done (some failure), _) => fate = none ∧ ∃ fault, failure = job.failure fault

section
variable (job : WriteJob)

theorem fateWithin_locked (steps : Nat) (world : World) (file : Location) (since : Nat)
    (delay : Lock.Delay) (locked : world.isLocked file = true) :
    job.fateWithin steps world (.locking file since delay) = none := by
  induction steps generalizing world delay with
  | zero => rfl
  | succ steps ih =>
      simp only [fateWithin, step, locked, if_true]
      split
      · next next after goes =>
          split at goes
          · simp at goes
          · cases goes
            exact ih (world.after _) _ locked
      · next after ends =>
          split at ends <;> simp at ends
      · rfl

theorem fateWithin_failed (steps : Nat) (world : World) (lock : Location) (failure : Failure) :
    job.fateWithin steps world (.releasing lock (some failure)) = none := by
  cases steps with
  | zero => rfl
  | succ steps => rfl

section
variable {job} {world after later : World} {step next : WriteStep}

theorem fate_eq (job : WriteJob) (world : World) (step : WriteStep) :
    job.fate world step =
      match job.step none none world.timeless step.timeless with
      | (.going next, after) => job.fateWithin (step.remaining 0 0 - 1) after next
      | (.done none, after) => some after.files
      | (.done (some _), _) => none := by
  cases step <;> rfl

theorem keepsTo_going (own : job.OwnFailure next)
    (nearer : step.remaining 0 0 = next.remaining 0 0 + 1)
    (goes : job.step none none world.timeless step.timeless =
      (.going next.timeless, after.timeless)) :
    job.KeepsTo (job.fate world step) (.going next, after) := by
  refine ⟨own, ?_⟩
  rw [fate_eq job world step, goes, nearer]
  rfl

theorem keepsTo_released {lock : Location} {fault : WriteFault}
    (goes : job.step none none world.timeless step.timeless =
      (.going (.releasing lock (some (job.failure fault))), later)) :
    job.KeepsTo (job.fate world step)
      (.going (.releasing lock (some (job.failure fault))), after) := by
  refine ⟨⟨fault, rfl⟩, ?_⟩
  rw [fate_eq job world step, goes]
  exact (job.fateWithin_failed _ _ _ _).trans (job.fateWithin_failed _ _ _ _).symm

theorem keepsTo_failed {fault : WriteFault}
    (ends : job.step none none world.timeless step.timeless =
      (.done (some (job.failure fault)), later)) :
    job.KeepsTo (job.fate world step) (.done (some (job.failure fault)), after) := by
  refine ⟨?_, fault, rfl⟩
  rw [fate_eq job world step, ends]

end

theorem step_keepsTo (world : World) (step : WriteStep) (own : job.OwnFailure step) :
    job.KeepsTo (job.fate world step) (job.step none none world step) := by
  cases step with
  | checking => exact keepsTo_going trivial rfl rfl
  | makingParents =>
      rcases made : world.files.makeDirectories job.directory with ⟨_ | cause, files⟩
      · have goes : ∀ now, job.step none none { world with now } .makingParents =
            (.going .preparingLock, { world with files, now }) := by
          simp [WriteJob.step, made]
        rw [goes world.now]
        exact keepsTo_going trivial rfl (goes 0)
      · have ends : ∀ now, job.step none none { world with now } .makingParents =
            (.done (some (job.failure (.parentDirectory cause))), { world with files, now }) := by
          simp [WriteJob.step, made]
        rw [ends world.now]
        exact keepsTo_failed (ends 0)
  | preparingLock =>
      rcases made : Lock.prepare (Lock.pathFor job.output) world.files with ⟨_ | cause, files⟩
      · have goes : ∀ now, job.step none none { world with now } .preparingLock =
            (.going .openingLock, { world with files, now }) := by
          simp [WriteJob.step, made]
        rw [goes world.now]
        exact keepsTo_going trivial rfl (goes 0)
      · have ends : ∀ now, job.step none none { world with now } .preparingLock =
            (.done (some (job.failure (.lock cause))), { world with files, now }) := by
          simp [WriteJob.step, made]
        rw [ends world.now]
        exact keepsTo_failed (ends 0)
  | openingLock =>
      rcases made : Lock.openFile (Lock.pathFor job.output) world.files with cause | ⟨file, files⟩
      · have ends : ∀ now, job.step none none { world with now } .openingLock =
            (.done (some (job.failure (.lock cause))), { world with now }) := by
          simp [WriteJob.step, made]
        rw [ends world.now]
        exact keepsTo_failed (ends 0)
      · have goes : ∀ now, job.step none none { world with now } .openingLock =
            (.going (.locking file now Lock.firstDelay), { world with files, now }) := by
          simp [WriteJob.step, made]
        rw [goes world.now]
        exact keepsTo_going trivial (by simp [WriteStep.remaining]) (goes 0)
  | locking file since delay =>
      cases locked : world.isLocked file with
      | true =>
          have vain : job.fate world (.locking file since delay) = none :=
            job.fateWithin_locked _ world.timeless file _ _ locked
          rw [vain]
          simp only [WriteJob.step, locked, if_true]
          split
          · exact ⟨rfl, _, rfl⟩
          · exact ⟨trivial, job.fateWithin_locked _ world.timeless file _ _ locked⟩
      | false =>
          have goes : ∀ now since delay,
              job.step none none { world with now } (.locking file since delay) =
                (.going (.rechecking file), { world with now }.lock file) := by
            intro now since delay
            have free : { world with now }.isLocked file = false := locked
            simp [WriteJob.step, free]
          rw [goes world.now]
          exact keepsTo_going trivial (by simp [WriteStep.remaining]) (goes 0 _ _)
  | rechecking lock => exact keepsTo_going trivial rfl rfl
  | creating lock =>
      rcases made : world.files.makeTemporary job.directory with cause | ⟨temporary, files⟩
      · have goes : ∀ now, job.step none none { world with now } (.creating lock) =
            job.abandon lock .create cause { world with now } := by
          simp [WriteJob.step, made]
        rw [goes world.now]
        exact keepsTo_released (goes 0)
      · have goes : ∀ now, job.step none none { world with now } (.creating lock) =
            (.going (.filling lock temporary), { world with files, now }) := by
          simp [WriteJob.step, made]
        rw [goes world.now]
        exact keepsTo_going trivial rfl (goes 0)
  | filling lock temporary => exact keepsTo_going trivial rfl rfl
  | syncing lock temporary => exact keepsTo_going trivial rfl rfl
  | persisting lock temporary =>
      cases made : world.files.rename temporary job.output with
      | error cause =>
          have goes : ∀ now, job.step none none { world with now } (.persisting lock temporary) =
              job.discard lock temporary .persist cause { world with now } := by
            simp [WriteJob.step, made]
          rw [goes world.now]
          exact keepsTo_released (goes 0)
      | ok files =>
          have goes : ∀ now, job.step none none { world with now } (.persisting lock temporary) =
              (.going (.openingDirectory lock), { world with files, now }) := by
            simp [WriteJob.step, made]
          rw [goes world.now]
          exact keepsTo_going trivial rfl (goes 0)
  | openingDirectory lock =>
      cases made : world.files.openError? job.directory with
      | some cause =>
          have goes : ∀ now, job.step none none { world with now } (.openingDirectory lock) =
              job.abandon lock .openDirectory cause { world with now } := by
            simp [WriteJob.step, made]
          rw [goes world.now]
          exact keepsTo_released (goes 0)
      | none =>
          have goes : ∀ now, job.step none none { world with now } (.openingDirectory lock) =
              (.going (.syncingDirectory lock), { world with now }) := by
            simp [WriteJob.step, made]
          rw [goes world.now]
          exact keepsTo_going trivial rfl (goes 0)
  | syncingDirectory lock => exact keepsTo_going trivial rfl rfl
  | releasing lock outcome =>
      cases outcome with
      | none => rfl
      | some failure =>
          obtain ⟨fault, rfl⟩ := own
          exact keepsTo_failed rfl

end

end WriteJob

end TagTemplate
