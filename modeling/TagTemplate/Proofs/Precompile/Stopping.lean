import TagTemplate.Proofs.Discovery.Listed
import TagTemplate.Proofs.Precompile.Transitions

/-! What a run does that is cancelled, or whose time is over: it goes on to its next look at the
signal, and no further. -/

namespace TagTemplate

def WriteStep.looksAhead : WriteStep → Bool
  | .checking | .makingParents | .preparingLock | .openingLock | .locking _ _ _
  | .rechecking _ => true
  | _ => false

def WriteFault.isEarly : WriteFault → Bool
  | .parentDirectory _ | .lock _ => true
  | _ => false

def WriteStep.Barred (Excuses : Failure → Prop) : WriteStep → Prop
  | .releasing _ (some failure) => Excuses failure
  | step => step.looksAhead = true

def WriteProgress.Barred (Excuses : Failure → Prop) : WriteProgress → Prop
  | .going step => step.Barred Excuses
  | .done (some failure) => Excuses failure
  | .done none => False

theorem WriteJob.step_now (job : WriteJob) (interrupted : Option Interruption)
    (fault : Option IoError) (world : World) (step : WriteStep) :
    world.now ≤ (job.step interrupted fault world step).2.now := by
  cases step with
  | checking | rechecking => cases interrupted <;> exact Nat.le_refl _
  | releasing => exact Nat.le_refl _
  | filling | syncing | syncingDirectory => cases fault <;> exact Nat.le_refl _
  | makingParents | preparingLock | openingLock | creating | persisting | openingDirectory =>
      cases fault with
      | some cause => exact Nat.le_refl _
      | none =>
          simp only [WriteJob.step]
          split <;> exact Nat.le_refl _
  | locking file since delay =>
      cases fault with
      | some cause => exact Nat.le_refl _
      | none =>
          simp only [WriteJob.step]
          split
          · split
            · exact Nat.le_refl _
            · exact Nat.le_add_right _ _
          · exact Nat.le_refl _

theorem WriteJob.step_barred (job : WriteJob) (interrupted : Option Interruption)
    (fault : Option IoError) (world : World) {step : WriteStep} {Excuses : Failure → Prop}
    (cancelled : ∀ interruption, Excuses (.cancelled interruption))
    (unready : ∀ fault : WriteFault, fault.isEarly = true → Excuses (job.failure fault))
    (stops : ∀ lock, step = .rechecking lock → interrupted.isSome = true)
    (barred : step.Barred Excuses) : (job.step interrupted fault world step).1.Barred Excuses := by
  cases step with
  | checking =>
      cases interrupted with
      | some interruption => exact cancelled interruption
      | none => rfl
  | rechecking lock =>
      cases interrupted with
      | some interruption => exact cancelled interruption
      | none => exact absurd (stops lock rfl) (by simp)
  | makingParents | preparingLock | openingLock =>
      cases fault with
      | some cause => exact unready _ rfl
      | none =>
          simp only [WriteJob.step]
          split
          · exact unready _ rfl
          · rfl
  | locking file since delay =>
      cases fault with
      | some cause => exact unready _ rfl
      | none =>
          simp only [WriteJob.step]
          split
          · split
            · exact unready _ rfl
            · rfl
          · rfl
  | releasing lock outcome =>
      cases outcome with
      | some failure => exact barred
      | none => exact absurd barred (by simp [WriteStep.Barred, WriteStep.looksAhead])
  | _ => exact absurd barred (by simp [WriteStep.Barred, WriteStep.looksAhead])

namespace Run

def isStopped (run : Run) (now : Nat) : Bool := run.cancelled || run.isLate now

/-- Why a run fails that is stopped before its last look at the signal: its templates are not found,
one of them is rejected, or the output cannot be made ready; and otherwise because it is stopped. -/
inductive Excused (compiler : Compiler) (output : Path)
    (found : Except Failure (List TemplateUnit)) : Failure → Prop
  | undiscovered {failure} (refused : found = .error failure) :
      Excused compiler output found failure
  | rejected {units template failure} (all : found = .ok units) (member : template ∈ units)
      (rejects : Rejects compiler template failure) : Excused compiler output found failure
  | unready (fault : WriteFault) (early : fault.isEarly = true) :
      Excused compiler output found (.outputNotWritten output fault)
  | stopped (interruption) : Excused compiler output found (.cancelled interruption)

end Run

def RunPhase.Barred (Excuses : Failure → Prop) : RunPhase → Prop
  | .writing _ step => step.Barred Excuses
  | .serialized _ => False
  | .failed failure => Excuses failure
  | _ => True

def RunPhase.Apart : RunPhase → Prop
  | .together _ _ _ => False
  | _ => True

namespace Run

section
variable {compiler : Compiler} {around : Interference} {run next : Run} {world after : World}

theorem interruption?_isSome (run : Run) (now : Nat) (stage : Stage) :
    (run.interruption? now stage).isSome = run.isStopped now := by
  unfold interruption? isStopped
  split
  · next cancelled => simp [cancelled]
  · next uncancelled =>
      split
      · next late => simp [late]
      · next early => simp [uncancelled, early]

theorem isLate_later {now later : Nat} (order : now ≤ later) (late : run.isLate now = true) :
    run.isLate later = true := by
  unfold isLate at late ⊢
  split at late
  · next deadline limit =>
      simp only [decide_eq_true_eq] at late ⊢
      omega
  · simp at late

structure Continues (run : Run) (now : Nat) (next : Run) (later : Nat) : Prop where
  cancelled : run.cancelled = true → next.cancelled = true
  deadline : next.deadline = run.deadline
  time : now ≤ later

theorem Continues.isStopped {now later : Nat} (continues : Continues run now next later)
    (stopped : run.isStopped now = true) : next.isStopped later = true := by
  rw [Run.isStopped, Bool.or_eq_true] at stopped ⊢
  rcases stopped with cancelled | late
  · exact Or.inl (continues.cancelled cancelled)
  · have later := isLate_later continues.time late
    unfold isLate at later ⊢
    rw [continues.deadline]
    exact Or.inr later

theorem Continues.wrote {bundle : Bundle} {step : WriteStep} {progress : WriteProgress}
    (goes : (run.options.job bundle).step (run.interruption? world.now .writing) (around.fault 0)
      world step = (progress, after)) (cancelled : run.cancelled = true → next.cancelled = true)
    (deadline : next.deadline = run.deadline) : Continues run world.now next after.now := by
  have time := (run.options.job bundle).step_now (run.interruption? world.now .writing)
    (around.fault 0) world step
  rw [goes] at time
  exact ⟨cancelled, deadline, time⟩

theorem Acts.continues (acts : Acts compiler around run world next after) :
    Continues run world.now next after.now := by
  cases acts with
  | refused | accepted =>
      exact ⟨fun cancelled => by simp [fail, enter, called, cancelled], rfl, Nat.le_add_right _ _⟩
  | taskRefused | taskAccepted =>
      exact ⟨fun cancelled => by simp [withTask, called, cancelled], rfl, Nat.le_max_left _ _⟩
  | wrote phase goes => exact .wrote goes id rfl
  | unwritten phase ends => exact .wrote ends id rfl
  | written phase ends => exact .wrote ends id rfl
  | _ => exact ⟨id, rfl, Nat.le_refl _⟩

theorem isStopped_seeing (around : Interference) (stopped : run.isStopped world.now = true) :
    (run.seeing around).isStopped (world.after around.delay).now = true := by
  have continues : Continues run world.now (run.seeing around) (world.after around.delay).now :=
    ⟨fun already => by simp [seeing, already], rfl, Nat.le_add_right _ _⟩
  exact continues.isStopped stopped

theorem isStopped_step (compiler : Compiler)
    (seen : (run.seeing around).isStopped (world.after around.delay).now = true) :
    (run.step compiler around world).1.isStopped (run.step compiler around world).2.now = true := by
  obtain ⟨next, acts, stepped⟩ := step_acts compiler around run world
  obtain ⟨cancelled, deadline, time⟩ := acts.continues
  have continues : Continues (run.seeing around) (world.after around.delay).now
      (run.step compiler around world).1 (run.step compiler around world).2.now := by
    rw [stepped]
    exact ⟨fun already => by simp [cancelled already], deadline, time⟩
  exact continues.isStopped seen

theorem Acts.calls_le (acts : Acts compiler around run world next after) :
    next.calls ≤ run.calls + 1 := by
  cases acts with
  | refused | accepted | taskRefused | taskAccepted => exact Nat.le_refl _
  | _ => exact Nat.le_succ _

theorem firstPhase_apart (options : Options) (units : List TemplateUnit) :
    (firstPhase options units).Apart := by
  rcases firstPhase_eq options units with first | first
  · rw [first]
    trivial
  · rw [first]
    trivial

theorem Acts.idle (acts : Acts compiler around run world next after)
    (stopped : run.isStopped world.now = true) (apart : run.phase.Apart) :
    next.calls = run.calls ∧ next.phase.Apart := by
  have hindered : ∀ stage, run.interruption? world.now stage ≠ none := by
    intro stage free
    have seen := interruption?_isSome run world.now stage
    simp [free, stopped] at seen
  cases acts with
  | found phase found => exact ⟨rfl, firstPhase_apart _ _⟩
  | malformed phase unit free fault => exact absurd free (hindered _)
  | refused phase unit free sound answer => exact absurd free (hindered _)
  | accepted phase unit free sound answer => exact absurd free (hindered _)
  | dispatched phase free => exact absurd free (hindered _)
  | begun phase | taskMalformed phase | taskRefused phase | taskAccepted phase =>
      rw [phase] at apart
      exact apart.elim
  | rested ended => exact ⟨rfl, apart⟩
  | _ => exact ⟨rfl, trivial⟩

section
variable {options : Options} {before : FileTree} {units : List TemplateUnit}
  {past : List RunState}

theorem finds_nodup (proper : before.Proper) (finds : options.Finds before units) :
    (units.map (·.name)).Nodup := by
  unfold Options.Finds at finds
  by_cases scan : options.templates = []
  · rw [scan] at finds
    exact Discovery.scan_nodup proper finds
  · rw [TagTemplate.discover, if_neg (by simpa using scan)] at finds
    exact Discovery.listed_nodup (by simp) finds

theorem insertAll_of_finds {bodies : List String} (proper : before.Proper)
    (finds : options.Finds before units) (paired : units.length = bodies.length) :
    ∃ bundle, Bundle.empty.insertAll ((units.map (·.name)).zip bodies) = .ok bundle := by
  have once : ((Bundle.empty.entries ++ (units.map (·.name)).zip bodies).map (·.1)).Nodup := by
    have names : ((units.map (·.name)).zip bodies).map (·.1) = units.map (·.name) :=
      List.map_fst_zip (by simp [paired])
    rw [Bundle.empty, List.nil_append, names]
    exact finds_nodup proper finds
  exact ⟨_, Bundle.insertAll_of_nodup once⟩

theorem barred_wrote {found : Except Failure (List TemplateUnit)} {bundle : Bundle}
    {step : WriteStep} {progress : WriteProgress}
    (goes : (run.options.job bundle).step (run.interruption? world.now .writing) (around.fault 0)
      world step = (progress, after))
    (stops : ∀ lock, step = .rechecking lock → run.isStopped world.now = true)
    (barred : step.Barred (Excused compiler run.options.output found)) :
    progress.Barred (Excused compiler run.options.output found) := by
  have seen : ∀ lock, step = .rechecking lock →
      (run.interruption? world.now .writing).isSome = true := by
    intro lock last
    rw [interruption?_isSome]
    exact stops lock last
  have next := (run.options.job bundle).step_barred (run.interruption? world.now .writing)
    (around.fault 0) world .stopped .unready seen barred
  rw [goes] at next
  exact next

theorem Acts.barred (acts : Acts compiler around run world next after)
    {found : Except Failure (List TemplateUnit)} (proper : before.Proper)
    (sound : Sound compiler options before run world) (all : found = .ok units)
    (travelled : Travelled options units past run)
    (stops : ∀ bundle lock, run.phase = .writing bundle (.rechecking lock) →
      run.isStopped world.now = true)
    (barred : run.phase.Barred (Excused compiler options.output found)) :
    next.phase.Barred (Excused compiler options.output found) := by
  obtain ⟨rfl, entered, _, reached⟩ := travelled
  have holds := sound.phase
  cases acts with
  | unfound phase | found phase =>
      rw [phase] at reached
      exact reached.elim
  | stopped => exact .stopped _
  | undispatched => exact .stopped _
  | gatheredSkips => exact .stopped _
  | malformed phase unit free fault =>
      rw [phase] at reached
      obtain ⟨rfl, _⟩ := reached
      exact .rejected all (List.mem_of_getElem? unit) (.malformed fault)
  | refused phase unit free sound answer =>
      rw [phase] at reached
      obtain ⟨rfl, _⟩ := reached
      exact .rejected all (List.mem_of_getElem? unit) (.refused sound _ _ answer)
  | gatheredFailure phase idle failed =>
      rw [phase] at reached holds
      obtain ⟨rfl, _⟩ := reached
      obtain ⟨template, member, rejects⟩ := rejects_of_failed holds.2.2 failed
      exact .rejected all member rejects
  | unbundled phase refused =>
      rw [phase] at holds
      obtain ⟨bundle, made⟩ := insertAll_of_finds proper holds.1 holds.2.2.length_eq
      simp [made] at refused
  | wrote phase goes =>
      rw [phase] at barred
      exact barred_wrote goes (fun lock last => stops _ lock (last ▸ phase)) barred
  | unwritten phase ends =>
      rw [phase] at barred
      exact barred_wrote ends (fun lock last => stops _ lock (last ▸ phase)) barred
  | written phase ends =>
      rw [phase] at barred
      exact (barred_wrote ends (fun lock last => stops _ lock (last ▸ phase)) barred).elim
  | rested ended => exact barred
  | _ => trivial

end

end

end Run

end TagTemplate
