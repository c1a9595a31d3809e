import TagTemplate.Proofs.Precompile.Steps

/-! Every run ends: each step brings it nearer to a bound on the steps that it still takes. -/

namespace TagTemplate

namespace WriteStep

def Timely (now : Nat) : WriteStep → Prop
  | .locking _ since _ => since ≤ now
  | _ => True

theorem remaining_pos (lockTimeout now : Nat) (step : WriteStep) :
    0 < step.remaining lockTimeout now := by
  cases step <;> simp only [remaining] <;> omega

theorem remaining_later (lockTimeout : Nat) {now later : Nat} (order : now ≤ later)
    (step : WriteStep) : step.remaining lockTimeout later ≤ step.remaining lockTimeout now := by
  cases step with
  | locking file since delay =>
      simp only [remaining]
      omega
  | _ => simp [remaining]

theorem Timely.later {now later : Nat} (order : now ≤ later) {step : WriteStep}
    (timely : step.Timely now) : step.Timely later := by
  cases step with
  | locking file since delay => exact Nat.le_trans timely order
  | _ => trivial

end WriteStep

namespace WriteJob

def Nears (job : WriteJob) (bound : Nat) : WriteProgress × World → Prop
  | (.going next, after) =>
      next.Timely after.now ∧ next.remaining job.lockTimeout after.now < bound
  | (.done _, _) => True

theorem step_nears (job : WriteJob) (interrupted : Option Interruption) (fault : Option IoError)
    (world : World) (step : WriteStep) (timely : step.Timely world.now) :
    job.Nears (step.remaining job.lockTimeout world.now)
      (job.step interrupted fault world step) := by
  have released : ∀ lock outcome after, 2 < step.remaining job.lockTimeout world.now →
      job.Nears (step.remaining job.lockTimeout world.now)
        (.going (.releasing lock outcome), after) :=
    fun _ _ _ more => ⟨trivial, more⟩
  cases step with
  | checking =>
      cases interrupted with
      | some interruption => trivial
      | none => exact ⟨trivial, Nat.lt_succ_self _⟩
  | makingParents =>
      cases fault with
      | some cause => trivial
      | none =>
          simp only [WriteJob.step]
          split
          · trivial
          · exact ⟨trivial, Nat.lt_succ_self _⟩
  | preparingLock =>
      cases fault with
      | some cause => trivial
      | none =>
          simp only [WriteJob.step]
          split
          · trivial
          · exact ⟨trivial, Nat.lt_succ_self _⟩
  | openingLock =>
      cases fault with
      | some cause => trivial
      | none =>
          simp only [WriteJob.step]
          split
          · trivial
          · refine ⟨Nat.le_refl _, ?_⟩
            simp only [WriteStep.remaining]
            omega
  | locking file since delay =>
      have waiting : since ≤ world.now := timely
      cases fault with
      | some cause => trivial
      | none =>
          simp only [WriteJob.step]
          split
          · split
            · trivial
            · next pause room =>
                have bounds := Lock.pause?_bounds room
                simp only [Nears, WriteStep.Timely, WriteStep.remaining, World.after]
                omega
          · refine ⟨trivial, ?_⟩
            simp only [WriteStep.remaining]
            omega
  | rechecking lock =>
      cases interrupted with
      | some interruption => exact released _ _ _ (by simp [WriteStep.remaining])
      | none => exact ⟨trivial, Nat.lt_succ_self _⟩
  | creating lock =>
      cases fault with
      | some cause => exact released _ _ _ (by simp [WriteStep.remaining])
      | none =>
          simp only [WriteJob.step]
          split
          · exact released _ _ _ (by simp [WriteStep.remaining])
          · exact ⟨trivial, Nat.lt_succ_self _⟩
  | filling lock temporary =>
      cases fault with
      | some cause => exact released _ _ _ (by simp [WriteStep.remaining])
      | none => exact ⟨trivial, Nat.lt_succ_self _⟩
  | syncing lock temporary =>
      cases fault with
      | some cause => exact released _ _ _ (by simp [WriteStep.remaining])
      | none => exact ⟨trivial, Nat.lt_succ_self _⟩
  | persisting lock temporary =>
      cases fault with
      | some cause => exact released _ _ _ (by simp [WriteStep.remaining])
      | none =>
          simp only [WriteJob.step]
          split
          · exact released _ _ _ (by simp [WriteStep.remaining])
          · exact ⟨trivial, Nat.lt_succ_self _⟩
  | openingDirectory lock =>
      cases fault with
      | some cause => exact released _ _ _ (by simp [WriteStep.remaining])
      | none =>
          simp only [WriteJob.step]
          split
          · exact released _ _ _ (by simp [WriteStep.remaining])
          · exact ⟨trivial, Nat.lt_succ_self _⟩
  | syncingDirectory lock =>
      cases fault with
      | some cause => exact released _ _ _ (by simp [WriteStep.remaining])
      | none => exact released _ _ _ (by simp [WriteStep.remaining])
  | releasing lock outcome => trivial

end WriteJob

namespace Run

structure Ordered (run : Run) (world : World) : Prop where
  timely : ∀ {bundle step}, run.phase = .writing bundle step → step.Timely world.now
  paired : ∀ {units tasks aborted}, run.phase = .together units tasks aborted →
    tasks.length = units.length

theorem mem_ready {tasks : List Task} {index : Nat} :
    index ∈ ready tasks ↔
      tasks[index]? = some .waiting ∨ ∃ since, tasks[index]? = some (.running since) := by
  simp only [ready, List.mem_append, List.mem_filter, List.mem_range]
  constructor
  · rintro (⟨_, waits⟩ | ⟨_, runs⟩)
    · split at waits
      · next found => exact Or.inl found
      · simp at waits
    · split at runs
      · next since found => exact Or.inr ⟨since, found⟩
      · simp at runs
  · rintro (waits | ⟨since, runs⟩)
    · obtain ⟨bound, _⟩ := List.getElem?_eq_some_iff.mp waits
      exact Or.inl ⟨bound, by simp only [waits]⟩
    · obtain ⟨bound, _⟩ := List.getElem?_eq_some_iff.mp runs
      exact Or.inr ⟨bound, by simp only [runs]⟩

theorem picked?_ready {around : Interference} {tasks : List Task} {index : Nat}
    (picked : picked? around tasks = some index) :
    tasks[index]? = some .waiting ∨ ∃ since, tasks[index]? = some (.running since) :=
  mem_ready.mp (List.mem_of_getElem? picked)

theorem waiting_of_idle {around : Interference} {units : List TemplateUnit} {tasks : List Task}
    {index : Nat} (paired : tasks.length = units.length)
    (picked : picked? around tasks = some index)
    (idle : ∀ since template, tasks[index]? = some (.running since) →
      units[index]? ≠ some template) : tasks[index]? = some .waiting := by
  rcases picked?_ready picked with waits | ⟨since, runs⟩
  · exact waits
  · obtain ⟨bound, _⟩ := List.getElem?_eq_some_iff.mp runs
    have unit : units[index]? = some units[index] := List.getElem?_eq_getElem (paired ▸ bound)
    exact absurd unit (idle since _ runs)

theorem tasksSteps_set {tasks : List Task} {index : Nat} {old : Task} (new : Task)
    (found : tasks[index]? = some old) :
    tasksSteps (tasks.set index new) + taskSteps old = tasksSteps tasks + taskSteps new := by
  induction tasks generalizing index with
  | nil => simp at found
  | cons task rest ih =>
      cases index with
      | zero =>
          simp only [List.getElem?_cons_zero, Option.some.injEq] at found
          simp only [List.set_cons_zero, tasksSteps, found]
          omega
      | succ index =>
          have later : rest[index]? = some old := by simpa using found
          have tail := ih later
          simp only [List.set_cons_succ, tasksSteps]
          omega

theorem tasksSteps_waiting (units : List TemplateUnit) :
    tasksSteps (units.map fun _ => .waiting) = 2 * units.length := by
  induction units with
  | nil => rfl
  | cons unit rest ih =>
      simp only [List.map_cons, tasksSteps, taskSteps, ih, List.length_cons]
      omega

section
variable {compiler : Compiler} {around : Interference} {run next : Run} {world after : World}

theorem Acts.started (acts : Acts compiler around run world next after) :
    next.phase ≠ .discovering := by
  cases acts with
  | @found units phase found =>
      rcases firstPhase_eq run.options units with first | first <;> simp [first]
  | rested ended =>
      intro phase
      simp [outcome?, phase] at ended
  | _ => simp [fail, withTask]

theorem Ordered.together {units : List TemplateUnit} {tasks : List Task} {aborted : Bool}
    (same : next.phase = .together units tasks aborted) (paired : tasks.length = units.length) :
    Ordered next after := by
  constructor
  · intro bundle step writes
    simp [same] at writes
  · intro others otherTasks stops joined
    rw [same] at joined
    cases joined
    exact paired

theorem Ordered.writing {bundle : Bundle} {step : WriteStep}
    (same : next.phase = .writing bundle step) (timely : step.Timely after.now) :
    Ordered next after := by
  constructor
  · intro other otherStep writes
    rw [same] at writes
    cases writes
    exact timely
  · intro units tasks aborted joined
    simp [same] at joined

theorem Acts.ordered (acts : Acts compiler around run world next after)
    (ordered : Ordered run world) : Ordered next after := by
  cases acts with
  | @found units phase found =>
      rcases firstPhase_eq run.options units with first | first <;>
        exact ⟨fun same => by simp [first] at same, fun same => by simp [first] at same⟩
  | dispatched phase free => exact .together rfl (by simp)
  | begun phase picked idle => exact .together rfl (by simpa using ordered.paired phase)
  | taskMalformed phase runs unit fault =>
      exact .together rfl (by simpa using ordered.paired phase)
  | taskRefused phase runs unit sound answer =>
      exact .together rfl (by simpa using ordered.paired phase)
  | taskAccepted phase runs unit sound answer =>
      exact .together rfl (by simpa using ordered.paired phase)
  | bundled phase made => exact .writing rfl trivial
  | @wrote bundle step next after phase goes =>
      have nears := (run.options.job bundle).step_nears (run.interruption? world.now .writing)
        (around.fault 0) world step (ordered.timely phase)
      rw [goes] at nears
      exact .writing rfl nears.1
  | rested ended => exact ordered
  | _ => exact ⟨fun same => by simp [fail] at same, fun same => by simp [fail] at same⟩

theorem remaining_pos (begun : run.phase ≠ .discovering) (going : run.outcome? = none)
    (now : Nat) : 0 < run.remaining now := by
  unfold remaining
  cases phase : run.phase with
  | discovering => exact absurd phase begun
  | writing bundle step => exact step.remaining_pos _ _
  | serialized report => simp [outcome?, phase] at going
  | failed failure => simp [outcome?, phase] at going
  | _ =>
      simp only
      omega

theorem remaining_later (run : Run) {now later : Nat} (order : now ≤ later) :
    run.remaining later ≤ run.remaining now := by
  unfold remaining
  cases run.phase with
  | writing bundle step => exact step.remaining_later _ order
  | _ => exact Nat.le_refl _

theorem Acts.remaining_lt (acts : Acts compiler around run world next after)
    (ordered : Ordered run world) (begun : run.phase ≠ .discovering)
    (going : run.outcome? = none) : next.remaining after.now < run.remaining world.now := by
  cases acts with
  | unfound phase _ => exact absurd phase begun
  | found phase _ => exact absurd phase begun
  | compiled phase all =>
      simp only [remaining, phase]
      omega
  | @accepted units bodies template body phase unit free sound answer =>
      obtain ⟨bound, _⟩ := List.getElem?_eq_some_iff.mp unit
      simp only [remaining, phase, called, enter, List.length_append, List.length_singleton,
        WriteStep.remaining]
      omega
  | @dispatched units phase free =>
      simp only [remaining, phase, enter, WriteStep.remaining, tasksSteps_waiting]
      omega
  | @begun units tasks aborted index phase picked idle =>
      have waits := waiting_of_idle (ordered.paired phase) picked idle
      have steps := tasksSteps_set (if aborted || run.cancelled || run.isLate world.now
        then .skipped else .running world.now) waits
      have fewer : taskSteps (if aborted || run.cancelled || run.isLate world.now
          then .skipped else .running world.now) < taskSteps .waiting := by
        split <;> simp [taskSteps]
      simp only [remaining, phase, withTask, WriteStep.remaining]
      omega
  | @taskMalformed units tasks aborted index since template diagnostic phase runs unit fault =>
      have steps := tasksSteps_set (.done (.error (.rejected template.name diagnostic))) runs
      simp only [taskSteps] at steps
      simp only [remaining, phase, withTask, WriteStep.remaining]
      omega
  | @taskRefused units tasks aborted index since template diagnostic phase runs unit sound answer =>
      have steps := tasksSteps_set (.done (.error (.rejected template.name diagnostic))) runs
      simp only [taskSteps] at steps
      simp only [remaining, phase, withTask, called, WriteStep.remaining]
      omega
  | @taskAccepted units tasks aborted index since template body phase runs unit sound answer =>
      have steps := tasksSteps_set (.done (.ok body)) runs
      simp only [taskSteps] at steps
      simp only [remaining, phase, withTask, called, WriteStep.remaining]
      omega
  | gathered phase idle unfailed all =>
      simp only [remaining, phase]
      omega
  | bundled phase made =>
      simp only [remaining, phase, enter, WriteStep.remaining]
      omega
  | @wrote bundle step next after phase goes =>
      have nears := (run.options.job bundle).step_nears (run.interruption? world.now .writing)
        (around.fault 0) world step (ordered.timely phase)
      rw [goes] at nears
      simp only [remaining, phase]
      exact nears.2
  | rested ended => simp [going] at ended
  | _ => exact remaining_pos begun going world.now

theorem step_ordered (compiler : Compiler) (around : Interference) (run : Run) (world : World)
    (ordered : Ordered run world) :
    Ordered (run.step compiler around world).1 (run.step compiler around world).2 := by
  apply step_keeps Ordered
  · intro run world cancelled ordered
    exact ⟨ordered.timely, ordered.paired⟩
  · intro run world delay ordered
    exact ⟨fun phase => (ordered.timely phase).later (Nat.le_add_right _ _), ordered.paired⟩
  · intro around run world next after acts ordered
    exact acts.ordered ordered
  · exact ordered

theorem step_remaining (compiler : Compiler) (around : Interference) (run : Run) (world : World)
    (ordered : Ordered run world) (begun : run.phase ≠ .discovering)
    (going : run.outcome? = none) :
    (run.step compiler around world).1.remaining (run.step compiler around world).2.now <
      run.remaining world.now := by
  obtain ⟨next, acts, stepped⟩ := step_acts compiler around run world
  have later : Ordered (run.seeing around) (world.after around.delay) :=
    ⟨fun phase => (ordered.timely phase).later (Nat.le_add_right _ _), ordered.paired⟩
  rw [stepped]
  exact Nat.lt_of_lt_of_le (acts.remaining_lt later begun going)
    (remaining_later run (Nat.le_add_right _ _))

theorem step_started (compiler : Compiler) (around : Interference) (run : Run) (world : World) :
    (run.step compiler around world).1.phase ≠ .discovering := by
  obtain ⟨next, acts, stepped⟩ := step_acts compiler around run world
  rw [stepped]
  exact acts.started

theorem advance_ends (compiler : Compiler) (around : Nat → Interference) (steps : Nat) (run : Run)
    (world : World) (ordered : Ordered run world) (begun : run.phase ≠ .discovering)
    (enough : run.remaining world.now ≤ steps) :
    (advance compiler around steps run world).1.outcome?.isSome := by
  induction steps generalizing around run world with
  | zero =>
      cases ended : run.outcome? with
      | some outcome => simp [advance, ended]
      | none =>
          have := remaining_pos begun ended world.now
          omega
  | succ steps ih =>
      rw [advance]
      split
      · next ended => exact ended
      · next going =>
          have nearer := step_remaining compiler (around 0) run world ordered begun
            (by simpa using going)
          have orderly := step_ordered compiler (around 0) run world ordered
          have started := step_started compiler (around 0) run world
          exact ih (fun index => around (index + 1)) (run.step compiler (around 0) world).1
            (run.step compiler (around 0) world).2 orderly started (by omega)

/-- Every run ends, whatever happens around its steps. -/
theorem complete_ended (compiler : Compiler) (around : Nat → Interference) {run : Run}
    (world : World) (begins : run.phase = .discovering) :
    (complete compiler around run world).1.outcome?.isSome := by
  have fresh : Ordered run world :=
    ⟨fun phase => by simp [begins] at phase, fun phase => by simp [begins] at phase⟩
  exact advance_ends compiler (fun index => around (index + 1)) _ _ _
    (step_ordered compiler (around 0) run world fresh)
    (step_started compiler (around 0) run world) (Nat.le_refl _)

theorem complete_ends (compiler : Compiler) (around : Nat → Interference) (options : Options)
    (cancelled : Bool) (now : Nat) (world : World) :
    (complete compiler around (start options cancelled now) world).1.outcome?.isSome :=
  complete_ended compiler around world rfl

end

end Run

end TagTemplate
