import TagTemplate.Proofs.Precompile.Hindrance
import TagTemplate.Proofs.Precompile.Transitions

/-! The templates that a run hands its compiler, and the one that it fails for. -/

namespace TagTemplate

structure Handing where
  template : TemplateUnit
  result : Except Diagnostic String

namespace Run

def handing? (compiler : Compiler) (run : Run) (world : World) (next : Run) : Option Handing :=
  if next.calls = run.calls then none
  else
    match run.phase with
    | .compiling units bodies =>
        units[bodies.length]?.map fun template =>
          ⟨template, (compiler run.calls world.files template.source).result⟩
    | _ => none

def handings (compiler : Compiler) (around : Nat → Interference) (run : Run) (world : World) :
    Nat → List Handing
  | 0 => []
  | steps + 1 =>
      handings compiler around run world steps ++
        (handing? compiler (advance compiler around steps run world).1
          (advance compiler around steps run world).2
          (advance compiler around (steps + 1) run world).1).toList

end Run

def Passed (log : List Handing) : Prop := ∀ handing ∈ log, ∃ body, handing.result = .ok body

/-- Templates are handed over in their order, each once and only if its structure is right, and none
after one that was refused. -/
structure InTurn (units : List TemplateUnit) (log : List Handing) : Prop where
  order : log.map (·.template) = units.take log.length
  valid : ∀ handing ∈ log, validate handing.template.source = .ok ()
  earlier : Passed log.dropLast

def Failure.isRejection : Failure → Bool
  | .rejected _ _ => true
  | _ => false

inductive FailsNext (units : List TemplateUnit) : List Handing → Failure → Prop
  | malformed {log template diagnostic} (passed : Passed log)
      (next : units[log.length]? = some template)
      (fault : structureFault? template.source = some diagnostic) :
      FailsNext units log (.rejected template.name diagnostic)
  | refused {log template diagnostic} (passed : Passed log)
      (next : units[log.length]? = some template) :
      FailsNext units (log ++ [⟨template, .error diagnostic⟩]) (.rejected template.name diagnostic)

def WriteStep.Unrelated (step : WriteStep) : Prop :=
  ∀ lock failure, step = .releasing lock (some failure) → failure.isRejection = false

theorem WriteJob.step_unrelated (job : WriteJob) {interrupted : Option Interruption}
    {fault : Option IoError} {world : World} {step : WriteStep} (unrelated : step.Unrelated)
    {failure : Failure}
    (fails : (job.step interrupted fault world step).1.failure? = some failure) :
    failure.isRejection = false := by
  cases job.step_hindered interrupted fault world step fails with
  | before lost => exact unrelated _ _ lost
  | interrupted interruption => rfl
  | fault reason => rfl

def RunPhase.Marches (units : List TemplateUnit) (log : List Handing) : RunPhase → Prop
  | .compiling others bodies =>
      others = units ∧ bodies.length = log.length ∧ InTurn units log ∧ Passed log
  | .aggregating _ _ | .serialized _ =>
      log.map (·.template) = units ∧ InTurn units log ∧ Passed log
  | .writing _ step =>
      step.Unrelated ∧ log.map (·.template) = units ∧ InTurn units log ∧ Passed log
  | .failed failure =>
      InTurn units log ∧ (failure.isRejection = true → FailsNext units log failure)
  | .discovering | .dispatching _ | .together _ _ _ => False

section
variable {units : List TemplateUnit} {log : List Handing}

theorem Passed.add (passed : Passed log) {template : TemplateUnit} {body : String} :
    Passed (log ++ [⟨template, .ok body⟩]) := by
  intro handing member
  rcases List.mem_append.mp member with earlier | last
  · exact passed handing earlier
  · rw [List.mem_singleton.mp last]
    exact ⟨body, rfl⟩

theorem InTurn.add (turn : InTurn units log) (passed : Passed log) {template : TemplateUnit}
    (next : units[log.length]? = some template) (sound : structureFault? template.source = none)
    (result : Except Diagnostic String) : InTurn units (log ++ [⟨template, result⟩]) := by
  constructor
  · rw [List.map_append, turn.order, List.length_append, List.length_singleton, List.take_add_one,
      next]
    rfl
  · intro handing member
    rcases List.mem_append.mp member with earlier | last
    · exact turn.valid handing earlier
    · rw [List.mem_singleton.mp last]
      exact validate_of_sound sound
  · rwa [List.dropLast_concat]

end

namespace Run

structure Marching (units : List TemplateUnit) (before : Nat) (log : List Handing) (run : Run) :
    Prop where
  phase : run.phase.Marches units log
  calls : run.calls = before + log.length

section
variable {compiler : Compiler} {units : List TemplateUnit} {before : Nat} {log : List Handing}
  {run next : Run} {world after : World}

theorem handing?_eq_none (same : next.calls = run.calls) :
    handing? compiler run world next = none := if_pos same

theorem handing?_called {bodies : List String} {template : TemplateUnit}
    (phase : run.phase = .compiling units bodies) (unit : units[bodies.length]? = some template)
    (called : next.calls = run.calls + 1) :
    handing? compiler run world next =
      some ⟨template, (compiler run.calls world.files template.source).result⟩ := by
  rw [handing?, if_neg (by omega), phase]
  simp only
  rw [unit]
  rfl

theorem Marching.still (same : next.calls = run.calls) (calls : run.calls = before + log.length)
    (phase : next.phase.Marches units log) :
    Marching units before (log ++ (handing? compiler run world next).toList) next := by
  rw [handing?_eq_none same, Option.toList_none, List.append_nil]
  exact ⟨phase, same.trans calls⟩

theorem Marching.hand {bodies : List String} {template : TemplateUnit}
    {result : Except Diagnostic String} (phase : run.phase = .compiling units bodies)
    (unit : units[bodies.length]? = some template) (called : next.calls = run.calls + 1)
    (answer : (compiler run.calls world.files template.source).result = result)
    (calls : run.calls = before + log.length)
    (marches : next.phase.Marches units (log ++ [⟨template, result⟩])) :
    Marching units before (log ++ (handing? compiler run world next).toList) next := by
  rw [handing?_called phase unit called, answer]
  refine ⟨marches, ?_⟩
  rw [called, calls, Option.toList_some, List.length_append, List.length_singleton, Nat.add_assoc]

theorem Acts.marching {around : Interference} (acts : Acts compiler around run world next after)
    (marching : Marching units before log run) :
    Marching units before (log ++ (handing? compiler run world next).toList) next := by
  obtain ⟨marches, calls⟩ := marching
  cases acts with
  | compiled phase all =>
      rw [phase] at marches
      obtain ⟨rfl, length, turn, passed⟩ := marches
      apply Marching.still (by rfl) calls
      refine ⟨?_, turn, passed⟩
      rw [turn.order, List.take_of_length_le]
      exact length ▸ List.getElem?_eq_none_iff.mp all
  | stopped phase unit interrupted =>
      rw [phase] at marches
      obtain ⟨rfl, length, turn, passed⟩ := marches
      apply Marching.still (by rfl) calls
      exact ⟨turn, by simp [Failure.isRejection]⟩
  | malformed phase unit free fault =>
      rw [phase] at marches
      obtain ⟨rfl, length, turn, passed⟩ := marches
      apply Marching.still (by rfl) calls
      exact ⟨turn, fun _ => .malformed passed (length ▸ unit) fault⟩
  | refused phase unit free sound answer =>
      rw [phase] at marches
      obtain ⟨rfl, length, turn, passed⟩ := marches
      apply Marching.hand phase unit (by rfl) answer calls
      rw [length] at unit
      exact ⟨turn.add passed unit sound _, fun _ => .refused passed unit⟩
  | accepted phase unit free sound answer =>
      rw [phase] at marches
      obtain ⟨rfl, length, turn, passed⟩ := marches
      apply Marching.hand phase unit (by rfl) answer calls
      refine ⟨rfl, by simp [length], turn.add passed (length ▸ unit) sound _, passed.add⟩
  | unbundled phase refused =>
      rw [phase] at marches
      obtain ⟨_, turn, _⟩ := marches
      obtain ⟨name, rfl⟩ := Bundle.insertAll_eq_error refused
      apply Marching.still (by rfl) calls
      exact ⟨turn, by simp [Failure.isRejection]⟩
  | bundled phase made =>
      rw [phase] at marches
      apply Marching.still (by rfl) calls
      exact ⟨by simp [WriteStep.Unrelated], marches⟩
  | wrote phase goes =>
      rw [phase] at marches
      obtain ⟨unrelated, handed⟩ := marches
      apply Marching.still (by rfl) calls
      refine ⟨?_, handed⟩
      rintro lock failure rfl
      exact (run.options.job _).step_unrelated unrelated (by rw [goes]; rfl)
  | unwritten phase ends =>
      rw [phase] at marches
      obtain ⟨unrelated, _, turn, _⟩ := marches
      apply Marching.still (by rfl) calls
      refine ⟨turn, fun rejection => ?_⟩
      have other := (run.options.job _).step_unrelated unrelated (by rw [ends]; rfl)
      simp [other] at rejection
  | written phase ends =>
      rw [phase] at marches
      apply Marching.still (by rfl) calls
      exact marches.2
  | rested ended =>
      apply Marching.still (by rfl) calls
      exact marches
  | _ phase => rw [phase] at marches; exact absurd marches (by simp [RunPhase.Marches])

theorem Marching.step (marching : Marching units before log run) (compiler : Compiler)
    (around : Interference) (world : World) :
    Marching units before
      (log ++ (handing? compiler run world (run.step compiler around world).1).toList)
      (run.step compiler around world).1 := by
  obtain ⟨next, acts, stepped⟩ := step_acts compiler around run world
  obtain ⟨marches, calls⟩ := acts.marching ⟨marching.phase, marching.calls⟩
  rw [stepped]
  exact ⟨marches, calls⟩

theorem marching_first (compiler : Compiler) {around : Interference}
    (begins : run.phase = .discovering) (all : run.found around world = .ok units)
    (apart : run.options.together units.length = false) :
    Marching units run.calls [] (run.step compiler around world).1 := by
  obtain ⟨failure, _, refused, _⟩ | ⟨others, cancelled, found, stepped⟩ :=
    step_discovers compiler around world begins
  · exact absurd (all.symm.trans refused) (by simp)
  · obtain rfl : units = others := Except.ok.inj (all.symm.trans found)
    have alone : firstPhase run.options units = .compiling units [] :=
      if_neg (Bool.eq_false_iff.mp apart)
    rw [stepped, alone]
    exact ⟨⟨rfl, rfl, ⟨rfl, by simp, by simp [Passed]⟩, by simp [Passed]⟩, rfl⟩

theorem advance_marching (compiler : Compiler) (around : Nat → Interference)
    (begins : run.phase = .discovering) (all : run.found (around 0) world = .ok units)
    (apart : run.options.together units.length = false) (steps : Nat) :
    Marching units run.calls (handings compiler around run world (steps + 1))
      (advance compiler around (steps + 1) run world).1 := by
  induction steps with
  | zero =>
      have first := marching_first compiler begins all apart
      rw [handings, advance_one compiler around world begins]
      exact Marching.still first.calls rfl first.phase
  | succ steps ih =>
      rw [handings, advance_succ compiler around (steps + 1)]
      split
      · exact Marching.still rfl ih.calls ih.phase
      · exact ih.step compiler _ _

end

end Run

end TagTemplate
