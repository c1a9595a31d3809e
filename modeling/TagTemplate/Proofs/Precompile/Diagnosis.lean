import TagTemplate.Proofs.Precompile.Agreement
import TagTemplate.Proofs.Precompile.Stopping
import TagTemplate.Proofs.Precompile.Succession
import TagTemplate.Proofs.Template.Offending

/-! Templates of which the structure is wrong: what runs say of them, and where in the source. -/

namespace TagTemplate

open Run

structure TemplateUnit.Diagnosed (template : TemplateUnit) (diagnostic : Diagnostic) : Prop where
  -- One template after another, then all together.
  turn : ∀ (compiler : Compiler) (around : Interference) (run : Run) (world : World)
    (units : List TemplateUnit) (bodies : List String),
    run.phase = .compiling units bodies → units[bodies.length]? = some template →
      (run.step compiler around world).1.calls = run.calls ∧
        (run.step compiler around world).1.outcome? = some (.error
          (((run.seeing around).interruption? (world.after around.delay).now .compiling).elim
            (.rejected template.name diagnostic) .cancelled))
  task : ∀ (compiler : Compiler) (around : Interference) (run : Run) (world : World)
    (units : List TemplateUnit) (tasks : List Task) (aborted : Bool) (index since : Nat),
    run.phase = .together units tasks aborted → picked? around tasks = some index →
    tasks[index]? = some (.running since) → units[index]? = some template →
      (run.step compiler around world).1.calls = run.calls ∧
        (run.step compiler around world).1.phase = .together units
          (tasks.set index (.done (.error (.rejected template.name diagnostic)))) true
  whole : ∀ (compiler : Compiler) (around : Nat → Interference) (run : Run) (world : World)
    (units : List TemplateUnit), run.phase = .discovering → world.files.Proper →
    run.found (around 0) world = .ok units → template ∈ units →
      ∃ failure, (complete compiler around run world).1.outcome? = some (.error failure) ∧
        ∀ other, failure = .rejected template.name other → other = diagnostic
  undisturbed : ∀ (schedule : Schedule) (compile : String → Except Diagnostic String)
    (options : Options) (parallel : Bool) (now : Nat) (before : World)
    (units : List TemplateUnit), options.Finds before.files units → template ∈ units →
    (∀ other ∈ units, other ≠ template → ∃ body, other.verdict compile = .ok body) →
      (complete (schedule.compiler compile) schedule.around
        (start { options with parallel, timeout := none } false now) before).1.outcome? =
          some (.error (.rejected template.name diagnostic))

def Blames (failure : Failure) (template : TemplateUnit) : Prop :=
  ∃ diagnostic, failure = .rejected template.name diagnostic ∧
    ∀ fault, structureFault? template.source = some fault → diagnostic = fault

section
variable {compiler : Compiler} {template : TemplateUnit} {units : List TemplateUnit}
  {diagnostic : Diagnostic} {failure : Failure}

theorem Blames.of_fault (fault : structureFault? template.source = some diagnostic) :
    Blames (.rejected template.name diagnostic) template := by
  refine ⟨diagnostic, rfl, ?_⟩
  intro other same
  exact Option.some.inj (fault.symm.trans same)

theorem Blames.of_sound (sound : structureFault? template.source = none) (diagnostic : Diagnostic) :
    Blames (.rejected template.name diagnostic) template := by
  refine ⟨diagnostic, rfl, ?_⟩
  intro fault wrong
  cases sound.symm.trans wrong

theorem Rejects.blames (rejects : Rejects compiler template failure) : Blames failure template := by
  cases rejects with
  | malformed fault => exact .of_fault fault
  | refused sound => exact .of_sound sound _

theorem FailsNext.blames {log : List Handing} (turn : InTurn units log)
    (fails : FailsNext units log failure) : ∃ template ∈ units, Blames failure template := by
  cases fails with
  | malformed passed next fault => exact ⟨_, List.mem_of_getElem? next, .of_fault fault⟩
  | @refused log template diagnostic passed next =>
      have valid := turn.valid ⟨template, .error diagnostic⟩ (by simp)
      have sound : structureFault? template.source = none := by
        simp only [structureFault?, valid]
      exact ⟨template, List.mem_of_getElem? next, .of_sound sound _⟩

theorem validate_of_compiles {bodies : List String}
    (compiled : List.Forall₂ (Compiles compiler) units bodies) (member : template ∈ units) :
    validate template.source = .ok () := by
  induction compiled with
  | nil => simp at member
  | cons head _ ih =>
      rcases List.mem_cons.mp member with rfl | later
      · exact head.valid
      · exact ih later

namespace Run

theorem Acts.turn {around : Interference} {run next : Run} {world after : World}
    {bodies : List String} (acts : Acts compiler around run world next after)
    (fault : structureFault? template.source = some diagnostic)
    (phase : run.phase = .compiling units bodies) (unit : units[bodies.length]? = some template) :
    next.calls = run.calls ∧ next.outcome? = some (.error
      ((run.interruption? world.now .compiling).elim (.rejected template.name diagnostic)
        .cancelled)) := by
  cases acts with
  | compiled phaseToo all =>
      cases phase.symm.trans phaseToo
      cases all.symm.trans unit
  | stopped phaseToo unitToo interrupted =>
      cases phase.symm.trans phaseToo
      rw [interrupted]
      exact ⟨rfl, rfl⟩
  | malformed phaseToo unitToo free faultToo =>
      cases phase.symm.trans phaseToo
      cases unit.symm.trans unitToo
      cases fault.symm.trans faultToo
      rw [free]
      exact ⟨rfl, rfl⟩
  | refused phaseToo unitToo free sound answer =>
      cases phase.symm.trans phaseToo
      cases unit.symm.trans unitToo
      cases fault.symm.trans sound
  | accepted phaseToo unitToo free sound answer =>
      cases phase.symm.trans phaseToo
      cases unit.symm.trans unitToo
      cases fault.symm.trans sound
  | rested ended => simp [outcome?, phase] at ended
  | _ phaseToo => cases phase.symm.trans phaseToo

theorem step_taskMalformed (fault : structureFault? template.source = some diagnostic)
    (compiler : Compiler) {around : Interference} {run : Run} (world : World) {tasks : List Task}
    {aborted : Bool} {index since : Nat} (phase : run.phase = .together units tasks aborted)
    (picked : picked? around tasks = some index) (runs : tasks[index]? = some (.running since))
    (unit : units[index]? = some template) :
    (run.step compiler around world).1.calls = run.calls ∧
      (run.step compiler around world).1.phase = .together units
        (tasks.set index (.done (.error (.rejected template.name diagnostic)))) true := by
  have stepped : (run.seeing around).act compiler around (world.after around.delay) =
      ((run.seeing around).withTask units tasks index
        (.done (.error (.rejected template.name diagnostic))) true, world.after around.delay) := by
    replace phase : (run.seeing around).phase = .together units tasks aborted := phase
    unfold picked? at picked
    simp only [act, phase, compileTogether, picked, runs, unit, finishTask, fault, Bool.or_true]
    rfl
  have calls : (run.step compiler around world).1.calls =
      ((run.seeing around).act compiler around (world.after around.delay)).1.calls := rfl
  have next : (run.step compiler around world).1.phase =
      ((run.seeing around).act compiler around (world.after around.delay)).1.phase := rfl
  rw [calls, next, stepped]
  exact ⟨rfl, rfl⟩

theorem Orderly.blames {around : Nat → Interference} {run : Run} {world : World}
    {entered : List RunState}
    (orderly : run.Orderly compiler around world entered (.error failure))
    (all : run.found (around 0) world = .ok units) (rejection : failure.isRejection = true) :
    ∃ template ∈ units, Blames failure template := by
  cases joined : run.options.together units.length with
  | false =>
      have handsOver := orderly.apart units all joined
      exact (handsOver.rejected failure rfl rejection).blames handsOver.turn
  | true =>
      obtain ⟨tasks, -, -, index, template, unit, rejects, -⟩ :=
        orderly.joined units all joined failure rfl rejection
      exact ⟨template, List.mem_of_getElem? unit, rejects.blames⟩

theorem complete_unsuccessful (fault : structureFault? template.source = some diagnostic)
    (around : Nat → Interference) {run : Run} {world : World} (begins : run.phase = .discovering)
    (finds : run.options.Finds world.files units) (member : template ∈ units) (report : Report) :
    (complete compiler around run world).1.outcome? ≠ some (.ok report) := by
  intro succeeds
  have sound := advance_sound compiler around world begins (duration compiler around run world)
  have holds := sound.phase
  rw [← complete_eq_advance compiler around world begins, phase_of_ok succeeds] at holds
  obtain ⟨bundle, ⟨others, bodies, findsToo, compiled, -⟩, -⟩ := holds
  cases finds.unique findsToo
  simp [structureFault?, validate_of_compiles compiled member] at fault

theorem complete_rejected (fault : structureFault? template.source = some diagnostic)
    (compiler : Compiler) (around : Nat → Interference) {run : Run} {world : World}
    (begins : run.phase = .discovering) (proper : world.files.Proper)
    (all : run.found (around 0) world = .ok units) (member : template ∈ units) :
    ∃ failure, (complete compiler around run world).1.outcome? = some (.error failure) ∧
      ∀ other, failure = .rejected template.name other → other = diagnostic := by
  obtain ⟨entered, outcome, orderly⟩ := complete_orderly compiler around world begins
  have finds : run.options.Finds world.files units := discover_unobstructed all
  cases outcome with
  | ok report =>
      exact absurd orderly.ends (complete_unsuccessful fault around begins finds member report)
  | error failure =>
      refine ⟨failure, orderly.ends, ?_⟩
      rintro other rfl
      obtain ⟨found, memberToo, cause, same, reason⟩ := orderly.blames all rfl
      obtain ⟨name, rfl⟩ : template.name = found.name ∧ other = cause := by simpa using same
      obtain rfl := List.inj_on_of_nodup_map (finds_nodup proper finds) member memberToo name
      exact reason diagnostic fault

end Run

end

/-- A template of which the structure is wrong is rejected by its name, with the error of its source
and the start of the line of the tag to blame. -/
theorem TemplateUnit.diagnosed {template : TemplateUnit} {error : TemplateError}
    (invalid : validate template.source = .error error) :
    ∃ offset, PointsAt template.source.toList error offset ∧
      offset ≤ template.source.utf8ByteSize ∧ String.Pos.Raw.IsValid template.source ⟨offset⟩ ∧
      template.Diagnosed ⟨error.message, some offset⟩ := by
  obtain ⟨offset, points⟩ := exists_pointsAt invalid
  have fault := points.structureFault?_eq
  refine ⟨offset, points, points.isValid.le_utf8ByteSize, points.isValid, ?_, ?_, ?_, ?_⟩
  · intro compiler around run world units bodies phase unit
    obtain ⟨next, acts, stepped⟩ := step_acts compiler around run world
    rw [stepped]
    exact acts.turn fault phase unit
  · intro compiler around run world units tasks aborted index since phase picked runs unit
    exact step_taskMalformed fault compiler world phase picked runs unit
  · intro compiler around run world units begins proper all member
    exact complete_rejected fault compiler around begins proper all member
  · intro schedule compile options parallel now before units finds member others
    have verdict : template.verdict compile =
        .error (.rejected template.name ⟨error.message, some offset⟩) := by
      rw [TemplateUnit.verdict, fault]
    have ends := complete_options_ends schedule compile options parallel now before
    exact ends.undisturbed.single units finds template member _ verdict others

theorem TemplateUnit.diagnosed_accent :
    let template : TemplateUnit := ⟨"a", ⟨false, [['a']]⟩, "é\n \x7b\x7b/if\x7d\x7d"⟩
    let error := TemplateError.malformed (.unexpectedEnd "if") 2
    validate template.source = .error error ∧ PointsAt template.source.toList error 3 ∧
      template.Diagnosed ⟨error.message, some 3⟩ := by
  intro template error
  have invalid : validate template.source = .error error := by decide +kernel
  obtain ⟨offset, points, -, -, diagnosed⟩ := TemplateUnit.diagnosed invalid
  have reported : structureFault? template.source = some ⟨error.message, some 3⟩ := by
    decide +kernel
  obtain rfl : 3 = offset := by simpa using reported.symm.trans points.structureFault?_eq
  exact ⟨invalid, points, diagnosed⟩

end TagTemplate
