import TagTemplate.Proofs.Precompile.Fate
import TagTemplate.Proofs.Precompile.Soundness

/-! Runs that nothing disturbs: nobody cancels them, their time is not limited, and no operation on
files fails by chance. What they come to does not depend on their schedule. -/

namespace TagTemplate

/-- What is left to chance in an undisturbed run: how long everything takes, and which task goes
on. -/
structure Schedule where
  delay : Nat → Nat
  pick : Nat → Nat
  takes : Nat → String → Nat

def Schedule.around (schedule : Schedule) (step : Nat) : Interference :=
  ⟨none, schedule.delay step, fun _ => none, schedule.pick step⟩

def Schedule.compiler (schedule : Schedule) (compile : String → Except Diagnostic String) :
    Compiler :=
  fun calls files source => ⟨compile source, false, schedule.takes calls source, files⟩

def TemplateUnit.verdict (compile : String → Except Diagnostic String) (template : TemplateUnit) :
    Except Failure String :=
  match structureFault? template.source with
  | some diagnostic => .error (.rejected template.name diagnostic)
  | none =>
      match compile template.source with
      | .error diagnostic => .error (.rejected template.name diagnostic)
      | .ok body => .ok body

section
variable {schedule : Schedule} {compile : String → Except Diagnostic String}
  {template : TemplateUnit}

theorem Compiles.verdict {body : String}
    (compiles : Compiles (schedule.compiler compile) template body) :
    template.verdict compile = .ok body := by
  obtain ⟨valid, _, _, answer⟩ := compiles
  have answer : compile template.source = .ok body := answer
  simp [TemplateUnit.verdict, structureFault?, valid, answer]

theorem Rejects.verdict {failure : Failure}
    (rejects : Rejects (schedule.compiler compile) template failure) :
    template.verdict compile = .error failure := by
  cases rejects with
  | malformed fault => simp [TemplateUnit.verdict, fault]
  | @refused diagnostic sound _ _ answer =>
      have answer : compile template.source = .error diagnostic := answer
      simp [TemplateUnit.verdict, sound, answer]

end

abbrev AllCompile (compile : String → Except Diagnostic String) :
    List TemplateUnit → List String → Prop :=
  List.Forall₂ fun template body => template.verdict compile = .ok body

namespace Options

def Assembles (options : Options) (compile : String → Except Diagnostic String) (files : FileTree)
    (bundle : Bundle) : Prop :=
  ∃ units bodies, options.Finds files units ∧ AllCompile compile units bodies ∧
    Bundle.empty.insertAll ((units.map (·.name)).zip bodies) = .ok bundle

def fate (options : Options) (before : World) (bundle : Bundle) : Option FileTree :=
  (options.job bundle).fate before .checking

inductive Fails (options : Options) (compile : String → Except Diagnostic String)
    (before : World) : Failure → Prop
  | unfound {failure}
      (refused : discover .none before.files options.root options.suffix options.templates =
        .error failure) : Fails options compile before failure
  | rejected {units template failure} (finds : options.Finds before.files units)
      (member : template ∈ units) (verdict : template.verdict compile = .error failure) :
      Fails options compile before failure
  | unbundled {units bodies failure} (finds : options.Finds before.files units)
      (compiled : AllCompile compile units bodies)
      (refused : Bundle.empty.insertAll ((units.map (·.name)).zip bodies) = .error failure) :
      Fails options compile before failure
  | unwritten {bundle fault} (assembles : options.Assembles compile before.files bundle)
      (lost : options.fate before bundle = none) :
      Fails options compile before (.outputNotWritten options.output fault)

end Options

namespace RunPhase

def Calm (compile : String → Except Diagnostic String) (options : Options) (before world : World) :
    RunPhase → Prop
  | .discovering | .compiling _ _ | .dispatching _ | .aggregating _ _ =>
      world.timeless = before.timeless
  | .together _ tasks aborted =>
      world.timeless = before.timeless ∧ (.skipped ∈ tasks → aborted = true) ∧
        (aborted = true → ∃ failure, .done (.error failure) ∈ tasks)
  | .writing bundle step =>
      options.Assembles compile before.files bundle ∧ (options.job bundle).OwnFailure step ∧
        (options.job bundle).fate world step = options.fate before bundle
  | .serialized report =>
      ∃ bundle, options.Assembles compile before.files bundle ∧ report = options.report bundle ∧
        options.fate before bundle = some world.files
  | .failed failure => options.Fails compile before failure

end RunPhase

namespace Run

structure Calm (compile : String → Except Diagnostic String) (options : Options) (before : World)
    (run : Run) (world : World) : Prop where
  uncancelled : run.cancelled = false
  endless : run.deadline = none
  phase : run.phase.Calm compile options before world

theorem not_mem_ready {tasks : List Task} {index : Nat} {result : Except Failure String}
    (done : tasks[index]? = some (.done result)) : index ∉ ready tasks := by
  intro member
  rcases mem_ready.mp member with waits | ⟨since, runs⟩
  · simp [done] at waits
  · simp [done] at runs

theorem failed_set {tasks : List Task} {index : Nat} {failure : Failure} (task : Task)
    (able : index ∈ ready tasks) (failed : .done (.error failure) ∈ tasks) :
    .done (.error failure) ∈ tasks.set index task := by
  obtain ⟨other, found⟩ := List.mem_iff_getElem?.mp failed
  -- A task that is done is never the one that goes on.
  have different : index ≠ other := by
    rintro rfl
    exact not_mem_ready found able
  refine List.mem_iff_getElem?.mpr ⟨other, ?_⟩
  rw [List.getElem?_set_ne different]
  exact found

theorem ended_of_unpicked {around : Interference} {tasks : List Task} {task : Task}
    (unpicked : picked? around tasks = none) (member : task ∈ tasks) :
    task = .skipped ∨ ∃ result, task = .done result := by
  have none : ready tasks = [] := by
    by_contra some
    have positive := List.length_pos_iff.mpr some
    have bound := List.getElem?_eq_none_iff.mp unpicked
    have below := Nat.mod_lt around.pick positive
    omega
  obtain ⟨index, found⟩ := List.mem_iff_getElem?.mp member
  cases task with
  | skipped => exact Or.inl rfl
  | done result => exact Or.inr ⟨result, rfl⟩
  | waiting =>
      have able := mem_ready.mpr (Or.inl found)
      simp [none] at able
  | running since =>
      have able := mem_ready.mpr (Or.inr ⟨since, found⟩)
      simp [none] at able

theorem all_done {around : Interference} {tasks : List Task}
    (unpicked : picked? around tasks = none) (unfailed : tasks.findSome? failureOf? = none)
    (skips : .skipped ∈ tasks → ∃ failure, .done (.error failure) ∈ tasks) :
    (tasks.filterMap bodyOf?).length = tasks.length := by
  rw [List.findSome?_eq_none_iff] at unfailed
  rw [List.filterMap_length_eq_length]
  intro task member
  rcases ended_of_unpicked unpicked member with rfl | ⟨result, rfl⟩
  · obtain ⟨failure, failed⟩ := skips member
    have none := unfailed _ failed
    simp [failureOf?] at none
  · cases result with
    | error failure =>
        have none := unfailed _ member
        simp [failureOf?] at none
    | ok body => rfl

section
variable {schedule : Schedule} {compile : String → Except Diagnostic String} {options : Options}
  {before : World} {around : Interference} {run next : Run} {world after : World}

theorem Calm.uninterrupted (calm : Calm compile options before run world) (now : Nat)
    (stage : Stage) : run.interruption? now stage = none := by
  simp [interruption?, isLate, calm.uncancelled, calm.endless]

theorem Calm.goes {phase : RunPhase} (calm : Calm compile options before run world)
    (uncancelled : next.cancelled = run.cancelled) (endless : next.deadline = run.deadline)
    (holds : phase.Calm compile options before after) :
    Calm compile options before { next with phase } after :=
  ⟨uncancelled.trans calm.uncancelled, endless.trans calm.endless, holds⟩

theorem Calm.called (calm : Calm compile options before run world) (calls : Nat) (files : FileTree)
    (source : String) :
    (run.called (schedule.compiler compile calls files source)).cancelled = run.cancelled := by
  simp [Run.called, Schedule.compiler, calm.uncancelled]

theorem allCompile_of_compiles {units : List TemplateUnit} {bodies : List String}
    (compiled : List.Forall₂ (Compiles (schedule.compiler compile)) units bodies) :
    AllCompile compile units bodies :=
  compiled.imp fun _ _ compiles => compiles.verdict

theorem skips_set {tasks : List Task} {aborted : Bool} {index : Nat} {task : Task}
    (able : index ∈ ready tasks) (unskipped : task = .skipped → aborted = true)
    (skips : .skipped ∈ tasks → aborted = true)
    (failed : aborted = true → ∃ failure, .done (.error failure) ∈ tasks) :
    (.skipped ∈ tasks.set index task → aborted = true) ∧
      (aborted = true → ∃ failure, .done (.error failure) ∈ tasks.set index task) := by
  constructor
  · intro member
    rcases List.mem_or_eq_of_mem_set member with old | new
    · exact skips old
    · exact unskipped new.symm
  · intro stopped
    obtain ⟨failure, done⟩ := failed stopped
    exact ⟨failure, failed_set task able done⟩

theorem failed_mem_set {tasks : List Task} {index : Nat} {old : Task} (failure : Failure)
    (found : tasks[index]? = some old) :
    ∃ other, .done (.error other) ∈ tasks.set index (.done (.error failure)) := by
  obtain ⟨bound, _⟩ := List.getElem?_eq_some_iff.mp found
  exact ⟨failure, List.mem_set bound _⟩

theorem Acts.calm (acts : Acts (schedule.compiler compile) around run world next after)
    (quiet : around.cancel = none) (faultless : ∀ count, around.fault count = none)
    (sound : Sound (schedule.compiler compile) options before.files run world)
    (calm : Calm compile options before run world) :
    Calm compile options before next after := by
  obtain rfl := sound.options_eq
  have known := sound.phase
  have holds := calm.phase
  cases acts with
  | unfound phase refused =>
      rw [phase] at holds known
      have obstacles : (⟨fun look => run.cancelled || around.cancels look, around.fault⟩ :
          Discovery.Obstacles) = .none := by
        simp only [calm.uncancelled, Interference.cancels, quiet, Bool.or_false,
          Discovery.Obstacles.none, Discovery.Obstacles.mk.injEq, true_and]
        exact funext faultless
      have same : world.files = before.files := known
      rw [discovery, obstacles, same] at refused
      exact calm.goes rfl rfl (.unfound refused)
  | @found units phase found =>
      rw [phase] at holds
      rcases firstPhase_eq run.options units with first | first <;>
        exact calm.goes rfl rfl (first ▸ holds)
  | compiled phase all =>
      rw [phase] at holds
      exact calm.goes rfl rfl holds
  | stopped phase unit interrupted =>
      rw [calm.uninterrupted] at interrupted
      simp at interrupted
  | @malformed units bodies template diagnostic phase unit free fault =>
      rw [phase] at known
      have rejects : Rejects (schedule.compiler compile) template _ := .malformed fault
      exact calm.goes rfl rfl
        (.rejected known.1 (List.mem_of_getElem? unit) rejects.verdict)
  | @refused units bodies template diagnostic phase unit free valid answer =>
      rw [phase] at known
      have rejects : Rejects (schedule.compiler compile) template _ := .refused valid _ _ answer
      exact calm.goes (calm.called _ _ _) rfl
        (.rejected known.1 (List.mem_of_getElem? unit) rejects.verdict)
  | accepted phase unit free valid answer =>
      rw [phase] at holds
      exact calm.goes (calm.called _ _ _) rfl holds
  | undispatched phase interrupted =>
      rw [calm.uninterrupted] at interrupted
      simp at interrupted
  | dispatched phase free =>
      rw [phase] at holds
      exact calm.goes rfl rfl ⟨holds, by simp, by simp⟩
  | @begun units tasks aborted index phase picked idle =>
      rw [phase] at holds
      obtain ⟨same, skips, failed⟩ := holds
      refine calm.goes rfl rfl ⟨same, skips_set (List.mem_of_getElem? picked) ?_ skips failed⟩
      simp [isLate, calm.uncancelled, calm.endless]
  | taskMalformed phase runs unit fault =>
      rw [phase] at holds
      exact calm.goes rfl rfl ⟨holds.1, fun _ => rfl, fun _ => failed_mem_set _ runs⟩
  | taskRefused phase runs unit valid answer =>
      rw [phase] at holds
      exact calm.goes (calm.called _ _ _) rfl
        ⟨holds.1, fun _ => rfl, fun _ => failed_mem_set _ runs⟩
  | taskAccepted phase runs unit valid answer =>
      rw [phase] at holds
      obtain ⟨same, skips, failed⟩ := holds
      exact calm.goes (calm.called _ _ _) rfl ⟨same,
        skips_set (mem_ready.mpr (Or.inr ⟨_, runs⟩)) (by simp) skips failed⟩
  | gatheredFailure phase idle failed =>
      rw [phase] at known
      obtain ⟨template, member, rejects⟩ := rejects_of_failed known.2.2 failed
      exact calm.goes rfl rfl (.rejected known.1 member rejects.verdict)
  | gathered phase idle unfailed all =>
      rw [phase] at holds
      exact calm.goes rfl rfl holds.1
  | gatheredSkips phase idle unfailed some =>
      rw [phase] at holds
      exact absurd (all_done idle unfailed fun member => holds.2.2 (holds.2.1 member)) some
  | unbundled phase refused =>
      rw [phase] at known
      exact calm.goes rfl rfl (.unbundled known.1 (allCompile_of_compiles known.2.2) refused)
  | @bundled units bodies bundle phase made =>
      rw [phase] at holds known
      have same : world.timeless = before.timeless := holds
      refine calm.goes rfl rfl ⟨⟨units, bodies, known.1, allCompile_of_compiles known.2.2, made⟩,
        trivial, ?_⟩
      rw [Options.fate, WriteJob.fate, WriteJob.fate, same]
  | @wrote bundle step next after phase goes =>
      rw [phase] at holds
      obtain ⟨assembles, own, same⟩ := holds
      have keeps := (run.options.job bundle).step_keepsTo world step own
      rw [calm.uninterrupted, faultless] at goes
      rw [goes, same] at keeps
      exact calm.goes rfl rfl ⟨assembles, keeps.1, keeps.2⟩
  | @unwritten bundle step failure after phase ends =>
      rw [phase] at holds
      obtain ⟨assembles, own, same⟩ := holds
      have keeps := (run.options.job bundle).step_keepsTo world step own
      rw [calm.uninterrupted, faultless] at ends
      rw [ends, same] at keeps
      obtain ⟨lost, fault, rfl⟩ := keeps
      exact calm.goes rfl rfl (.unwritten assembles lost)
  | @written bundle step after phase ends =>
      rw [phase] at holds
      obtain ⟨assembles, own, same⟩ := holds
      have keeps := (run.options.job bundle).step_keepsTo world step own
      rw [calm.uninterrupted, faultless] at ends
      rw [ends, same] at keeps
      exact calm.goes rfl rfl ⟨bundle, assembles, rfl, keeps⟩
  | rested ended => exact calm

theorem Calm.later (calm : Calm compile options before run world) (delay : Nat) :
    Calm compile options before run (world.after delay) := by
  refine ⟨calm.uncancelled, calm.endless, ?_⟩
  have holds := calm.phase
  cases phase : run.phase <;> rw [phase] at holds <;> exact holds

theorem step_calm (schedule : Schedule) (index : Nat) (run : Run) (world : World)
    (sound : Sound (schedule.compiler compile) options before.files run world)
    (calm : Calm compile options before run world) :
    Calm compile options before
      (run.step (schedule.compiler compile) (schedule.around index) world).1
      (run.step (schedule.compiler compile) (schedule.around index) world).2 := by
  obtain ⟨next, acts, stepped⟩ :=
    step_acts (schedule.compiler compile) (schedule.around index) run world
  have later := calm.later (schedule.around index).delay
  have seen : Calm compile options before (run.seeing (schedule.around index))
      (world.after (schedule.around index).delay) :=
    ⟨(Bool.or_false _).trans later.uncancelled, later.endless, later.phase⟩
  have reached := acts.calm rfl (fun _ => rfl) ⟨sound.options_eq, sound.phase, sound.state⟩ seen
  rw [stepped]
  exact ⟨(Bool.or_false _).trans reached.uncancelled, reached.endless, reached.phase⟩

theorem complete_calm (schedule : Schedule) (compile : String → Except Diagnostic String)
    (options : Options) (endless : options.timeout = none) (now : Nat) (world : World) :
    Calm compile options world
      (complete (schedule.compiler compile) schedule.around (start options false now) world).1
      (complete (schedule.compiler compile) schedule.around (start options false now) world).2 := by
  let Holds (run : Run) (after : World) : Prop :=
    Sound (schedule.compiler compile) options world.files run after ∧
      Calm compile options world run after
  have begins : Holds (start options false now) world :=
    ⟨⟨rfl, rfl, fun phase => by simp [start] at phase⟩, rfl, by simp [start, endless], rfl⟩
  have keeps : ∀ index run after, Holds run after →
      Holds (run.step (schedule.compiler compile) (schedule.around index) after).1
        (run.step (schedule.compiler compile) (schedule.around index) after).2 := by
    rintro index run after ⟨sound, calm⟩
    exact ⟨sound.step (schedule.around index), step_calm schedule index run after sound calm⟩
  exact (complete_keeps Holds schedule.around (start options false now) world keeps begins).2

end

end Run

end TagTemplate
