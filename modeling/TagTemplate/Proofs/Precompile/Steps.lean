import TagTemplate.Precompile.Run

/-! What a run does in one step, and how what each step keeps is kept by a whole run. -/

namespace TagTemplate

def World.answered (world : World) (answer : Answer) : World :=
  { world.after answer.takes with files := answer.files }

def World.answeredSince (world : World) (since : Nat) (answer : Answer) : World :=
  { world with files := answer.files, now := max world.now (since + answer.takes) }

def Options.job (options : Options) (bundle : Bundle) : WriteJob :=
  ⟨options.output, options.lockTimeout, bundle.render options.format⟩

def Options.report (options : Options) (bundle : Bundle) : Report :=
  ⟨options.output, bundle.names, (bundle.render options.format).utf8ByteSize⟩

namespace Run

def discovery (around : Interference) (run : Run) (files : FileTree) :
    Except Failure (List TemplateUnit) :=
  TagTemplate.discover ⟨fun look => run.cancelled || around.cancels look, around.fault⟩ files
    run.options.root run.options.suffix run.options.templates

def firstPhase (options : Options) (units : List TemplateUnit) : RunPhase :=
  if options.parallel && decide (1 < units.length) then .dispatching units
  else .compiling units []

theorem firstPhase_eq (options : Options) (units : List TemplateUnit) :
    firstPhase options units = .dispatching units ∨
      firstPhase options units = .compiling units [] := by
  unfold firstPhase
  split
  · exact Or.inl rfl
  · exact Or.inr rfl

def called (run : Run) (answer : Answer) : Run :=
  { run with calls := run.calls + 1, cancelled := run.cancelled || answer.cancels }

def picked? (around : Interference) (tasks : List Task) : Option Nat :=
  (ready tasks)[around.pick % (ready tasks).length]?

def withTask (run : Run) (units : List TemplateUnit) (tasks : List Task) (index : Nat) (task : Task)
    (aborted : Bool) : Run :=
  { run with phase := .together units (tasks.set index task) aborted }

inductive Acts (compiler : Compiler) (around : Interference) (run : Run) (world : World) :
    Run → World → Prop
  | unfound {failure} (phase : run.phase = .discovering)
      (refused : run.discovery around world.files = .error failure) :
      Acts compiler around run world ((run.enter .discovering).fail failure) world
  | found {units} (phase : run.phase = .discovering)
      (found : run.discovery around world.files = .ok units) :
      Acts compiler around run world
        { run.enter .discovering with phase := firstPhase run.options units } world
  | compiled {units bodies} (phase : run.phase = .compiling units bodies)
      (all : units[bodies.length]? = none) :
      Acts compiler around run world { run with phase := .aggregating units bodies } world
  | stopped {units bodies template interruption} (phase : run.phase = .compiling units bodies)
      (next : units[bodies.length]? = some template)
      (interrupted : run.interruption? world.now .compiling = some interruption) :
      Acts compiler around run world
        ((run.enter (.compiling bodies.length)).fail (.cancelled interruption)) world
  | malformed {units bodies template diagnostic} (phase : run.phase = .compiling units bodies)
      (next : units[bodies.length]? = some template)
      (free : run.interruption? world.now .compiling = none)
      (fault : structureFault? template.source = some diagnostic) :
      Acts compiler around run world
        ((run.enter (.compiling bodies.length)).fail (.rejected template.name diagnostic)) world
  | refused {units bodies template diagnostic} (phase : run.phase = .compiling units bodies)
      (next : units[bodies.length]? = some template)
      (free : run.interruption? world.now .compiling = none)
      (sound : structureFault? template.source = none)
      (answer : (compiler run.calls world.files template.source).result = .error diagnostic) :
      Acts compiler around run world
        (((run.enter (.compiling bodies.length)).called
          (compiler run.calls world.files template.source)).fail
            (.rejected template.name diagnostic))
        (world.answered (compiler run.calls world.files template.source))
  | accepted {units bodies template body} (phase : run.phase = .compiling units bodies)
      (next : units[bodies.length]? = some template)
      (free : run.interruption? world.now .compiling = none)
      (sound : structureFault? template.source = none)
      (answer : (compiler run.calls world.files template.source).result = .ok body) :
      Acts compiler around run world
        { (run.enter (.compiling bodies.length)).called
            (compiler run.calls world.files template.source) with
          phase := .compiling units (bodies ++ [body]) }
        (world.answered (compiler run.calls world.files template.source))
  | undispatched {units interruption} (phase : run.phase = .dispatching units)
      (interrupted : run.interruption? world.now .compiling = some interruption) :
      Acts compiler around run world
        ((run.enter (.compiling 0)).fail (.cancelled interruption)) world
  | dispatched {units} (phase : run.phase = .dispatching units)
      (free : run.interruption? world.now .compiling = none) :
      Acts compiler around run world
        { run.enter (.compiling 0) with
          phase := .together units (units.map fun _ => .waiting) false } world
  | begun {units tasks aborted index} (phase : run.phase = .together units tasks aborted)
      (picked : picked? around tasks = some index)
      (idle : ∀ since template, tasks[index]? = some (.running since) →
        units[index]? ≠ some template) :
      Acts compiler around run world
        (run.withTask units tasks index
          (if aborted || run.cancelled || run.isLate world.now then .skipped
            else .running world.now) aborted) world
  | taskMalformed {units tasks aborted index since template diagnostic}
      (phase : run.phase = .together units tasks aborted)
      (runs : tasks[index]? = some (.running since)) (unit : units[index]? = some template)
      (fault : structureFault? template.source = some diagnostic) :
      Acts compiler around run world
        (run.withTask units tasks index (.done (.error (.rejected template.name diagnostic))) true)
        world
  | taskRefused {units tasks aborted index since template diagnostic}
      (phase : run.phase = .together units tasks aborted)
      (runs : tasks[index]? = some (.running since)) (unit : units[index]? = some template)
      (sound : structureFault? template.source = none)
      (answer : (compiler run.calls world.files template.source).result = .error diagnostic) :
      Acts compiler around run world
        ((run.called (compiler run.calls world.files template.source)).withTask units tasks index
          (.done (.error (.rejected template.name diagnostic))) true)
        (world.answeredSince since (compiler run.calls world.files template.source))
  | taskAccepted {units tasks aborted index since template body}
      (phase : run.phase = .together units tasks aborted)
      (runs : tasks[index]? = some (.running since)) (unit : units[index]? = some template)
      (sound : structureFault? template.source = none)
      (answer : (compiler run.calls world.files template.source).result = .ok body) :
      Acts compiler around run world
        ((run.called (compiler run.calls world.files template.source)).withTask units tasks index
          (.done (.ok body)) aborted)
        (world.answeredSince since (compiler run.calls world.files template.source))
  | gatheredFailure {units tasks aborted failure}
      (phase : run.phase = .together units tasks aborted) (idle : picked? around tasks = none)
      (failed : tasks.findSome? failureOf? = some failure) :
      Acts compiler around run world (run.fail failure) world
  | gathered {units tasks aborted} (phase : run.phase = .together units tasks aborted)
      (idle : picked? around tasks = none) (unfailed : tasks.findSome? failureOf? = none)
      (all : (tasks.filterMap bodyOf?).length = tasks.length) :
      Acts compiler around run world
        { run with phase := .aggregating units (tasks.filterMap bodyOf?) } world
  | gatheredSkips {units tasks aborted} (phase : run.phase = .together units tasks aborted)
      (idle : picked? around tasks = none) (unfailed : tasks.findSome? failureOf? = none)
      (some : (tasks.filterMap bodyOf?).length ≠ tasks.length) :
      Acts compiler around run world
        (run.fail (.cancelled ((run.interruption? world.now .compiling).getD .aborted))) world
  | unbundled {units bodies failure} (phase : run.phase = .aggregating units bodies)
      (refused : Bundle.empty.insertAll ((units.map (·.name)).zip bodies) = .error failure) :
      Acts compiler around run world ((run.enter .aggregating).fail failure) world
  | bundled {units bodies bundle} (phase : run.phase = .aggregating units bodies)
      (made : Bundle.empty.insertAll ((units.map (·.name)).zip bodies) = .ok bundle) :
      Acts compiler around run world
        { run.enter .aggregating with phase := .writing bundle .checking } world
  | wrote {bundle step next after} (phase : run.phase = .writing bundle step)
      (goes : (run.options.job bundle).step (run.interruption? world.now .writing)
        (around.fault 0) world step = (.going next, after)) :
      Acts compiler around run world { run with phase := .writing bundle next } after
  | unwritten {bundle step failure after} (phase : run.phase = .writing bundle step)
      (ends : (run.options.job bundle).step (run.interruption? world.now .writing)
        (around.fault 0) world step = (.done (some failure), after)) :
      Acts compiler around run world (run.fail failure) after
  | written {bundle step after} (phase : run.phase = .writing bundle step)
      (ends : (run.options.job bundle).step (run.interruption? world.now .writing)
        (around.fault 0) world step = (.done none, after)) :
      Acts compiler around run world
        { run.enter .serialized with phase := .serialized (run.options.report bundle) } after
  | rested (ended : run.outcome?.isSome) : Acts compiler around run world run world

theorem discover_acts {compiler : Compiler} {around : Interference} {run : Run} {world : World}
    (phase : run.phase = .discovering) :
    Acts compiler around run world (run.discover around world.files) world := by
  cases sought : run.discovery around world.files with
  | error failure =>
      have shape : run.discover around world.files = (run.enter .discovering).fail failure := by
        unfold discovery at sought
        unfold discover enter
        simp only [sought]
      rw [shape]
      exact .unfound phase sought
  | ok units =>
      have shape : run.discover around world.files =
          { run.enter .discovering with phase := firstPhase run.options units } := by
        unfold discovery at sought
        unfold discover enter firstPhase
        simp only [sought]
        split
        · rfl
        · rfl
      rw [shape]
      exact .found phase sought

theorem compileNext_acts {compiler : Compiler} {around : Interference} {run : Run} {world : World}
    {units : List TemplateUnit} {bodies : List String}
    (phase : run.phase = .compiling units bodies) :
    Acts compiler around run world (run.compileNext compiler world units bodies).1
      (run.compileNext compiler world units bodies).2 := by
  unfold compileNext
  split
  · next all => exact .compiled phase all
  next template unit =>
  simp only
  split
  · next interruption interrupted => exact .stopped phase unit interrupted
  next free =>
  split
  · next diagnostic fault => exact .malformed phase unit free fault
  next sound =>
  simp only [call]
  split
  · next diagnostic answer => exact .refused phase unit free sound answer
  · next body answer => exact .accepted phase unit free sound answer

theorem dispatch_acts {compiler : Compiler} {around : Interference} {run : Run} {world : World}
    {units : List TemplateUnit} (phase : run.phase = .dispatching units) :
    Acts compiler around run world (run.dispatch world.now units) world := by
  unfold dispatch
  simp only
  split
  · next interruption interrupted => exact .undispatched phase interrupted
  · next free => exact .dispatched phase free

theorem gather_acts {compiler : Compiler} {around : Interference} {run : Run} {world : World}
    {units : List TemplateUnit} {tasks : List Task} {aborted : Bool}
    (phase : run.phase = .together units tasks aborted)
    (idle : picked? around tasks = none) :
    Acts compiler around run world (run.gather world.now units tasks) world := by
  unfold gather
  split
  · next failure failed => exact .gatheredFailure phase idle failed
  next unfailed =>
  simp only
  split
  · next all => exact .gathered phase idle unfailed all
  next skips =>
  have stops : Acts compiler around run world
      (run.fail (.cancelled ((run.interruption? world.now .compiling).getD .aborted))) world :=
    .gatheredSkips phase idle unfailed skips
  split
  · next interruption interrupted => simpa only [interrupted, Option.getD_some] using stops
  · next free => simpa only [free, Option.getD_none] using stops

theorem finishTask_acts {compiler : Compiler} {around : Interference} {run : Run} {world : World}
    {units : List TemplateUnit} {tasks : List Task} {aborted : Bool} {index since : Nat}
    {template : TemplateUnit} (phase : run.phase = .together units tasks aborted)
    (runs : tasks[index]? = some (.running since)) (unit : units[index]? = some template) :
    Acts compiler around run world
      (run.finishTask compiler world units tasks aborted index since template).1
      (run.finishTask compiler world units tasks aborted index since template).2 := by
  unfold finishTask
  simp only [Bool.or_true, Bool.or_false]
  split
  · next diagnostic fault => exact .taskMalformed phase runs unit fault
  next sound =>
  simp only [call]
  split
  · next diagnostic answer => exact .taskRefused phase runs unit sound answer
  · next body answer => exact .taskAccepted phase runs unit sound answer

theorem compileTogether_acts {compiler : Compiler} {around : Interference} {run : Run}
    {world : World} {units : List TemplateUnit} {tasks : List Task} {aborted : Bool}
    (phase : run.phase = .together units tasks aborted) :
    Acts compiler around run world
      (run.compileTogether compiler around world units tasks aborted).1
      (run.compileTogether compiler around world units tasks aborted).2 := by
  unfold compileTogether
  simp only
  split
  · next idle => exact gather_acts phase idle
  next index picked =>
  split
  · next since template runs unit => exact finishTask_acts phase runs unit
  · next unready =>
      exact .begun phase picked fun since template runs unit => unready since template runs unit

theorem aggregate_acts {compiler : Compiler} {around : Interference} {run : Run} {world : World}
    {units : List TemplateUnit} {bodies : List String}
    (phase : run.phase = .aggregating units bodies) :
    Acts compiler around run world (run.aggregate units bodies) world := by
  unfold aggregate
  simp only
  split
  · next failure refused => exact .unbundled phase refused
  · next bundle made => exact .bundled phase made

theorem write_acts {compiler : Compiler} {around : Interference} {run : Run} {world : World}
    {bundle : Bundle} {step : WriteStep} (phase : run.phase = .writing bundle step) :
    Acts compiler around run world (run.write around world bundle step).1
      (run.write around world bundle step).2 := by
  unfold write
  simp only
  split
  · next next after goes => exact .wrote phase goes
  · next failure after ends => exact .unwritten phase ends
  · next after ends => exact .written phase ends

theorem act_acts (compiler : Compiler) (around : Interference) (run : Run) (world : World) :
    Acts compiler around run world (run.act compiler around world).1
      (run.act compiler around world).2 := by
  unfold act
  split
  · next phase => exact discover_acts phase
  · next units bodies phase => exact compileNext_acts phase
  · next units phase => exact dispatch_acts phase
  · next units tasks aborted phase => exact compileTogether_acts phase
  · next units bodies phase => exact aggregate_acts phase
  · next bundle step phase => exact write_acts phase
  · next report phase => exact .rested (by simp [outcome?, phase])
  · next failure phase => exact .rested (by simp [outcome?, phase])

def seeing (run : Run) (around : Interference) : Run :=
  { run with cancelled := run.cancelled || around.cancels 0 }

theorem step_acts (compiler : Compiler) (around : Interference) (run : Run) (world : World) :
    ∃ next, Acts compiler around (run.seeing around) (world.after around.delay) next
        (run.step compiler around world).2 ∧
      (run.step compiler around world).1 =
        { next with cancelled := next.cancelled || around.cancel.isSome } :=
  ⟨_, act_acts compiler around (run.seeing around) (world.after around.delay), rfl⟩

section
variable {compiler : Compiler} (Holds : Run → World → Prop)

theorem step_keeps
    (blind : ∀ {run world} cancelled, Holds run world → Holds { run with cancelled } world)
    (timeless : ∀ {run world} delay, Holds run world → Holds run (world.after delay))
    (acts : ∀ {around run world next after}, Acts compiler around run world next after →
      Holds run world → Holds next after)
    (around : Interference) (run : Run) (world : World) (holds : Holds run world) :
    Holds (run.step compiler around world).1 (run.step compiler around world).2 := by
  obtain ⟨next, does, stepped⟩ := step_acts compiler around run world
  have seen : Holds (run.seeing around) (world.after around.delay) := timeless _ (blind _ holds)
  rw [stepped]
  exact blind _ (acts does seen)

theorem advance_keeps (around : Nat → Interference) (steps : Nat) (run : Run) (world : World)
    (keeps : ∀ index run world, Holds run world →
      Holds (run.step compiler (around index) world).1 (run.step compiler (around index) world).2)
    (holds : Holds run world) :
    Holds (advance compiler around steps run world).1
      (advance compiler around steps run world).2 := by
  induction steps generalizing around run world with
  | zero => exact holds
  | succ steps ih =>
      rw [advance]
      split
      · exact holds
      · exact ih (fun index => around (index + 1)) _ _ (fun index => keeps (index + 1))
          (keeps 0 run world holds)

theorem complete_keeps (around : Nat → Interference) (run : Run) (world : World)
    (keeps : ∀ index run world, Holds run world →
      Holds (run.step compiler (around index) world).1 (run.step compiler (around index) world).2)
    (holds : Holds run world) :
    Holds (complete compiler around run world).1 (complete compiler around run world).2 :=
  advance_keeps Holds (fun index => around (index + 1)) _ _ _ (fun index => keeps (index + 1))
    (keeps 0 run world holds)

end

theorem phase_of_ok {run : Run} {report : Report} (ends : run.outcome? = some (.ok report)) :
    run.phase = .serialized report := by
  unfold outcome? at ends
  split at ends
  · next other phase =>
      cases ends
      exact phase
  · simp at ends
  · simp at ends

theorem phase_of_error {run : Run} {failure : Failure}
    (ends : run.outcome? = some (.error failure)) : run.phase = .failed failure := by
  unfold outcome? at ends
  split at ends
  · simp at ends
  · next other phase =>
      cases ends
      exact phase
  · simp at ends

end Run

end TagTemplate
