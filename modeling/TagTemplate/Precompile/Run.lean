import TagTemplate.Precompile.Writing

/-! A run that compiles templates into a bundle, step by step. -/

namespace TagTemplate

structure Interference where
  /-- The number of looks at the signal after which the run sees itself cancelled; none when it is
  not cancelled during the step. -/
  cancel : Option Nat
  delay : Nat
  /-- The operations on files that fail, by their number within the step. -/
  fault : Nat → Option IoError
  /-- The task that goes on, among those that can, when templates are compiled together. -/
  pick : Nat

def Interference.none : Interference := ⟨Option.none, 0, fun _ => Option.none, 0⟩

def Interference.cancels (around : Interference) (look : Nat) : Bool :=
  match around.cancel with
  | some looks => decide (looks ≤ look)
  | Option.none => false

inductive Task where
  | waiting
  | running (since : Nat)
  | done (result : Except Failure String)
  | skipped

inductive RunPhase where
  | discovering
  | compiling (units : List TemplateUnit) (bodies : List String)
  | dispatching (units : List TemplateUnit)
  /-- All together; after a failure no more are begun. -/
  | together (units : List TemplateUnit) (tasks : List Task) (aborted : Bool)
  | aggregating (units : List TemplateUnit) (bodies : List String)
  | writing (bundle : Bundle) (step : WriteStep)
  | serialized (report : Report)
  | failed (failure : Failure)

structure Run where
  options : Options
  phase : RunPhase
  cancelled : Bool
  deadline : Option Nat
  calls : Nat
  trace : List RunState

namespace Run

def start (options : Options) (cancelled : Bool) (now : Nat) : Run where
  options := options
  phase := .discovering
  cancelled := cancelled
  deadline := options.timeout.map (now + ·)
  calls := 0
  trace := []

def outcome? (run : Run) : Option (Except Failure Report) :=
  match run.phase with
  | .serialized report => some (.ok report)
  | .failed failure => some (.error failure)
  | _ => none

def isLate (run : Run) (now : Nat) : Bool :=
  match run.deadline with
  | some deadline => decide (deadline ≤ now)
  | none => false

def interruption? (run : Run) (now : Nat) (stage : Stage) : Option Interruption :=
  if run.cancelled then some (.before stage)
  else if run.isLate now then some (.deadline (run.options.timeout.getD 0) stage)
  else none

def enter (run : Run) (state : RunState) : Run := { run with trace := state :: run.trace }

def fail (run : Run) (failure : Failure) : Run :=
  { run.enter (.failed failure.message) with phase := .failed failure }

def call (compiler : Compiler) (run : Run) (files : FileTree) (source : String) : Run × Answer :=
  let answer := compiler run.calls files source
  ({ run with calls := run.calls + 1, cancelled := run.cancelled || answer.cancels }, answer)

def discover (around : Interference) (run : Run) (files : FileTree) : Run :=
  let run := run.enter .discovering
  let obstacles : Discovery.Obstacles :=
    ⟨fun look => run.cancelled || around.cancels look, around.fault⟩
  let options := run.options
  match TagTemplate.discover obstacles files options.root options.suffix options.templates with
  | .error failure => run.fail failure
  | .ok units =>
      if options.parallel && decide (1 < units.length) then
        { run with phase := .dispatching units }
      else { run with phase := .compiling units [] }

def compileNext (compiler : Compiler) (run : Run) (world : World) (units : List TemplateUnit)
    (bodies : List String) : Run × World :=
  match units[bodies.length]? with
  | none => ({ run with phase := .aggregating units bodies }, world)
  | some template =>
      let run := run.enter (.compiling bodies.length)
      match run.interruption? world.now .compiling with
      | some interruption => (run.fail (.cancelled interruption), world)
      | none =>
          match structureFault? template.source with
          | some diagnostic => (run.fail (.rejected template.name diagnostic), world)
          | none =>
              let (run, answer) := run.call compiler world.files template.source
              let world := { world.after answer.takes with files := answer.files }
              match answer.result with
              | .error diagnostic => (run.fail (.rejected template.name diagnostic), world)
              | .ok body => ({ run with phase := .compiling units (bodies ++ [body]) }, world)

def dispatch (run : Run) (now : Nat) (units : List TemplateUnit) : Run :=
  let run := run.enter (.compiling 0)
  match run.interruption? now .compiling with
  | some interruption => run.fail (.cancelled interruption)
  | none => { run with phase := .together units (units.map fun _ => .waiting) false }

def ready (tasks : List Task) : List Nat :=
  let indices := List.range tasks.length
  (indices.filter fun index => match tasks[index]? with | some .waiting => true | _ => false) ++
    indices.filter fun index => match tasks[index]? with | some (.running _) => true | _ => false

def failureOf? : Task → Option Failure
  | .done (.error failure) => some failure
  | _ => none

def bodyOf? : Task → Option String
  | .done (.ok body) => some body
  | _ => none

/-- Goes on from tasks that have all ended. The failure of the first template that failed counts. -/
def gather (run : Run) (now : Nat) (units : List TemplateUnit) (tasks : List Task) : Run :=
  match tasks.findSome? failureOf? with
  | some failure => run.fail failure
  | none =>
      let bodies := tasks.filterMap bodyOf?
      if bodies.length = tasks.length then { run with phase := .aggregating units bodies }
      else
        match run.interruption? now .compiling with
        | some interruption => run.fail (.cancelled interruption)
        | none => run.fail (.cancelled .aborted)

def finishTask (compiler : Compiler) (run : Run) (world : World) (units : List TemplateUnit)
    (tasks : List Task) (aborted : Bool) (index since : Nat) (template : TemplateUnit) :
    Run × World :=
  let ended (run : Run) (result : Except Failure String) (failed : Bool) : Run :=
    { run with phase := .together units (tasks.set index (.done result)) (aborted || failed) }
  match structureFault? template.source with
  | some diagnostic => (ended run (.error (.rejected template.name diagnostic)) true, world)
  | none =>
      let (run, answer) := run.call compiler world.files template.source
      let world :=
        { world with files := answer.files, now := max world.now (since + answer.takes) }
      match answer.result with
      | .error diagnostic => (ended run (.error (.rejected template.name diagnostic)) true, world)
      | .ok body => (ended run (.ok body) false, world)

def compileTogether (compiler : Compiler) (around : Interference) (run : Run) (world : World)
    (units : List TemplateUnit) (tasks : List Task) (aborted : Bool) : Run × World :=
  let able := ready tasks
  match able[around.pick % able.length]? with
  | none => (run.gather world.now units tasks, world)
  | some index =>
      match tasks[index]?, units[index]? with
      | some (.running since), some template =>
          run.finishTask compiler world units tasks aborted index since template
      | _, _ =>
          let next : Task :=
            if aborted || run.cancelled || run.isLate world.now then .skipped
            else .running world.now
          ({ run with phase := .together units (tasks.set index next) aborted }, world)

def aggregate (run : Run) (units : List TemplateUnit) (bodies : List String) : Run :=
  let run := run.enter .aggregating
  match Bundle.empty.insertAll ((units.map (·.name)).zip bodies) with
  | .error failure => run.fail failure
  | .ok bundle => { run with phase := .writing bundle .checking }

def textOf (run : Run) (bundle : Bundle) : String := bundle.render run.options.format

def write (around : Interference) (run : Run) (world : World) (bundle : Bundle)
    (step : WriteStep) : Run × World :=
  let job : WriteJob := ⟨run.options.output, run.options.lockTimeout, run.textOf bundle⟩
  match job.step (run.interruption? world.now .writing) (around.fault 0) world step with
  | (.going next, world) => ({ run with phase := .writing bundle next }, world)
  | (.done (some failure), world) => (run.fail failure, world)
  | (.done none, world) =>
      let report : Report := ⟨job.output, bundle.names, job.text.utf8ByteSize⟩
      ({ run.enter .serialized with phase := .serialized report }, world)

def act (compiler : Compiler) (around : Interference) (run : Run) (world : World) : Run × World :=
  match run.phase with
  | .discovering => (run.discover around world.files, world)
  | .compiling units bodies => run.compileNext compiler world units bodies
  | .dispatching units => (run.dispatch world.now units, world)
  | .together units tasks aborted =>
      run.compileTogether compiler around world units tasks aborted
  | .aggregating units bodies => (run.aggregate units bodies, world)
  | .writing bundle step => run.write around world bundle step
  | .serialized _ | .failed _ => (run, world)

def step (compiler : Compiler) (around : Interference) (run : Run) (world : World) : Run × World :=
  let seen := { run with cancelled := run.cancelled || around.cancels 0 }
  let (run, world) := seen.act compiler around (world.after around.delay)
  ({ run with cancelled := run.cancelled || around.cancel.isSome }, world)

def advance (compiler : Compiler) : (Nat → Interference) → Nat → Run → World → Run × World
  | _, 0, run, world => (run, world)
  | around, steps + 1, run, world =>
      if run.outcome?.isSome then (run, world)
      else
        let (run, world) := run.step compiler (around 0) world
        advance compiler (fun index => around (index + 1)) steps run world

def taskSteps : Task → Nat
  | .waiting => 2
  | .running _ => 1
  | .done _ | .skipped => 0

def tasksSteps : List Task → Nat
  | [] => 0
  | task :: rest => taskSteps task + tasksSteps rest

/-- A number of steps within which a run ends that has found its templates. -/
def remaining (run : Run) (now : Nat) : Nat :=
  let writing := WriteStep.remaining run.options.lockTimeout now .checking
  match run.phase with
  | .discovering => 0
  | .compiling units bodies => units.length - bodies.length + writing + 2
  | .dispatching units => 2 * units.length + writing + 3
  | .together _ tasks _ => tasksSteps tasks + writing + 2
  | .aggregating _ _ => writing + 1
  | .writing _ step => step.remaining run.options.lockTimeout now
  | .serialized _ | .failed _ => 0

def complete (compiler : Compiler) (around : Nat → Interference) (run : Run) (world : World) :
    Run × World :=
  let (run, world) := run.step compiler (around 0) world
  advance compiler (fun index => around (index + 1)) (run.remaining world.now) run world

def state (run : Run) : RunState := run.trace.head?.getD .configured

end Run

end TagTemplate
