import TagTemplate.Proofs.Precompile.Atomicity
import TagTemplate.Proofs.Precompile.Stopping

/-! Runs that are cancelled, or whose time is over, before they begin to replace their output. -/

namespace TagTemplate

def RunPhase.looksAhead : RunPhase → Bool
  | .writing _ step => step.looksAhead
  | .serialized _ | .failed _ => false
  | _ => true

def RunPhase.looksAgain : RunPhase → Bool
  | .writing _ (.rechecking _) => false
  | phase => phase.looksAhead

namespace Run

/-- A run is stopped in its next step, before its last look at the signal: by the time at which the
step looks at it, or at its end if there is another look to come. -/
inductive StoppedIn (compiler : Compiler) (around : Interference) (run : Run) (world : World) : Prop
  | seen (ahead : run.phase.looksAhead = true)
      (stopped : (run.seeing around).isStopped (world.after around.delay).now = true)
  | later (again : run.phase.looksAgain = true)
      (stopped : (run.step compiler around world).1.isStopped
        (run.step compiler around world).2.now = true)

structure Doomed (found : Interference) (compiler : Compiler) (first : Run) (start : World)
    (run : Run) (world : World) : Prop where
  stopped : run.isStopped world.now = true
  barred : run.phase.Barred
    (Excused compiler first.options.output (first.found found start))

section
variable {compiler : Compiler} {around : Nat → Interference} {run first : Run} {world start : World}

theorem StoppedIn.ahead {around : Interference} (stops : StoppedIn compiler around run world) :
    run.phase.looksAhead = true := by
  cases stops with
  | seen ahead stopped => exact ahead
  | later again stopped =>
      unfold RunPhase.looksAgain at again
      split at again
      · simp at again
      · exact again

theorem StoppedIn.sees {around : Interference} (stops : StoppedIn compiler around run world)
    {bundle : Bundle} {lock : Location} (last : run.phase = .writing bundle (.rechecking lock)) :
    (run.seeing around).isStopped (world.after around.delay).now = true := by
  cases stops with
  | seen ahead stopped => exact stopped
  | later again stopped =>
      rw [last] at again
      simp [RunPhase.looksAgain] at again

theorem barred_of_ahead {Excuses : Failure → Prop} (ahead : run.phase.looksAhead = true) :
    run.phase.Barred Excuses := by
  cases phase : run.phase with
  | writing bundle step =>
      rw [phase] at ahead
      cases step with
      | releasing => simp [RunPhase.looksAhead, WriteStep.looksAhead] at ahead
      | _ => exact ahead
  | serialized => simp [phase, RunPhase.looksAhead] at ahead
  | failed => simp [phase, RunPhase.looksAhead] at ahead
  | _ => trivial

theorem going_of_ahead (ahead : run.phase.looksAhead = true) : run.outcome? = none := by
  unfold outcome?
  split
  · next phase => simp [phase, RunPhase.looksAhead] at ahead
  · next phase => simp [phase, RunPhase.looksAhead] at ahead
  · rfl

theorem step_barred_first {around : Interference} (begins : run.phase = .discovering) :
    (run.step compiler around world).1.phase.Barred
      (Excused compiler run.options.output (run.found around world)) := by
  obtain ⟨failure, cancelled, refused, stepped⟩ | ⟨units, cancelled, _, stepped⟩ :=
    step_discovers compiler around world begins
  · rw [stepped]
    exact .undiscovered refused
  · rw [stepped]
    rcases firstPhase_eq run.options units with first | first
    · rw [first]
      trivial
    · rw [first]
      trivial

theorem step_barred {found around : Interference} (proper : start.files.Proper)
    (sound : Sound compiler first.options start.files run world)
    (underWay : UnderWay found first start run) (going : run.outcome? = none)
    (stops : ∀ bundle lock, run.phase = .writing bundle (.rechecking lock) →
      (run.seeing around).isStopped (world.after around.delay).now = true)
    (barred : run.phase.Barred (Excused compiler first.options.output (first.found found start))) :
    (run.step compiler around world).1.phase.Barred
      (Excused compiler first.options.output (first.found found start)) := by
  rcases underWay with ⟨failure, _, failed, _⟩ | ⟨units, all, travelled⟩
  · simp [outcome?, failed] at going
  obtain ⟨next, acts, stepped⟩ := step_acts compiler around run world
  rw [stepped]
  exact acts.barred proper ⟨sound.options_eq, sound.phase, sound.state⟩ all
    ⟨travelled.options_eq, travelled.entered⟩ stops barred

theorem advance_doomed (begins : run.phase = .discovering) (proper : world.files.Proper)
    {count : Nat} (stops : StoppedIn compiler (around count)
      (advance compiler around count run world).1 (advance compiler around count run world).2)
    (more : Nat) :
    Doomed (around 0) compiler run world (advance compiler around (count + 1 + more) run world).1
      (advance compiler around (count + 1 + more) run world).2 := by
  induction more with
  | zero =>
      have going := going_of_ahead stops.ahead
      rw [Nat.add_zero, advance_succ, if_neg (by simp [going])]
      constructor
      · cases stops with
        | seen ahead stopped => exact isStopped_step compiler stopped
        | later again stopped => exact stopped
      · -- The very first step is the one that finds the templates.
        cases count with
        | zero => exact step_barred_first begins
        | succ count =>
            apply step_barred proper (advance_sound compiler around world begins (count + 1))
              (advance_underWay compiler around world begins count) going
            · exact fun bundle lock last => stops.sees last
            · exact barred_of_ahead stops.ahead
  | succ more ih =>
      rw [← Nat.add_assoc, advance_succ]
      split
      · exact ih
      · next going =>
          have seen := isStopped_seeing (around (count + 1 + more)) ih.stopped
          constructor
          · exact isStopped_step compiler seen
          · apply step_barred proper (advance_sound compiler around world begins (count + 1 + more))
              _ (by simpa using going) (fun _ _ _ => seen) ih.barred
            have underWay := advance_underWay compiler around world begins (count + more)
            rwa [Nat.add_right_comm] at underWay

theorem step_idle (compiler : Compiler) {around : Interference}
    (seen : (run.seeing around).isStopped (world.after around.delay).now = true)
    (apart : run.phase.Apart) :
    (run.step compiler around world).1.calls = run.calls ∧
      (run.step compiler around world).1.phase.Apart := by
  obtain ⟨next, acts, stepped⟩ := step_acts compiler around run world
  obtain ⟨calls, apart⟩ := acts.idle seen apart
  rw [stepped]
  exact ⟨calls, apart⟩

theorem advance_idle (compiler : Compiler) (around : Nat → Interference) (steps : Nat)
    (stopped : (advance compiler around steps run world).1.isStopped
      (advance compiler around steps run world).2.now = true)
    (apart : (advance compiler around steps run world).1.phase.Apart) (more : Nat) :
    (advance compiler around (steps + more) run world).1.isStopped
        (advance compiler around (steps + more) run world).2.now = true ∧
      (advance compiler around (steps + more) run world).1.phase.Apart ∧
      (advance compiler around (steps + more) run world).1.calls =
        (advance compiler around steps run world).1.calls := by
  induction more with
  | zero => exact ⟨stopped, apart, rfl⟩
  | succ more ih =>
      obtain ⟨stopped, apart, calls⟩ := ih
      rw [← Nat.add_assoc, advance_succ]
      split
      · exact ⟨stopped, apart, calls⟩
      · have seen := isStopped_seeing (around (steps + more)) stopped
        obtain ⟨same, apart⟩ := step_idle compiler seen apart
        exact ⟨isStopped_step compiler seen, apart, same.trans calls⟩

theorem UnderWay.apart {found : Interference} (underWay : UnderWay found first start run)
    (alone : ∀ units, first.found found start = .ok units →
      first.options.together units.length = false) : run.phase.Apart := by
  rcases underWay with ⟨failure, _, failed, _⟩ | ⟨units, all, _, entered, _, reached⟩
  · rw [failed]
    trivial
  · cases phase : run.phase with
    | together others tasks aborted =>
        rw [phase] at reached
        obtain ⟨_, joined, _⟩ := reached
        simp [alone units all] at joined
    | _ => trivial

theorem advance_apart (compiler : Compiler) (begins : run.phase = .discovering)
    (alone : ∀ units, run.found (around 0) world = .ok units →
      run.options.together units.length = false) (steps : Nat) :
    (advance compiler around steps run world).1.phase.Apart := by
  cases steps with
  | zero =>
      rw [advance, begins]
      trivial
  | succ steps => exact (advance_underWay compiler around world begins steps).apart alone

theorem step_calls_le (compiler : Compiler) (around : Interference) (run : Run) (world : World) :
    (run.step compiler around world).1.calls ≤ run.calls + 1 := by
  obtain ⟨next, acts, stepped⟩ := step_acts compiler around run world
  rw [stepped]
  exact acts.calls_le

theorem complete_calls_of_cancelled (begins : run.phase = .discovering)
    (cancelled : run.cancelled = true) :
    (complete compiler around run world).1.calls = run.calls := by
  have stopped : run.isStopped world.now = true := by simp [isStopped, cancelled]
  have apart : run.phase.Apart := begins ▸ trivial
  have idle := advance_idle compiler around 0 stopped apart
    (duration compiler around run world)
  rw [complete_eq_advance compiler around world begins]
  rw [Nat.zero_add] at idle
  exact idle.2.2

theorem Excused.early {around : Interference} {failure : Failure}
    (excused : Excused compiler run.options.output (run.found around world) failure) :
    failure.isLate = false := by
  cases excused with
  | undiscovered refused => exact (discover_refuses refused).early
  | rejected all member rejects => exact rejects.early
  | unready fault early =>
      cases fault with
      | replace => simp [WriteFault.isEarly] at early
      | _ => rfl
  | stopped interruption => rfl

theorem Doomed.failed {found : Interference}
    (doomed : Doomed found compiler first start run world) (ended : run.outcome?.isSome) :
    ∃ failure, run.phase = .failed failure ∧
      Excused compiler first.options.output (first.found found start) failure := by
  obtain ⟨outcome, ending⟩ := Option.isSome_iff_exists.mp ended
  have barred := doomed.barred
  cases outcome with
  | ok report =>
      rw [phase_of_ok ending] at barred
      exact barred.elim
  | error failure =>
      have phase := phase_of_error ending
      rw [phase] at barred
      exact ⟨failure, phase, barred⟩

theorem Sound.spares {options : Options} {before : FileTree} {failure : Failure}
    (sound : Sound compiler options before run world) (phase : run.phase = .failed failure)
    (early : failure.isLate = false) :
    ∃ left, compiler.Leaves before left ∧ (compiler.KeepsFiles → left = before) ∧
      FileTree.Spares options.output left world.files := by
  have holds := sound.phase
  rw [phase] at holds
  obtain ⟨left, leaves, output⟩ := holds
  rw [if_neg (by simp [early])] at output
  exact ⟨left, leaves, leaves.eq, output.spares⟩

end

structure Halts (compiler : Compiler) (around : Nat → Interference) (run : Run) (world : World)
    (count : Nat) (failure : Failure) : Prop where
  outcome : (complete compiler around run world).1.outcome? = some (.error failure)
  state : (complete compiler around run world).1.state = .failed failure.message
  excused : Excused compiler run.options.output (run.found (around 0) world) failure
  spared : ∃ left, compiler.Leaves world.files left ∧
    (compiler.KeepsFiles → left = world.files) ∧
    FileTree.Spares run.options.output left (complete compiler around run world).2.files
  /-- One template after another: only a call in this very step can still come, and none if the step
  sees that the run is stopped. -/
  calls : (∀ units, run.found (around 0) world = .ok units →
      run.options.together units.length = false) →
    let (here, now) := advance compiler around count run world
    let after := (here.step compiler (around count) now).1
    (complete compiler around run world).1.calls = after.calls ∧
      after.calls ≤ here.calls + 1 ∧
      ((here.seeing (around count)).isStopped (now.after (around count).delay).now = true →
        after.calls = here.calls)
  uncalled : run.cancelled = true → (complete compiler around run world).1.calls = run.calls

/-- A run that is stopped before its last look at the signal fails, and spares its output. -/
theorem complete_halts (compiler : Compiler) (around : Nat → Interference) {run : Run}
    {world : World} (begins : run.phase = .discovering) (proper : world.files.Proper) (count : Nat)
    (stops : StoppedIn compiler (around count) (advance compiler around count run world).1
      (advance compiler around count run world).2) :
    ∃ failure, Halts compiler around run world count failure := by
  have going := going_of_ahead stops.ahead
  have next : advance compiler around (count + 1) run world =
      (advance compiler around count run world).1.step compiler (around count)
        (advance compiler around count run world).2 := by
    rw [advance_succ, if_neg (by simp [going])]
  obtain ⟨more, whole⟩ := complete_after compiler around world begins going
  have sound := advance_sound compiler around world begins (count + 1 + more)
  have doomed := advance_doomed begins proper stops more
  rw [← whole] at sound doomed
  obtain ⟨failure, phase, excused⟩ := doomed.failed (complete_ended compiler around world begins)
  refine ⟨failure, ?_, sound.state phase, excused, sound.spares phase excused.early, ?_, ?_⟩
  · simp [outcome?, phase]
  · intro alone
    have idle := advance_idle compiler around (count + 1)
      (advance_doomed begins proper stops 0).stopped
      (advance_apart compiler begins alone (count + 1)) more
    rw [← whole, next] at idle
    refine ⟨idle.2.2, step_calls_le compiler _ _ _, fun seen => ?_⟩
    exact (step_idle compiler seen (advance_apart compiler begins alone count)).1
  · exact complete_calls_of_cancelled begins

def cutShort : Run :=
  start ⟨.ofString "t", ".hbs", .ofString "o", ["b", "a/c"], .plain, false, none, 0⟩ false 0

def cutShortAround (index : Nat) : Interference :=
  if index = 1 then { Interference.none with cancel := some 1 } else .none

theorem cutShort_halts : cutShort.phase = .discovering ∧ Discovery.linkedTree.Proper ∧
    StoppedIn (.ofFunction .ok) (cutShortAround 1)
      (advance (.ofFunction .ok) cutShortAround 1 cutShort ⟨Discovery.linkedTree, [], 0⟩).1
      (advance (.ofFunction .ok) cutShortAround 1 cutShort ⟨Discovery.linkedTree, [], 0⟩).2 ∧
    ∃ failure, Halts (.ofFunction .ok) cutShortAround cutShort ⟨Discovery.linkedTree, [], 0⟩ 1
      failure := by
  have stops : StoppedIn (.ofFunction .ok) (cutShortAround 1)
      (advance (.ofFunction .ok) cutShortAround 1 cutShort ⟨Discovery.linkedTree, [], 0⟩).1
      (advance (.ofFunction .ok) cutShortAround 1 cutShort ⟨Discovery.linkedTree, [], 0⟩).2 :=
    .later (by decide +kernel) (by decide +kernel)
  exact ⟨rfl, Discovery.proper_linkedTree, stops,
    complete_halts _ _ rfl Discovery.proper_linkedTree 1 stops⟩

def overtaken (around : Nat → Interference) (output : Path) (files : FileTree)
    (locks : List Location) (steps : Nat) : Run × World :=
  advance (.ofFunction .ok) around steps
    (start ⟨.current, "", output, ["a"], .plain, false, some 1000, 2000⟩ false 0) ⟨files, locks, 0⟩

def bypathOutput : Path := .ofString "new/../x"

def bypathFiles : FileTree :=
  ⟨[(["a".toList], .file "A".toUTF8 false), (["x".toList], .file "X".toUTF8 false),
    ([".x.lock".toList], .file ByteArray.empty false)], []⟩

def bypath : Nat → Run × World :=
  overtaken (fun _ => .none) bypathOutput bypathFiles [[".x.lock".toList]]

def lockLinkFiles : FileTree :=
  ⟨[(["a".toList], .file "A".toUTF8 false), (["x".toList], .link (.ofString ".x.lock"))], []⟩

def lockLinkAround (index : Nat) : Interference :=
  if index = 5 then { Interference.none with cancel := some 0 } else .none

def lockLink : Nat → Run × World :=
  overtaken lockLinkAround (.ofString "x") lockLinkFiles []

/-- Getting ready to write is enough for the path of the output to lead to a file: one that was
there, behind the directory that is made, or the lock. -/
theorem bypath_and_lockLink :
    StoppedIn (.ofFunction .ok) .none (bypath 15).1 (bypath 15).2 ∧
    (bypath 18).1.outcome? = some (.error (.outputNotWritten bypathOutput
      (.lock (.busy (Lock.pathFor bypathOutput) (Lock.purposeFor bypathOutput) 2000)))) ∧
    (bypathFiles.read bypathOutput).toOption = none ∧
    ((bypath 18).2.files.read bypathOutput).toOption = some "X".toUTF8 ∧
    StoppedIn (.ofFunction .ok) (lockLinkAround 5) (lockLink 5).1 (lockLink 5).2 ∧
    (lockLink 11).1.outcome? = some (.error (.cancelled (.before .writing))) ∧
    (lockLinkFiles.read (.ofString "x")).toOption = none ∧
    ((lockLink 11).2.files.read (.ofString "x")).toOption = some ByteArray.empty := by
  refine ⟨.seen ?_ ?_, ?_, ?_, ?_, .seen ?_ ?_, ?_, ?_, ?_⟩ <;> decide +kernel

end Run

end TagTemplate
