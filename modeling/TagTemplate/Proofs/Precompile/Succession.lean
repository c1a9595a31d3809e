import TagTemplate.Proofs.Precompile.Blame

/-! Runs one after another, each from where the one before it has ended. -/

namespace TagTemplate

theorem Options.Transits.last {options : Options} {found : Except Failure (List TemplateUnit)}
    {entered : List RunState} {outcome : Except Failure Report}
    (transits : options.Transits found entered outcome) :
    entered.getLast? = some (match outcome with
      | .ok _ => .serialized
      | .error failure => .failed failure.message) := by
  cases transits with
  | unfound refused => rfl
  | whole all report => simp [itinerary, List.getLast?_cons, List.getLast?_append]
  | short all route begun ahead failure => simp

theorem Options.Transits.unfound_eq {options : Options} {failure : Failure}
    {entered : List RunState} {outcome : Except Failure Report}
    (transits : options.Transits (.error failure) entered outcome) : outcome = .error failure := by
  cases transits with
  | unfound refused =>
      cases refused
      rfl
  | whole all => simp at all
  | short all => simp at all

theorem Discovery.Refuses.isRejection {obstacles : Discovery.Obstacles} {failure : Failure}
    (refuses : Discovery.Refuses obstacles failure) : failure.isRejection = false := by
  cases refuses <;> rfl

namespace Run

/-- A new run from where another one has ended: the signal stays, as does what was counted. -/
def again (past : Run) (now : Nat) : Run :=
  { start past.options past.cancelled now with calls := past.calls, trace := past.trace }

/-- A run that compiles one template after another hands them over in their order, all of them if it
succeeds; if it is rejected, then for the next one. -/
structure HandsOver (compiler : Compiler) (around : Nat → Interference) (run : Run) (world : World)
    (units : List TemplateUnit) (log : List Handing) (outcome : Except Failure Report) : Prop where
  calls : (complete compiler around run world).1.calls = run.calls + log.length
  turn : InTurn units log
  all : (∃ report, outcome = .ok report) → log.map (·.template) = units
  rejected : ∀ failure, outcome = .error failure → failure.isRejection = true →
    FailsNext units log failure

structure Orderly (compiler : Compiler) (around : Nat → Interference) (run : Run) (world : World)
    (entered : List RunState) (outcome : Except Failure Report) : Prop where
  ends : (complete compiler around run world).1.outcome? = some outcome
  trace : (complete compiler around run world).1.trace = entered.reverse ++ run.trace
  transits : run.options.Transits (run.found (around 0) world) entered outcome
  serialized : (complete compiler around run world).1.state = .serialized ↔
    ∃ report, outcome = .ok report
  failed : ∀ reason, (complete compiler around run world).1.state = .failed reason ↔
    ∃ failure, outcome = .error failure ∧ reason = failure.message
  unfound : ∀ failure, run.found (around 0) world = .error failure →
    outcome = .error failure ∧ failure.isRejection = false
  -- One template after another, then all together.
  apart : ∀ units, run.found (around 0) world = .ok units →
    run.options.together units.length = false →
    run.HandsOver compiler around world units
      (handings compiler around run world (duration compiler around run world)) outcome
  joined : ∀ units, run.found (around 0) world = .ok units →
    run.options.together units.length = true →
    ∀ failure, outcome = .error failure → failure.isRejection = true →
      ∃ tasks, run.ComesTo compiler around world units tasks ∧
        Blamed compiler units tasks failure

section
variable {compiler : Compiler} {around : Nat → Interference} {run : Run} {world : World}
  {units : List TemplateUnit} {outcome : Except Failure Report}

theorem complete_handsOver (begins : run.phase = .discovering)
    (ends : (complete compiler around run world).1.outcome? = some outcome)
    (all : run.found (around 0) world = .ok units)
    (apart : run.options.together units.length = false) :
    run.HandsOver compiler around world units
      (handings compiler around run world (duration compiler around run world)) outcome := by
  have marching := advance_marching compiler around begins all apart
    ((run.step compiler (around 0) world).1.remaining (run.step compiler (around 0) world).2.now)
  rw [← duration, ← complete_eq_advance compiler around world begins] at marching
  obtain ⟨marches, calls⟩ := marching
  cases outcome with
  | ok report =>
      rw [phase_of_ok ends] at marches
      obtain ⟨all, turn, _⟩ := marches
      exact ⟨calls, turn, fun _ => all, by simp⟩
  | error failure =>
      rw [phase_of_error ends] at marches
      obtain ⟨turn, rejected⟩ := marches
      refine ⟨calls, turn, by simp, ?_⟩
      rintro other same rejection
      cases same
      exact rejected rejection

theorem complete_blames (begins : run.phase = .discovering) {failure : Failure}
    (ends : (complete compiler around run world).1.outcome? = some (.error failure))
    (all : run.found (around 0) world = .ok units)
    (joined : run.options.together units.length = true) (rejection : failure.isRejection = true) :
    ∃ tasks, run.ComesTo compiler around world units tasks ∧
      Blamed compiler units tasks failure := by
  have gathers := advance_gathers compiler around begins all joined
    ((run.step compiler (around 0) world).1.remaining (run.step compiler (around 0) world).2.now)
  rw [← duration, ← complete_eq_advance compiler around world begins, phase_of_error ends]
    at gathers
  exact gathers rejection

theorem complete_orderly (compiler : Compiler) (around : Nat → Interference) (world : World)
    (begins : run.phase = .discovering) :
    ∃ entered outcome, run.Orderly compiler around world entered outcome := by
  obtain ⟨entered, outcome, ends, trace, transits⟩ :=
    complete_transits compiler around world begins
  have last : (complete compiler around run world).1.trace.head? = entered.getLast? := by
    rw [trace, List.head?_append, List.head?_reverse, transits.last, Option.some_or]
  refine ⟨entered, outcome, ends, trace, transits, ?_, ?_, ?_, ?_, ?_⟩
  · rw [state, last, transits.last]
    cases outcome <;> simp
  · intro reason
    rw [state, last, transits.last]
    cases outcome <;> simp [eq_comm]
  · intro failure refused
    rw [refused] at transits
    exact ⟨transits.unfound_eq, (discover_refuses refused).isRejection⟩
  · intro units all apart
    exact complete_handsOver begins ends all apart
  · rintro units all joined failure rfl rejection
    exact complete_blames begins ends all joined rejection

end

end Run

end TagTemplate
