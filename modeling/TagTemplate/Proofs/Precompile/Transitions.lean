import TagTemplate.Proofs.Precompile.Course
import TagTemplate.Proofs.Precompile.Soundness

/-! The states that a run goes through. -/

namespace TagTemplate

namespace Options

def together (options : Options) (count : Nat) : Bool := options.parallel && decide (1 < count)

def compiling (options : Options) (count : Nat) : List RunState :=
  if options.together count then [.compiling 0] else (List.range count).map .compiling

def itinerary (options : Options) (count : Nat) : List RunState :=
  .discovering :: (options.compiling count ++ [.aggregating, .serialized])

/-- The states that a run enters one after another, and how it ends: it goes all the way, or only
some of it and then fails. -/
inductive Transits (options : Options) (found : Except Failure (List TemplateUnit)) :
    List RunState → Except Failure Report → Prop
  | unfound {failure} (refused : found = .error failure) :
      Transits options found [.discovering, .failed failure.message] (.error failure)
  | whole {units} (all : found = .ok units) (report) :
      Transits options found (options.itinerary units.length) (.ok report)
  | short {units front rest} (all : found = .ok units)
      (route : options.itinerary units.length = front ++ rest) (begun : front ≠ [])
      (ahead : rest ≠ []) (failure) :
      Transits options found (front ++ [.failed failure.message]) (.error failure)

theorem itinerary_front {options : Options} {count index : Nat}
    (apart : options.together count = false) (bound : index ≤ count) :
    ∃ rest, rest ≠ [] ∧ options.itinerary count =
      .discovering :: (List.range index).map .compiling ++ rest := by
  refine ⟨((List.range count).drop index).map .compiling ++ [.aggregating, .serialized], by simp, ?_⟩
  have whole : List.range count = List.range index ++ (List.range count).drop index := by
    rw [← List.take_append_drop index (List.range count), List.take_range, Nat.min_eq_left bound]
    simp
  rw [itinerary, compiling, apart]
  simp only [Bool.false_eq_true, ↓reduceIte]
  rw [whole]
  simp

end Options

def RunPhase.Reached (options : Options) (units : List TemplateUnit) (entered : List RunState) :
    RunPhase → Prop
  | .discovering => False
  | .compiling others bodies =>
      others = units ∧ options.together units.length = false ∧ bodies.length ≤ units.length ∧
        entered = .discovering :: (List.range bodies.length).map .compiling
  | .dispatching others =>
      others = units ∧ options.together units.length = true ∧ entered = [.discovering]
  | .together others _ _ =>
      others = units ∧ options.together units.length = true ∧
        entered = [.discovering, .compiling 0]
  | .aggregating _ _ => entered = .discovering :: options.compiling units.length
  | .writing _ _ => entered = .discovering :: (options.compiling units.length ++ [.aggregating])
  | .serialized _ => entered = options.itinerary units.length
  | .failed failure => ∃ front rest, options.itinerary units.length = front ++ rest ∧
      front ≠ [] ∧ rest ≠ [] ∧ entered = front ++ [.failed failure.message]

namespace Run

structure Travelled (options : Options) (units : List TemplateUnit) (past : List RunState)
    (run : Run) : Prop where
  options_eq : run.options = options
  entered : ∃ entered, run.trace = entered.reverse ++ past ∧
    run.phase.Reached options units entered

section
variable {compiler : Compiler} {around : Interference} {options : Options}
  {units : List TemplateUnit} {past : List RunState} {run next : Run} {world after : World}

theorem Travelled.fail {failure : Failure} {front rest : List RunState}
    (same : run.options = options) (route : options.itinerary units.length = front ++ rest)
    (begun : front ≠ []) (ahead : rest ≠ []) (trace : run.trace = front.reverse ++ past) :
    Travelled options units past (run.fail failure) := by
  refine ⟨same, front ++ [.failed failure.message], ?_, front, rest, route, begun, ahead, rfl⟩
  simp [Run.fail, enter, trace]

theorem Travelled.fail_together {failure : Failure} (same : run.options = options)
    (joined : options.together units.length = true)
    (trace : run.trace = [.discovering, .compiling 0].reverse ++ past) :
    Travelled options units past (run.fail failure) := by
  apply Travelled.fail same _ (by simp) (List.cons_ne_nil RunState.aggregating [.serialized]) trace
  simp [Options.itinerary, Options.compiling, joined]

theorem Travelled.fail_apart {failure : Failure} {index : Nat} (same : run.options = options)
    (apart : options.together units.length = false) (bound : index < units.length)
    (trace : run.trace = .compiling index ::
      ((.discovering :: (List.range index).map .compiling).reverse ++ past)) :
    Travelled options units past (run.fail failure) := by
  obtain ⟨rest, ahead, route⟩ := Options.itinerary_front apart (Nat.succ_le_of_lt bound)
  apply Travelled.fail same route (by simp) ahead
  simp [trace, List.range_succ]

theorem Travelled.fail_late {failure : Failure} (same : run.options = options)
    (trace : run.trace =
      (.discovering :: (options.compiling units.length ++ [.aggregating])).reverse ++ past) :
    Travelled options units past (run.fail failure) := by
  apply Travelled.fail same _ (by simp) (List.cons_ne_nil RunState.serialized []) trace
  simp [Options.itinerary]

theorem Acts.travelled (acts : Acts compiler around run world next after)
    (begun : run.phase ≠ .discovering) (travelled : Travelled options units past run) :
    Travelled options units past next := by
  obtain ⟨same, entered, trace, reached⟩ := travelled
  cases acts with
  | unfound phase _ => exact absurd phase begun
  | found phase _ => exact absurd phase begun
  | compiled phase all =>
      rw [phase] at reached
      obtain ⟨rfl, apart, bound, rfl⟩ := reached
      refine ⟨same, _, trace, ?_⟩
      have enough := List.getElem?_eq_none_iff.mp all
      rw [Nat.le_antisymm bound enough]
      simp [RunPhase.Reached, Options.compiling, apart]
  | stopped phase unit interrupted =>
      rw [phase] at reached
      obtain ⟨rfl, apart, _, rfl⟩ := reached
      obtain ⟨bound, _⟩ := List.getElem?_eq_some_iff.mp unit
      exact .fail_apart same apart bound (congrArg _ trace)
  | malformed phase unit free fault =>
      rw [phase] at reached
      obtain ⟨rfl, apart, _, rfl⟩ := reached
      obtain ⟨bound, _⟩ := List.getElem?_eq_some_iff.mp unit
      exact .fail_apart same apart bound (congrArg _ trace)
  | refused phase unit free sound answer =>
      rw [phase] at reached
      obtain ⟨rfl, apart, _, rfl⟩ := reached
      obtain ⟨bound, _⟩ := List.getElem?_eq_some_iff.mp unit
      exact .fail_apart same apart bound (congrArg _ trace)
  | @accepted others bodies template body phase unit free sound answer =>
      rw [phase] at reached
      obtain ⟨rfl, apart, _, rfl⟩ := reached
      obtain ⟨bound, _⟩ := List.getElem?_eq_some_iff.mp unit
      refine ⟨same, .discovering :: (List.range (bodies.length + 1)).map .compiling, ?_, rfl, apart,
        ?_, ?_⟩
      · simp [called, enter, trace, List.range_succ]
      · rw [List.length_append, List.length_singleton]
        exact bound
      · simp
  | undispatched phase interrupted =>
      rw [phase] at reached
      obtain ⟨rfl, joined, rfl⟩ := reached
      exact .fail_together same joined (by simp [enter, trace])
  | dispatched phase free =>
      rw [phase] at reached
      obtain ⟨rfl, joined, rfl⟩ := reached
      exact ⟨same, [.discovering, .compiling 0], by simp [enter, trace], rfl, joined, rfl⟩
  | begun phase picked idle =>
      rw [phase] at reached
      exact ⟨same, entered, trace, reached⟩
  | taskMalformed phase runs unit fault =>
      rw [phase] at reached
      exact ⟨same, entered, trace, reached⟩
  | taskRefused phase runs unit sound answer =>
      rw [phase] at reached
      exact ⟨same, entered, trace, reached⟩
  | taskAccepted phase runs unit sound answer =>
      rw [phase] at reached
      exact ⟨same, entered, trace, reached⟩
  | gatheredFailure phase idle failed =>
      rw [phase] at reached
      obtain ⟨rfl, joined, rfl⟩ := reached
      exact .fail_together same joined trace
  | gathered phase idle unfailed all =>
      rw [phase] at reached
      obtain ⟨rfl, joined, rfl⟩ := reached
      exact ⟨same, _, trace, by simp [RunPhase.Reached, Options.compiling, joined]⟩
  | gatheredSkips phase idle unfailed some =>
      rw [phase] at reached
      obtain ⟨rfl, joined, rfl⟩ := reached
      exact .fail_together same joined trace
  | unbundled phase refused =>
      rw [phase] at reached
      obtain rfl : entered = _ := reached
      exact .fail_late same (by simp [enter, trace])
  | bundled phase made =>
      rw [phase] at reached
      obtain rfl : entered = _ := reached
      exact ⟨same, _, by simp [enter, trace], rfl⟩
  | wrote phase goes =>
      rw [phase] at reached
      exact ⟨same, entered, trace, reached⟩
  | unwritten phase ends =>
      rw [phase] at reached
      obtain rfl : entered = _ := reached
      exact .fail_late same trace
  | written phase ends =>
      rw [phase] at reached
      obtain rfl : entered = _ := reached
      exact ⟨same, options.itinerary units.length, by simp [enter, trace, Options.itinerary], rfl⟩
  | rested ended => exact ⟨same, entered, trace, reached⟩

theorem Travelled.step (travelled : Travelled options units past run)
    (begun : run.phase ≠ .discovering) (around : Interference) (world : World) :
    Travelled options units past (run.step compiler around world).1 := by
  obtain ⟨next, acts, stepped⟩ := step_acts compiler around run world
  have seen : Travelled options units past (run.seeing around) :=
    ⟨travelled.options_eq, travelled.entered⟩
  obtain ⟨same, entered⟩ := acts.travelled begun seen
  rw [stepped]
  exact ⟨same, entered⟩

def found (around : Interference) (run : Run) (world : World) :
    Except Failure (List TemplateUnit) :=
  (run.seeing around).discovery around world.files

theorem step_discovers (compiler : Compiler) (around : Interference) (world : World)
    (begins : run.phase = .discovering) :
    (∃ failure cancelled, run.found around world = .error failure ∧
      (run.step compiler around world).1 =
        { (run.enter .discovering).fail failure with cancelled }) ∨
    ∃ units cancelled, run.found around world = .ok units ∧
      (run.step compiler around world).1 =
        { run.enter .discovering with phase := firstPhase run.options units, cancelled } := by
  obtain ⟨next, acts, stepped⟩ := step_acts compiler around run world
  rw [stepped]
  generalize (run.step compiler around world).2 = after at acts
  cases acts with
  | unfound _ refused => exact Or.inl ⟨_, _, refused, rfl⟩
  | found _ found => exact Or.inr ⟨_, _, found, rfl⟩
  | rested ended => simp [outcome?, seeing, begins] at ended
  | _ phase => simp [seeing, begins] at phase

def UnderWay (around : Interference) (first : Run) (world : World) (run : Run) : Prop :=
  (∃ failure, first.found around world = .error failure ∧ run.phase = .failed failure ∧
      run.trace = .failed failure.message :: .discovering :: first.trace) ∨
    ∃ units, first.found around world = .ok units ∧
      Travelled first.options units first.trace run

theorem step_underWay (compiler : Compiler) (around : Interference) (world : World)
    (begins : run.phase = .discovering) :
    UnderWay around run world (run.step compiler around world).1 := by
  obtain ⟨failure, cancelled, refused, stepped⟩ | ⟨units, cancelled, all, stepped⟩ :=
    step_discovers compiler around world begins
  · rw [stepped]
    exact Or.inl ⟨failure, refused, rfl, rfl⟩
  · rw [stepped]
    refine Or.inr ⟨units, all, rfl, [.discovering], rfl, ?_⟩
    simp only [firstPhase]
    split
    · next joined => exact ⟨rfl, joined, rfl⟩
    · next apart => exact ⟨rfl, Bool.eq_false_iff.mpr apart, by simp, by simp⟩

theorem UnderWay.begun {first : Run} {start : World} {found : Interference}
    (underWay : UnderWay found first start run) : run.phase ≠ .discovering := by
  rcases underWay with ⟨failure, _, failed, _⟩ | ⟨units, _, _, _, _, reached⟩
  · simp [failed]
  · intro phase
    rw [phase] at reached
    exact reached

theorem UnderWay.step {first : Run} {start : World} {found : Interference}
    (underWay : UnderWay found first start run) (going : run.outcome? = none)
    (around : Interference) (world : World) :
    UnderWay found first start (run.step compiler around world).1 := by
  have begun := underWay.begun
  rcases underWay with ⟨failure, _, failed, _⟩ | ⟨units, all, travelled⟩
  · simp [outcome?, failed] at going
  · exact Or.inr ⟨units, all, travelled.step begun around world⟩

theorem advance_underWay (compiler : Compiler) (around : Nat → Interference) (world : World)
    (begins : run.phase = .discovering) (steps : Nat) :
    UnderWay (around 0) run world (advance compiler around (steps + 1) run world).1 := by
  induction steps with
  | zero =>
      rw [advance_one compiler around world begins]
      exact step_underWay compiler (around 0) world begins
  | succ steps ih =>
      rw [advance_succ]
      split
      · exact ih
      · next going => exact ih.step (by simpa using going) _ _

end

theorem complete_transits (compiler : Compiler) (around : Nat → Interference) {run : Run}
    (world : World) (begins : run.phase = .discovering) :
    ∃ entered outcome,
      (complete compiler around run world).1.outcome? = some outcome ∧
      (complete compiler around run world).1.trace = entered.reverse ++ run.trace ∧
      run.options.Transits (run.found (around 0) world) entered outcome := by
  have underWay : UnderWay (around 0) run world (complete compiler around run world).1 := by
    rw [complete_eq_advance compiler around world begins]
    exact advance_underWay compiler around world begins _
  have ends := complete_ended compiler around world begins
  generalize (complete compiler around run world).1 = ended at underWay ends
  obtain ⟨outcome, ending⟩ := Option.isSome_iff_exists.mp ends
  rcases underWay with ⟨failure, refused, failed, trace⟩ | ⟨units, all, _, entered, trace, reached⟩
  · refine ⟨[.discovering, .failed failure.message], .error failure, ?_, trace, .unfound refused⟩
    simp [outcome?, failed]
  · refine ⟨entered, outcome, ending, trace, ?_⟩
    cases outcome with
    | ok report =>
        rw [phase_of_ok ending] at reached
        obtain rfl : entered = _ := reached
        exact .whole all report
    | error failure =>
        rw [phase_of_error ending] at reached
        obtain ⟨front, rest, route, begun, ahead, rfl⟩ := reached
        exact .short all route begun ahead failure

end Run

end TagTemplate
