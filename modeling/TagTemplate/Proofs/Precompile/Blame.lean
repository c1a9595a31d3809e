import TagTemplate.Proofs.Precompile.Calm
import TagTemplate.Proofs.Precompile.Handing

/-! The template that a run fails for which compiles its templates together. -/

namespace TagTemplate

namespace Run

def ComesTo (compiler : Compiler) (around : Nat → Interference) (run : Run) (world : World)
    (units : List TemplateUnit) (tasks : List Task) : Prop :=
  ∃ steps aborted,
    (advance compiler around steps run world).1.phase = .together units tasks aborted

end Run

structure Blamed (compiler : Compiler) (units : List TemplateUnit) (tasks : List Task)
    (failure : Failure) : Prop where
  ended : ∀ task ∈ tasks, task = .skipped ∨ ∃ result, task = .done result
  first : FailsFirst compiler units tasks failure

def RunPhase.Gathers (compiler : Compiler) (units : List TemplateUnit) (Seen : List Task → Prop) :
    RunPhase → Prop
  | .dispatching others | .together others _ _ => others = units
  | .aggregating _ _ | .serialized _ => True
  | .writing _ step => step.Unrelated
  | .failed failure =>
      failure.isRejection = true → ∃ tasks, Seen tasks ∧ Blamed compiler units tasks failure
  | .discovering | .compiling _ _ => False

namespace Run

section
variable {compiler : Compiler} {options : Options} {before : FileTree} {units : List TemplateUnit}
  {Seen : List Task → Prop} {run next : Run} {world after : World}

theorem Acts.gathers {around : Interference} (acts : Acts compiler around run world next after)
    (sound : Sound compiler options before run world)
    (current : ∀ {tasks aborted}, run.phase = .together units tasks aborted → Seen tasks)
    (gathers : run.phase.Gathers compiler units Seen) :
    next.phase.Gathers compiler units Seen := by
  cases acts with
  | undispatched phase interrupted =>
      exact fun rejection => by simp [Failure.isRejection] at rejection
  | dispatched phase free =>
      rw [phase] at gathers
      exact gathers
  | begun phase picked idle =>
      rw [phase] at gathers
      exact gathers
  | taskMalformed phase runs unit fault =>
      rw [phase] at gathers
      exact gathers
  | taskRefused phase runs unit sound answer =>
      rw [phase] at gathers
      exact gathers
  | taskAccepted phase runs unit sound answer =>
      rw [phase] at gathers
      exact gathers
  | @gatheredFailure _ tasks _ failure phase unpicked failed =>
      have holds := sound.phase
      rw [phase] at gathers holds
      obtain rfl := gathers
      intro rejection
      refine ⟨tasks, current phase, ?_, failsFirst_of_failed holds.2.2 failed⟩
      intro task member
      exact ended_of_unpicked unpicked member
  | gathered phase idle unfailed all => trivial
  | gatheredSkips phase idle unfailed some =>
      exact fun rejection => by simp [Failure.isRejection] at rejection
  | unbundled phase refused =>
      obtain ⟨name, rfl⟩ := Bundle.insertAll_eq_error refused
      exact fun rejection => by simp [Failure.isRejection] at rejection
  | bundled phase made => simp [RunPhase.Gathers, WriteStep.Unrelated]
  | wrote phase goes =>
      rw [phase] at gathers
      rintro lock failure rfl
      exact (run.options.job _).step_unrelated gathers (by rw [goes]; rfl)
  | unwritten phase ends =>
      rw [phase] at gathers
      intro rejection
      have other := (run.options.job _).step_unrelated gathers (by rw [ends]; rfl)
      simp [other] at rejection
  | written phase ends => trivial
  | rested ended => exact gathers
  | _ phase => rw [phase] at gathers; exact absurd gathers (by simp [RunPhase.Gathers])

theorem gathers_first (compiler : Compiler) {around : Interference}
    (begins : run.phase = .discovering) (all : run.found around world = .ok units)
    (joined : run.options.together units.length = true) :
    (run.step compiler around world).1.phase.Gathers compiler units Seen := by
  obtain ⟨failure, _, refused, _⟩ | ⟨others, cancelled, found, stepped⟩ :=
    step_discovers compiler around world begins
  · exact absurd (all.symm.trans refused) (by simp)
  · obtain rfl : units = others := Except.ok.inj (all.symm.trans found)
    have several : firstPhase run.options units = .dispatching units := if_pos joined
    rw [stepped, several]
    rfl

theorem advance_gathers (compiler : Compiler) (around : Nat → Interference)
    (begins : run.phase = .discovering) (all : run.found (around 0) world = .ok units)
    (joined : run.options.together units.length = true) (steps : Nat) :
    (advance compiler around (steps + 1) run world).1.phase.Gathers compiler units
      (run.ComesTo compiler around world units) := by
  induction steps with
  | zero =>
      rw [advance_one compiler around world begins]
      exact gathers_first compiler begins all joined
  | succ steps ih =>
      rw [advance_succ]
      split
      · exact ih
      have sound := advance_sound compiler around world begins (steps + 1)
      have current : ∀ {tasks aborted},
          (advance compiler around (steps + 1) run world).1.phase = .together units tasks aborted →
            run.ComesTo compiler around world units tasks :=
        fun phase => ⟨steps + 1, _, phase⟩
      generalize advance compiler around (steps + 1) run world = here at ih sound current
      obtain ⟨next, acts, stepped⟩ := step_acts compiler (around (steps + 1)) here.1 here.2
      rw [stepped]
      exact acts.gathers ⟨sound.options_eq, sound.phase, sound.state⟩ current ih

end

end Run

end TagTemplate
