import Mathlib.Data.List.Forall2
import TagTemplate.Proofs.Bundle
import TagTemplate.Proofs.Discovery
import TagTemplate.Proofs.Precompile.Steps
import TagTemplate.Proofs.Precompile.Writing

/-! What is true of a run in each of its phases, whatever happens around its steps. -/

namespace TagTemplate

inductive Compiler.Leaves (compiler : Compiler) (before : FileTree) : FileTree → Prop
  | nothing : compiler.Leaves before before
  | call {files} (calls source) (left : compiler.Leaves before files) :
      compiler.Leaves before (compiler calls files source).files

theorem Compiler.Leaves.eq {compiler : Compiler} {before files : FileTree}
    (keeps : compiler.KeepsFiles) (left : compiler.Leaves before files) : files = before := by
  induction left with
  | nothing => rfl
  | call calls source _ ih => rw [keeps, ih]

/-- A compiled template: the structure of its source is right, and the body is what a call of the
compiler made of that source. -/
structure Compiles (compiler : Compiler) (template : TemplateUnit) (body : String) : Prop where
  valid : validate template.source = .ok ()
  made : ∃ calls files, (compiler calls files template.source).result = .ok body

/-- A rejected template, with what is wrong with its structure or, when that is right, with what a
call of the compiler said. -/
inductive Rejects (compiler : Compiler) (template : TemplateUnit) : Failure → Prop
  | malformed {diagnostic} (fault : structureFault? template.source = some diagnostic) :
      Rejects compiler template (.rejected template.name diagnostic)
  | refused {diagnostic} (sound : structureFault? template.source = none) (calls files)
      (answer : (compiler calls files template.source).result = .error diagnostic) :
      Rejects compiler template (.rejected template.name diagnostic)

theorem validate_of_sound {source : String} (sound : structureFault? source = none) :
    validate source = .ok () := by
  unfold structureFault? at sound
  split at sound
  · next done => exact done
  · simp at sound

theorem Rejects.early {compiler : Compiler} {template : TemplateUnit} {failure : Failure}
    (rejects : Rejects compiler template failure) : failure.isLate = false := by
  cases rejects <;> rfl

theorem Discovery.Refuses.early {obstacles : Discovery.Obstacles} {failure : Failure}
    (refuses : Discovery.Refuses obstacles failure) : failure.isLate = false := by
  cases refuses <;> rfl

def Options.Finds (options : Options) (files : FileTree) (units : List TemplateUnit) : Prop :=
  discover .none files options.root options.suffix options.templates = .ok units

def Options.Bundles (options : Options) (compiler : Compiler) (files : FileTree)
    (bundle : Bundle) : Prop :=
  ∃ units bodies, options.Finds files units ∧ List.Forall₂ (Compiles compiler) units bodies ∧
    bundle.entries = (units.map (·.name)).zip bodies

def Task.Fits (compiler : Compiler) (template : TemplateUnit) : Task → Prop
  | .done (.ok body) => Compiles compiler template body
  | .done (.error failure) => Rejects compiler template failure
  | .waiting | .running _ | .skipped => True

/-- What a run that failed leaves: all files that were there, or, when it failed too late, its whole
bundle in the place of the output. -/
def Options.Abandons (options : Options) (compiler : Compiler) (before files : FileTree)
    (failure : Failure) : Prop :=
  ∃ left, compiler.Leaves before left ∧
    if failure.isLate then
      ∃ bundle, options.Bundles compiler before bundle ∧
        FileTree.Published options.output (bundle.render options.format) left files
    else FileTree.Prepared options.output left files

def Options.Completes (options : Options) (compiler : Compiler) (before files : FileTree)
    (report : Report) : Prop :=
  ∃ bundle, options.Bundles compiler before bundle ∧ report = options.report bundle ∧
    ∃ left, compiler.Leaves before left ∧
      FileTree.Published options.output (bundle.render options.format) left files

namespace RunPhase

def Sound (compiler : Compiler) (options : Options) (before files : FileTree) : RunPhase → Prop
  | .discovering => files = before
  | .compiling units bodies =>
      options.Finds before units ∧ compiler.Leaves before files ∧
        List.Forall₂ (Compiles compiler) (units.take bodies.length) bodies
  | .dispatching units => options.Finds before units ∧ compiler.Leaves before files
  | .together units tasks _ =>
      options.Finds before units ∧ compiler.Leaves before files ∧
        List.Forall₂ (Task.Fits compiler) units tasks
  | .aggregating units bodies =>
      options.Finds before units ∧ compiler.Leaves before files ∧
        List.Forall₂ (Compiles compiler) units bodies
  | .writing bundle step =>
      options.Bundles compiler before bundle ∧ ∃ left, compiler.Leaves before left ∧
        (options.job bundle).Holds left files step
  | .serialized report => options.Completes compiler before files report
  | .failed failure => options.Abandons compiler before files failure

end RunPhase

theorem forall₂_set {α β : Type} {relates : α → β → Prop} {first : List α} {second : List β}
    {index : Nat} {new : β} (pairs : List.Forall₂ relates first second)
    (fits : ∀ item, first[index]? = some item → relates item new) :
    List.Forall₂ relates first (second.set index new) := by
  induction pairs generalizing index with
  | nil => simp
  | cons head tail ih =>
      cases index with
      | zero => exact .cons (fits _ rfl) tail
      | succ index => exact .cons head (ih fun item found => fits item (by simpa using found))

theorem forall₂_take_succ {α β : Type} {relates : α → β → Prop} {first : List α}
    {second : List β} {item : α} {new : β}
    (pairs : List.Forall₂ relates (first.take second.length) second)
    (next : first[second.length]? = some item) (fits : relates item new) :
    List.Forall₂ relates (first.take (second ++ [new]).length) (second ++ [new]) := by
  rw [List.length_append, List.length_singleton, List.take_add_one, next]
  exact List.rel_append pairs (.cons fits .nil)

theorem compiles_of_all {compiler : Compiler} {units : List TemplateUnit} {tasks : List Task}
    (fits : List.Forall₂ (Task.Fits compiler) units tasks)
    (all : (tasks.filterMap Run.bodyOf?).length = tasks.length) :
    List.Forall₂ (Compiles compiler) units (tasks.filterMap Run.bodyOf?) := by
  induction fits with
  | nil => exact .nil
  | @cons template task units tasks head tail ih =>
      have bound := List.length_filterMap_le Run.bodyOf? tasks
      cases compiled : Run.bodyOf? task with
      | none =>
          simp only [List.filterMap_cons, compiled, List.length_cons] at all
          omega
      | some body =>
          simp only [List.filterMap_cons, compiled, List.length_cons] at all ⊢
          have shape : task = .done (.ok body) := by
            unfold Run.bodyOf? at compiled
            split at compiled
            · cases compiled
              rfl
            · simp at compiled
          subst shape
          exact .cons head (ih (by omega))

def FailsFirst (compiler : Compiler) (units : List TemplateUnit) (tasks : List Task)
    (failure : Failure) : Prop :=
  ∃ (index : Nat) (template : TemplateUnit),
    units[index]? = some template ∧ Rejects compiler template failure ∧
    tasks[index]? = some (.done (.error failure)) ∧
    ∀ earlier < index, ∀ other : Failure, tasks[earlier]? ≠ some (.done (.error other))

theorem failsFirst_of_failed {compiler : Compiler} {units : List TemplateUnit} {tasks : List Task}
    {failure : Failure} (fits : List.Forall₂ (Task.Fits compiler) units tasks)
    (failed : tasks.findSome? Run.failureOf? = some failure) :
    FailsFirst compiler units tasks failure := by
  induction fits with
  | nil => simp at failed
  | @cons template task units tasks head tail ih =>
      rw [List.findSome?_cons] at failed
      split at failed
      · next first found =>
          cases failed
          have shape : task = .done (.error failure) := by
            unfold Run.failureOf? at found
            split at found
            · cases found
              rfl
            · simp at found
          subst shape
          exact ⟨0, template, rfl, head, rfl, fun earlier before => absurd before (by omega)⟩
      · next unfailed =>
          obtain ⟨index, other, unit, rejects, ended, first⟩ := ih failed
          refine ⟨index + 1, other, unit, rejects, ended, fun earlier before reason => ?_⟩
          cases earlier with
          | zero =>
              rintro same
              cases Option.some.inj same
              simp [Run.failureOf?] at unfailed
          | succ earlier => exact first earlier (by omega) reason

theorem rejects_of_failed {compiler : Compiler} {units : List TemplateUnit} {tasks : List Task}
    {failure : Failure} (fits : List.Forall₂ (Task.Fits compiler) units tasks)
    (failed : tasks.findSome? Run.failureOf? = some failure) :
    ∃ template ∈ units, Rejects compiler template failure := by
  obtain ⟨_, template, unit, rejects, _⟩ := failsFirst_of_failed fits failed
  exact ⟨template, List.mem_of_getElem? unit, rejects⟩

namespace Run

structure Sound (compiler : Compiler) (options : Options) (before : FileTree) (run : Run)
    (world : World) : Prop where
  options_eq : run.options = options
  phase : run.phase.Sound compiler options before world.files
  state : ∀ {failure}, run.phase = .failed failure → run.state = .failed failure.message

section
variable {compiler : Compiler} {around : Interference} {options : Options} {before : FileTree}
  {run next : Run} {world after : World}

theorem Sound.of_phase (same : next.options = options) (unfailed : next.outcome? = none)
    (sound : next.phase.Sound compiler options before after.files) :
    Sound compiler options before next after :=
  ⟨same, sound, fun phase => by simp [outcome?, phase] at unfailed⟩

theorem Sound.fail_early {failure : Failure} (same : run.options = options)
    (early : failure.isLate = false) (left : compiler.Leaves before after.files) :
    Sound compiler options before (run.fail failure) after := by
  refine ⟨same, ⟨after.files, left, ?_⟩, ?_⟩
  · rw [if_neg (by simp [early])]
    exact FileTree.Prepared.refl options.output after.files
  · rintro other same
    cases same
    rfl

theorem Sound.wrote {bundle : Bundle} {step : WriteStep} {fault : Option IoError}
    {interrupted : Option Interruption} (sound : Sound compiler options before run world)
    (phase : run.phase = .writing bundle step) :
    options.Bundles compiler before bundle ∧ ∃ left, compiler.Leaves before left ∧
      (options.job bundle).Reaches left
        ((options.job bundle).step interrupted fault world step).2.files
        ((options.job bundle).step interrupted fault world step).1 := by
  have holds := sound.phase
  rw [phase] at holds
  obtain ⟨bundles, left, leaves, written⟩ := holds
  exact ⟨bundles, left, leaves, (options.job bundle).step_reaches left interrupted fault world step
    written⟩

theorem Acts.sound (acts : Acts compiler around run world next after)
    (sound : Sound compiler options before run world) :
    Sound compiler options before next after := by
  obtain rfl := sound.options_eq
  have holds := sound.phase
  cases acts with
  | unfound phase refused =>
      rw [phase] at holds
      have same : world.files = before := holds
      exact .fail_early rfl (discover_refuses refused).early (same ▸ .nothing)
  | @found units phase found =>
      rw [phase] at holds
      have same : world.files = before := holds
      have finds : run.options.Finds before units := same ▸ discover_unobstructed found
      rcases firstPhase_eq run.options units with first | first
      · rw [first]
        exact .of_phase rfl rfl ⟨finds, same ▸ .nothing⟩
      · rw [first]
        exact .of_phase rfl rfl ⟨finds, same ▸ .nothing, by simp⟩
  | compiled phase all =>
      rw [phase] at holds
      obtain ⟨finds, leaves, compiled⟩ := holds
      rw [List.take_of_length_le (List.getElem?_eq_none_iff.mp all)] at compiled
      exact .of_phase rfl rfl ⟨finds, leaves, compiled⟩
  | stopped phase unit interrupted =>
      rw [phase] at holds
      exact .fail_early rfl rfl holds.2.1
  | malformed phase unit free fault =>
      rw [phase] at holds
      exact .fail_early rfl rfl holds.2.1
  | refused phase unit free sound answer =>
      rw [phase] at holds
      exact .fail_early rfl rfl (.call _ _ holds.2.1)
  | accepted phase unit free sound answer =>
      rw [phase] at holds
      obtain ⟨finds, leaves, compiled⟩ := holds
      exact .of_phase rfl rfl ⟨finds, .call _ _ leaves,
        forall₂_take_succ compiled unit ⟨validate_of_sound sound, _, _, answer⟩⟩
  | undispatched phase interrupted =>
      rw [phase] at holds
      exact .fail_early rfl rfl holds.2
  | @dispatched units phase free =>
      rw [phase] at holds
      refine .of_phase rfl rfl ⟨holds.1, holds.2, ?_⟩
      rw [List.forall₂_map_right_iff, List.forall₂_same]
      exact fun template member => trivial
  | begun phase picked idle =>
      rw [phase] at holds
      refine .of_phase rfl rfl ⟨holds.1, holds.2.1, forall₂_set holds.2.2 ?_⟩
      intro template unit
      split <;> trivial
  | taskMalformed phase runs unit fault =>
      rw [phase] at holds
      refine .of_phase rfl rfl ⟨holds.1, holds.2.1, forall₂_set holds.2.2 ?_⟩
      intro template same
      cases unit.symm.trans same
      exact .malformed fault
  | taskRefused phase runs unit sound answer =>
      rw [phase] at holds
      refine .of_phase rfl rfl ⟨holds.1, .call _ _ holds.2.1, forall₂_set holds.2.2 ?_⟩
      intro template same
      cases unit.symm.trans same
      exact .refused sound _ _ answer
  | taskAccepted phase runs unit sound answer =>
      rw [phase] at holds
      refine .of_phase rfl rfl ⟨holds.1, .call _ _ holds.2.1, forall₂_set holds.2.2 ?_⟩
      intro template same
      cases unit.symm.trans same
      exact ⟨validate_of_sound sound, _, _, answer⟩
  | gatheredFailure phase idle failed =>
      rw [phase] at holds
      obtain ⟨template, _, rejects⟩ := rejects_of_failed holds.2.2 failed
      exact .fail_early rfl rejects.early holds.2.1
  | gathered phase idle unfailed all =>
      rw [phase] at holds
      exact .of_phase rfl rfl ⟨holds.1, holds.2.1, compiles_of_all holds.2.2 all⟩
  | gatheredSkips phase idle unfailed some =>
      rw [phase] at holds
      exact .fail_early rfl rfl holds.2.1
  | unbundled phase refused =>
      rw [phase] at holds
      obtain ⟨name, rfl⟩ := Bundle.insertAll_eq_error refused
      exact .fail_early rfl rfl holds.2.1
  | @bundled units bodies bundle phase made =>
      rw [phase] at holds
      obtain ⟨finds, leaves, compiled⟩ := holds
      have entries : bundle.entries = (units.map (·.name)).zip bodies := by
        simpa [Bundle.empty] using Bundle.insertAll_eq_ok made
      exact .of_phase rfl rfl ⟨⟨units, bodies, finds, compiled, entries⟩, world.files, leaves, rfl⟩
  | wrote phase goes =>
      obtain ⟨bundles, left, leaves, reaches⟩ := sound.wrote phase
      rw [goes] at reaches
      exact .of_phase rfl rfl ⟨bundles, left, leaves, reaches⟩
  | @unwritten bundle step failure after phase ends =>
      obtain ⟨bundles, left, leaves, reaches⟩ := sound.wrote phase
      rw [ends] at reaches
      have kept : (run.options.job bundle).Leaves left after.files (some failure) := reaches
      refine ⟨rfl, ⟨left, leaves, ?_⟩, ?_⟩
      · simp only [WriteJob.Leaves] at kept
        split at kept
        · next late =>
            rw [if_pos late]
            exact ⟨bundle, bundles, kept⟩
        · next early =>
            rw [if_neg early]
            exact kept
      · rintro other same
        cases same
        rfl
  | @written bundle step after phase ends =>
      obtain ⟨bundles, left, leaves, reaches⟩ := sound.wrote phase
      rw [ends] at reaches
      refine ⟨rfl, ⟨bundle, bundles, rfl, left, leaves, reaches⟩, ?_⟩
      rintro other same
      cases same
  | rested ended => exact sound

theorem Sound.step (sound : Sound compiler options before run world) (around : Interference) :
    Sound compiler options before (run.step compiler around world).1
      (run.step compiler around world).2 := by
  apply step_keeps (Sound compiler options before)
  · intro run world cancelled sound
    exact ⟨sound.options_eq, sound.phase, sound.state⟩
  · intro run world delay sound
    exact ⟨sound.options_eq, sound.phase, sound.state⟩
  · intro around run world next after acts sound
    exact acts.sound sound
  · exact sound

theorem Sound.begins (compiler : Compiler) (run : Run) (world : World)
    (begins : run.phase = .discovering) : Sound compiler run.options world.files run world := by
  refine ⟨rfl, ?_, fun phase => by simp [begins] at phase⟩
  rw [begins]
  rfl

theorem advance_sound (compiler : Compiler) (around : Nat → Interference) (world : World)
    (begins : run.phase = .discovering) (steps : Nat) :
    Sound compiler run.options world.files (advance compiler around steps run world).1
      (advance compiler around steps run world).2 := by
  apply advance_keeps (Sound compiler run.options world.files)
  · intro index run world sound
    exact sound.step (around index)
  · exact .begins compiler run world begins

theorem complete_sound (compiler : Compiler) (around : Nat → Interference) (options : Options)
    (cancelled : Bool) (now : Nat) (world : World) :
    Sound compiler options world.files
      (complete compiler around (start options cancelled now) world).1
      (complete compiler around (start options cancelled now) world).2 := by
  apply complete_keeps (Sound compiler options world.files)
  · intro index run world sound
    exact sound.step (around index)
  · exact Sound.begins compiler (start options cancelled now) world rfl

end

end Run

end TagTemplate
