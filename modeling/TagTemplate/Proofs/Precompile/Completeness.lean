import TagTemplate.Proofs.Precompile.Ending
import TagTemplate.Proofs.Precompile.Output
import TagTemplate.Proofs.Precompile.Soundness

/-! What a run that succeeds has done: all templates that were found are in the output, each with
its own body, in the order in which they were found. -/

namespace TagTemplate

structure Options.Delivers (options : Options) (compiler : Compiler) (before files : FileTree)
    (report : Report) (units : List TemplateUnit) (bodies : List String) : Prop where
  finds : options.Finds before units
  compiled : List.Forall₂ (Compiles compiler) units bodies
  output : report.output = options.output
  templates : report.templates = units.map (·.name)
  distinct : report.templates.Nodup
  stored : ∃ bundle, bundle.entries = (units.map (·.name)).zip bodies ∧
    report.bytes = (bundle.render options.format).utf8ByteSize ∧
    ∃ left, compiler.Leaves before left ∧ (options.job bundle).Stored left files

theorem names_of_entries {compiler : Compiler} {units : List TemplateUnit} {bodies : List String}
    {bundle : Bundle} (compiled : List.Forall₂ (Compiles compiler) units bodies)
    (entries : bundle.entries = (units.map (·.name)).zip bodies) :
    bundle.names = units.map (·.name) := by
  rw [Bundle.names, entries, List.map_fst_zip]
  simp [compiled.length_eq]

namespace Run

/-- A run that succeeds has written the bundle of all templates that it has found. -/
theorem complete_success_output (compiler : Compiler) (around : Nat → Interference)
    (options : Options) (cancelled : Bool) (now : Nat) (world : World) :
    let ended := complete compiler around (start options cancelled now) world
    match ended.1.outcome? with
    | none => False
    | some (.error _) => True
    | some (.ok report) => ∃ units bodies,
        options.Delivers compiler world.files ended.2.files report units bodies := by
  intro ended
  have ends := complete_ends compiler around options cancelled now world
  have sound := complete_sound compiler around options cancelled now world
  change ended.1.outcome?.isSome at ends
  change Sound compiler options world.files ended.1 ended.2 at sound
  have holds := sound.phase
  cases phase : ended.1.phase with
  | serialized report =>
      rw [phase] at holds
      obtain ⟨bundle, ⟨units, bodies, finds, compiled, entries⟩, rfl, left, leaves, published⟩ :=
        holds
      have names := names_of_entries compiled entries
      simp only [outcome?, phase]
      exact ⟨units, bodies, finds, compiled, rfl, names, bundle.names_nodup, bundle, entries, rfl,
        left, leaves, (options.job bundle).stored published⟩
  | failed failure => simp [outcome?, phase]
  | _ => simp [outcome?, phase] at ends

def loopedFiles : FileTree :=
  ⟨[([['l']], .link Path.current), ([['a']], .file ByteArray.empty false)], []⟩

def loopedOutput : Path := ⟨false, [['l'], ['l']]⟩

def looped : Run × World :=
  complete (Compiler.ofFunction fun _ => .ok "") (fun _ => .none)
    (start ⟨Path.current, "", loopedOutput, ["a"], .plain, false, none, 0⟩ false 0)
    ⟨loopedFiles, [], 0⟩

/-- An output that was on the way to itself is not found by its path after a success. -/
theorem looped_success :
    looped.1.outcome? = some (.ok ⟨loopedOutput, ["a"], 153⟩) ∧
      (looped.2.files.read loopedOutput).toOption = none ∧
      (looped.2.files.read ⟨false, [['l']]⟩).toOption =
        some ((Bundle.mk [("a", "")] (by decide)).render .plain).toUTF8 := by
  decide +kernel

end Run

end TagTemplate
