import TagTemplate.Proofs.Precompile.Ending
import TagTemplate.Proofs.Precompile.Output
import TagTemplate.Proofs.Precompile.Soundness

/-! What a run that fails leaves of its output. -/

namespace TagTemplate

/-- Files as a failure may leave them. The path of the output still leads to what it led to; where
it led nowhere it may lead now to something that was elsewhere, or that getting ready has added. -/
structure FileTree.Spares (output : Path) (left files : FileTree) : Prop where
  nodes : Prepared output left files
  found : ∀ {location node}, left.find? output = some (location, node) →
    files.find? output = some (location, node)
  unfound : ∀ {location node}, left.find? output = none →
    files.find? output = some (location, node) →
    left.node? location = some node ∨ left.Adds output location node

def Options.Overwrites (options : Options) (compiler : Compiler) (before left files : FileTree) :
    Prop :=
  ∃ bundle, options.Bundles compiler before bundle ∧ (options.job bundle).Stored left files

theorem FileTree.Prepared.spares {output : Path} {left files : FileTree}
    (prepared : Prepared output left files) : Spares output left files where
  nodes := prepared
  found := find?_carried prepared.carries False.elim
  unfound := by
    intro location node _ found
    unfold find? at found
    split at found
    · next reached =>
        cases found
        rcases place_ends reached with directory | present
        · exact Or.inr (Or.inl directory)
        · cases old : left.node? location with
          | none => exact Or.inr (prepared.fresh old present)
          | some other => exact Or.inl ((prepared.kept old).symm.trans present)
    · simp at found

namespace Run

/-- A run that fails says so in its state and spares its output, unless it fails after the output
has been replaced: then the bundle stays there. -/
theorem complete_failure_output (compiler : Compiler) (around : Nat → Interference)
    (options : Options) (cancelled : Bool) (now : Nat) (world : World) :
    let ended := complete compiler around (start options cancelled now) world
    match ended.1.outcome? with
    | none => False
    | some (.ok _) => True
    | some (.error failure) =>
        ended.1.state = .failed failure.message ∧
          ∃ left, compiler.Leaves world.files left ∧
            (compiler.KeepsFiles → left = world.files) ∧
            if failure.isLate then
              options.Overwrites compiler world.files left ended.2.files
            else FileTree.Spares options.output left ended.2.files := by
  intro ended
  have ends := complete_ends compiler around options cancelled now world
  have sound := complete_sound compiler around options cancelled now world
  change ended.1.outcome?.isSome at ends
  change Sound compiler options world.files ended.1 ended.2 at sound
  have holds := sound.phase
  cases phase : ended.1.phase with
  | serialized report => simp [outcome?, phase]
  | failed failure =>
      rw [phase] at holds
      obtain ⟨left, leaves, output⟩ := holds
      simp only [outcome?, phase]
      refine ⟨sound.state phase, left, leaves, leaves.eq, ?_⟩
      split
      · next late =>
          rw [if_pos late] at output
          obtain ⟨bundle, bundles, published⟩ := output
          exact ⟨bundle, bundles, (options.job bundle).stored published⟩
      · next early =>
          rw [if_neg early] at output
          exact FileTree.Prepared.spares output
  | _ => simp [outcome?, phase] at ends

def knottedFiles : FileTree :=
  ⟨[([['l']], .link Path.current), ([['x']], .directory),
    ([['a']], .file ByteArray.empty false)], []⟩

def knottedOutput : Path := ⟨false, [['l'], ['x'], ['.', '.'], ['l']]⟩

def knotted : Run × World :=
  complete (Compiler.ofFunction fun _ => .ok "") (fun _ => .none)
    (start ⟨Path.current, "", knottedOutput, ["a"], .plain, false, none, 0⟩ false 0)
    ⟨knottedFiles, [], 0⟩

/-- Where the parent directory cannot be opened any more, the run fails and the bundle stays. -/
theorem knotted_failure :
    (knottedFiles.renameTarget knottedOutput).toOption = some [['l']] ∧
      (knottedFiles.read ⟨false, [['l']]⟩).toOption = none ∧
      knotted.1.outcome? = some (.error
        (.outputNotWritten knottedOutput (.replace .openDirectory .notDirectory))) ∧
      (knotted.2.files.read ⟨false, [['l']]⟩).toOption =
        some ((Bundle.mk [("a", "")] (by decide)).render .plain).toUTF8 := by
  decide +kernel

end Run

end TagTemplate
