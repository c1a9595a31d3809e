import TagTemplate.Proofs.Precompile.Agreement
import TagTemplate.Proofs.Precompile.Completeness
import TagTemplate.Proofs.Precompile.Holding
import TagTemplate.Proofs.Precompile.Sparing

/-! An undisturbed run right after one that has succeeded with the same options. -/

namespace TagTemplate

open FileTree

def Options.Dead (options : Options) (before : FileTree) : Prop :=
  ∀ {bundle lock ready target}, (options.job bundle).Readies before lock ready →
    ready.renameTarget options.output = .ok target → ready.DeadEnd target

structure Options.Repeats (options : Options) (report : Report) (first second : Run × World) :
    Prop where
  outcome : second.1.outcome? = some (.ok report)
  output : ∃ target content,
    first.2.files.find? options.output = some (target, .file content false) ∧
      second.2.files.find? options.output = some (target, .file content false)
  nodes : ∀ location, second.2.files.node? location = first.2.files.node? location

theorem Options.Dead.of_unlinked (options : Options) {before : FileTree}
    (unlinked : ∀ location target, before.node? location ≠ some (.link target)) :
    options.Dead before :=
  fun readies aimed => .of_unlinked aimed fun link present =>
    unlinked _ link (readies.prepared.link present)

theorem Options.Assembles.names {options : Options} {compile : String → Except Diagnostic String}
    {files : FileTree} {bundle : Bundle} (assembles : options.Assembles compile files bundle) :
    bundle.names = (options.candidates files).map (·.name) := by
  obtain ⟨units, bodies, finds, compiled, made⟩ := assembles
  rw [Bundle.names, Bundle.insertAll_eq_ok made, Options.candidates,
    ← Discovery.discover_names finds]
  simp [Bundle.empty, List.map_fst_zip, compiled.length_eq]

theorem Options.Bundles.assembles {options : Options} {schedule : Schedule}
    {compile : String → Except Diagnostic String} {files : FileTree} {bundle : Bundle}
    (bundles : options.Bundles (schedule.compiler compile) files bundle) :
    options.Assembles compile files bundle := by
  obtain ⟨units, bodies, finds, compiled, entries⟩ := bundles
  have once : ((Bundle.empty.entries ++ (units.map (·.name)).zip bodies).map (·.1)).Nodup := by
    rw [← entries]
    exact bundle.names_nodup
  refine ⟨units, bodies, finds, compiled.imp fun _ _ => Compiles.verdict, ?_⟩
  rw [Bundle.insertAll_of_nodup once]
  obtain ⟨_, _⟩ := bundle
  simpa [Bundle.empty] using entries.symm

theorem Options.Assembles.again {options : Options} {compile : String → Except Diagnostic String}
    {before after : FileTree} {bundle : Bundle} (retains : Retains before after)
    (distinct : before.Distinct) (distinctToo : after.Distinct)
    (spares : options.SparesTemplates before after)
    (assembles : options.Assembles compile before bundle) :
    options.Assembles compile after bundle := by
  have once : ((options.candidates before).map (·.name)).Nodup :=
    assembles.names ▸ bundle.names_nodup
  obtain ⟨units, bodies, finds, compiled, made⟩ := assembles
  exact ⟨units, bodies, Discovery.discover_again retains distinct distinctToo finds once spares,
    compiled, made⟩

namespace Run

def undisturbed (schedule : Schedule) (compile : String → Except Diagnostic String)
    (options : Options) (world : World) : Run × World :=
  complete (schedule.compiler compile) schedule.around
    (start { options with timeout := none } false world.now) world

theorem undisturbed_ends (schedule : Schedule) (compile : String → Except Diagnostic String)
    (options : Options) (world : World) :
    options.Ends compile world (undisturbed schedule compile options world) :=
  complete_options_ends schedule compile options options.parallel world.now world

/-- After a run that succeeds, whatever has happened to it, one that nothing disturbs succeeds as
well and repeats it, unless the output is a way to a directory or the first run has changed the
templates. -/
theorem undisturbed_repeats (first second : Schedule)
    (compile : String → Except Diagnostic String) (around : Nat → Interference)
    (options : Options) (cancelled : Bool) (now : Nat) (files : FileTree) (clock : Nat)
    (distinct : files.Distinct) (dead : options.Dead files) {report : Report} :
    let once := complete (first.compiler compile) around (start options cancelled now)
      ⟨files, [], clock⟩
    once.1.outcome? = some (.ok report) → options.SparesTemplates files once.2.files →
      options.Repeats report once (undisturbed second compile options once.2) := by
  intro once succeeds spares
  obtain ⟨bundle, bundles, rfl, written⟩ := complete_fate (fun _ _ _ => rfl) around options
    cancelled now ⟨files, [], clock⟩ succeeds
  change (options.job bundle).fate ⟨files, [], clock⟩ .checking = some once.2.files at written
  have success := ((options.job bundle).fate_eq_some_iff _ _).mp written
  obtain ⟨lock, ready, target, readies, ⟨inner, there⟩, aimed, held⟩ := success.replaced
  have deadEnd := dead readies aimed
  have onward := held.place_directory deadEnd there
  have stored := held.place_output aimed onward
  obtain ⟨undirected, unslashed, _⟩ := place_of_renameTarget aimed
  have aimedToo := renameTarget_of_place undirected unslashed (by simp) (stored .entry)
  -- The lock is where its path led, or in the place of the output.
  obtain ⟨bytes, mode, opens⟩ := readies.opened
  obtain ⟨lockToo, opensToo⟩ := held.place_file deadEnd (by simp) opens
  have free : once.2.isLocked lockToo = false := by
    have locks : once.2.locks = [] := complete_locks (fun _ _ _ => rfl) around options cancelled
      now _
    simp [World.isLocked, locks]
  -- The second run finds all that the first one has made, and puts the same text in its place.
  obtain ⟨after, successToo, here, nodes⟩ :=
    (WriteJob.Readies.again onward opensToo).succeeds free onward aimedToo (stored .entry)
  have assemblesToo := bundles.assembles.again
    (Retains.of_replaced readies.prepared held deadEnd) distinct (success.distinct distinct) spares
  have writtenToo := ((options.job bundle).fate_eq_some_iff _ _).mpr successToo
  obtain ⟨other, outcomeToo, assembled, same⟩ | ⟨failure, _, fails⟩ :=
    undisturbed_ends second compile options once.2
  · cases assemblesToo.unique assembled
    have left : (undisturbed second compile options once.2).2.files = after :=
      Option.some.inj (same.symm.trans writtenToo)
    have grows : Grows (fun _ _ => False) once.2.files after := .of_same here nodes
    refine ⟨outcomeToo, ⟨target, _, find?_eq_some.mpr (stored .node), ?_⟩, ?_⟩
    · rw [left]
      exact find?_eq_some.mpr (grows.place_found (stored .node))
    · rw [left]
      exact nodes
  · exact absurd (writtenToo.symm.trans (fails.unsuccessful assemblesToo)) (by simp)

def atOnce : Schedule := ⟨fun _ => 0, fun _ => 0, fun _ _ => 0⟩

def bundling (templates : List String) (output : Path) : Options :=
  ⟨Path.current, ".t", output, templates, .plain, false, none, 0⟩

def twice (options : Options) (files : FileTree) : (Run × World) × (Run × World) :=
  let once := undisturbed atOnce .ok options ⟨files, [], 0⟩
  (once, undisturbed atOnce .ok options once.2)

def soleFiles : FileTree := ⟨[(["a.t".toList], .file ByteArray.empty false)], []⟩

def besideOutput : Path := ⟨false, ["o.js".toList]⟩

theorem tidy_soleFiles : soleFiles.Tidy := by
  have alone : ∀ {above name node}, soleFiles.node? (above ++ [name]) = some node →
      above = [] ∧ name = "a.t".toList ∧ node = .file ByteArray.empty false := by
    intro above name node present
    rw [node?, if_neg (by simp), soleFiles, List.find?_singleton] at present
    split at present
    · next here =>
        have same : [] ++ ["a.t".toList] = above ++ [name] := by simpa using here
        obtain ⟨root, last⟩ := List.append_inj' same rfl
        exact ⟨root.symm, (List.singleton_inj.mp last).symm, (Option.some.inj present).symm⟩
    · simp at present
  refine ⟨?_, ?_, ?_⟩
  · intro location target present
    rcases List.eq_nil_or_concat location with rfl | ⟨above, name, rfl⟩
    · simp [node?] at present
    · rw [List.concat_eq_append] at present
      simpa using (alone present).2.2
  · intro above name node present
    rw [(alone present).1]
    rfl
  · intro above name node present
    simp [(alone present).2.1]

theorem beside_repeats :
    soleFiles.Distinct ∧ (bundling [] besideOutput).Dead soleFiles ∧
      (twice (bundling [] besideOutput) soleFiles).1.1.outcome? =
        some (.ok ⟨besideOutput, ["a"], 153⟩) ∧
      (bundling [] besideOutput).SparesTemplates soleFiles
        (twice (bundling [] besideOutput) soleFiles).1.2.files ∧
      (bundling [] besideOutput).Repeats ⟨besideOutput, ["a"], 153⟩
        (twice (bundling [] besideOutput) soleFiles).1
        (twice (bundling [] besideOutput) soleFiles).2 := by
  have distinct : soleFiles.Distinct := by decide
  have dead : (bundling [] besideOutput).Dead soleFiles :=
    Options.Dead.of_unlinked _ tidy_soleFiles.unlinked
  have succeeds : (twice (bundling [] besideOutput) soleFiles).1.1.outcome? =
      some (.ok ⟨besideOutput, ["a"], 153⟩) := by decide +kernel
  have aside : (bundling [] besideOutput).Aside := by
    intro name same
    obtain rfl : "o.js".toList = name := Option.some.inj same
    decide
  have spares := complete_sparesTemplates (fun _ _ _ => rfl) atOnce.around aside false 0
    ⟨soleFiles, [], 0⟩ tidy_soleFiles succeeds
  exact ⟨distinct, dead, succeeds, spares,
    undisturbed_repeats atOnce atOnce .ok atOnce.around _ false 0 soleFiles 0 distinct dead succeeds
      spares⟩

def templateOutput : Path := ⟨false, ["b.t".toList]⟩

def linkedFiles : FileTree := soleFiles.put [['l']] (.link Path.current)

/-- An output with the ending of templates is a template for the next run. Where the output has
taken the place of a link on its own path, the next run fails. -/
theorem unrepeated :
    (twice (bundling [] templateOutput) soleFiles).1.1.outcome? =
        some (.ok ⟨templateOutput, ["a"], 153⟩) ∧
      (twice (bundling [] templateOutput) soleFiles).2.1.outcome? ≠
        some (.ok ⟨templateOutput, ["a"], 153⟩) ∧
      (twice (bundling ["a"] loopedOutput) linkedFiles).1.1.outcome? =
        some (.ok ⟨loopedOutput, ["a"], 153⟩) ∧
      (twice (bundling ["a"] loopedOutput) linkedFiles).2.1.outcome? =
        some (.error (.outputNotWritten loopedOutput (.parentDirectory .alreadyExists))) := by
  refine ⟨by decide +kernel, ?_, by decide +kernel, by decide +kernel⟩
  intro same
  have ends := undisturbed_ends atOnce .ok (bundling [] templateOutput)
    (twice (bundling [] templateOutput) soleFiles).1.2
  obtain ⟨bundle, outcome, assembles, _⟩ | ⟨failure, outcome, _⟩ := ends
  · have names : bundle.names = ["a"] := by
      have reports := outcome.symm.trans same
      simp only [Option.some.injEq, Except.ok.injEq, Options.report, Report.mk.injEq] at reports
      exact reports.2.1
    have member : String.ofList ['b'] ∈ bundle.names := by
      rw [assembles.names]
      exact Discovery.mem_candidates "b.t".toList [] (by decide +kernel) (by decide +kernel)
        (by decide) (by decide +kernel) (by decide)
    rw [names] at member
    exact absurd member (by decide)
  · exact absurd (outcome.symm.trans same) (by simp)

end Run

end TagTemplate
