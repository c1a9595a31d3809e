import TagTemplate.Proofs.Precompile.Calm

/-! Templates compiled together and one after another: undisturbed runs agree, whatever their
schedules. -/

namespace TagTemplate

section
variable {compile : String → Except Diagnostic String}

theorem TemplateUnit.verdict_error {template : TemplateUnit} {failure : Failure}
    (verdict : template.verdict compile = .error failure) :
    ∃ diagnostic, failure = .rejected template.name diagnostic := by
  unfold TemplateUnit.verdict at verdict
  split at verdict
  · next diagnostic _ =>
      cases verdict
      exact ⟨diagnostic, rfl⟩
  · split at verdict
    · next diagnostic _ =>
        cases verdict
        exact ⟨diagnostic, rfl⟩
    · simp at verdict

theorem AllCompile.ok {units : List TemplateUnit} {bodies : List String} {template : TemplateUnit}
    (compiled : AllCompile compile units bodies) (member : template ∈ units) :
    ∃ body, template.verdict compile = .ok body := by
  induction compiled with
  | nil => simp at member
  | @cons first body _ _ head _ ih =>
      rcases List.mem_cons.mp member with rfl | later
      · exact ⟨body, head⟩
      · exact ih later

theorem AllCompile.unique {units : List TemplateUnit} {bodies others : List String}
    (compiled : AllCompile compile units bodies) (compiledToo : AllCompile compile units others) :
    bodies = others := by
  refine List.right_unique_forall₂' ?_ compiled compiledToo
  intro template body other first second
  exact Except.ok.inj (first.symm.trans second)

end

namespace Options

section
variable {options : Options} {compile : String → Except Diagnostic String} {before : World}

theorem Finds.unique {files : FileTree} {units others : List TemplateUnit}
    (finds : options.Finds files units) (findsToo : options.Finds files others) : units = others :=
  Except.ok.inj (finds.symm.trans findsToo)

theorem Assembles.unique {files : FileTree} {bundle other : Bundle}
    (assembles : options.Assembles compile files bundle)
    (assemblesToo : options.Assembles compile files other) : bundle = other := by
  obtain ⟨units, bodies, finds, compiled, made⟩ := assembles
  obtain ⟨others, otherBodies, findsToo, compiledToo, madeToo⟩ := assemblesToo
  cases finds.unique findsToo
  cases compiled.unique compiledToo
  exact Except.ok.inj (made.symm.trans madeToo)

theorem Fails.unsuccessful {failure : Failure} {bundle : Bundle}
    (fails : options.Fails compile before failure)
    (assembles : options.Assembles compile before.files bundle) :
    options.fate before bundle = none := by
  have whole := assembles
  obtain ⟨units, bodies, finds, compiled, made⟩ := assembles
  cases fails with
  | unfound refused => exact absurd (finds.symm.trans refused) (by simp)
  | rejected findsToo member verdict =>
      cases finds.unique findsToo
      obtain ⟨body, fine⟩ := compiled.ok member
      exact absurd (fine.symm.trans verdict) (by simp)
  | unbundled findsToo compiledToo refused =>
      cases finds.unique findsToo
      cases compiled.unique compiledToo
      exact absurd (made.symm.trans refused) (by simp)
  | unwritten assemblesToo lost =>
      cases whole.unique assemblesToo
      exact lost

theorem Fails.rejects {units : List TemplateUnit} {bad : TemplateUnit} {failure reason : Failure}
    (fails : options.Fails compile before failure) (finds : options.Finds before.files units)
    (member : bad ∈ units) (verdict : bad.verdict compile = .error reason) :
    ∃ template ∈ units, template.verdict compile = .error failure := by
  cases fails with
  | unfound refused => exact absurd (finds.symm.trans refused) (by simp)
  | rejected findsToo memberToo verdictToo =>
      cases finds.unique findsToo
      exact ⟨_, memberToo, verdictToo⟩
  | unbundled findsToo compiled refused =>
      cases finds.unique findsToo
      obtain ⟨body, fine⟩ := compiled.ok member
      exact absurd (fine.symm.trans verdict) (by simp)
  | unwritten assembles lost =>
      obtain ⟨_, _, findsToo, compiled, _⟩ := assembles
      cases finds.unique findsToo
      obtain ⟨body, fine⟩ := compiled.ok member
      exact absurd (fine.symm.trans verdict) (by simp)

theorem Fails.uncancelled {interruption : Interruption} :
    ¬ options.Fails compile before (.cancelled interruption) := by
  intro fails
  cases fails with
  | unfound refused =>
      cases discover_refuses refused with
      | cancelled seen => simp [Discovery.Obstacles.none] at seen
  | rejected finds member verdict =>
      obtain ⟨diagnostic, same⟩ := TemplateUnit.verdict_error verdict
      simp at same
  | unbundled finds compiled refused =>
      obtain ⟨name, same⟩ := Bundle.insertAll_eq_error refused
      simp at same

end

end Options

/-- What an undisturbed run comes to. Where there are templates that are not compiled, it fails for
one of them, and never because it was cancelled. -/
structure Undisturbed (options : Options) (compile : String → Except Diagnostic String)
    (before : World) (ended : Run × World) : Prop where
  ends : ended.1.outcome?.isSome
  rejected : ∀ units, options.Finds before.files units →
    ∀ bad ∈ units, ∀ reason, bad.verdict compile = .error reason →
      ∃ template ∈ units, ∃ diagnostic,
        template.verdict compile = .error (.rejected template.name diagnostic) ∧
        ended.1.outcome? = some (.error (.rejected template.name diagnostic))
  single : ∀ units, options.Finds before.files units →
    ∀ bad ∈ units, ∀ reason, bad.verdict compile = .error reason →
      (∀ other ∈ units, other ≠ bad → ∃ body, other.verdict compile = .ok body) →
      ended.1.outcome? = some (.error reason)
  uncancelled : ∀ interruption, ended.1.outcome? ≠ some (.error (.cancelled interruption))

/-- What two undisturbed runs have in common, one of them compiling its templates together and the
other one after another. -/
structure Agreement (options : Options) (compile : String → Except Diagnostic String)
    (before : World) (together alone : Run × World) : Prop where
  parallel : Undisturbed options compile before together
  sequential : Undisturbed options compile before alone
  reports : ∀ report, together.1.outcome? = some (.ok report) ↔
    alone.1.outcome? = some (.ok report)
  outputs : ∀ report, together.1.outcome? = some (.ok report) →
    together.2.files = alone.2.files

def Options.Ends (options : Options) (compile : String → Except Diagnostic String) (before : World)
    (ended : Run × World) : Prop :=
  (∃ bundle, ended.1.outcome? = some (.ok (options.report bundle)) ∧
      options.Assembles compile before.files bundle ∧
      options.fate before bundle = some ended.2.files) ∨
    ∃ failure, ended.1.outcome? = some (.error failure) ∧ options.Fails compile before failure

section
variable {options : Options} {compile : String → Except Diagnostic String} {before : World}

theorem Options.Fails.settings {parallel : Bool} {failure : Failure}
    (fails : Options.Fails { options with parallel, timeout := none } compile before failure) :
    options.Fails compile before failure := by
  cases fails with
  | unfound refused => exact .unfound refused
  | rejected finds member verdict => exact .rejected finds member verdict
  | unbundled finds compiled refused => exact .unbundled finds compiled refused
  | unwritten assembles lost => exact .unwritten assembles lost

theorem Run.complete_options_ends (schedule : Schedule)
    (compile : String → Except Diagnostic String) (options : Options) (parallel : Bool) (now : Nat)
    (before : World) :
    options.Ends compile before (complete (schedule.compiler compile) schedule.around
      (start { options with parallel, timeout := none } false now) before) := by
  let settings : Options := { options with parallel, timeout := none }
  let ended := complete (schedule.compiler compile) schedule.around (start settings false now)
    before
  have calm : Calm compile settings before ended.1 ended.2 :=
    complete_calm schedule compile settings rfl now before
  have ends : ended.1.outcome?.isSome :=
    complete_ends (schedule.compiler compile) schedule.around settings false now before
  change options.Ends compile before ended
  have holds := calm.phase
  cases phase : ended.1.phase with
  | serialized report =>
      rw [phase] at holds
      obtain ⟨bundle, assembles, rfl, written⟩ := holds
      exact Or.inl ⟨bundle, by simp only [outcome?, phase]; rfl, assembles, written⟩
  | failed failure =>
      rw [phase] at holds
      exact Or.inr ⟨failure, by simp only [outcome?, phase], holds.settings⟩
  | _ => simp [outcome?, phase] at ends

theorem Options.Ends.undisturbed {ended : Run × World} (ends : options.Ends compile before ended) :
    Undisturbed options compile before ended := by
  have fails : ∀ units, options.Finds before.files units → ∀ bad ∈ units, ∀ reason,
      bad.verdict compile = .error reason → ∃ template ∈ units, ∃ failure,
        template.verdict compile = .error failure ∧ ended.1.outcome? = some (.error failure) := by
    intro units finds bad member reason verdict
    rcases ends with ⟨bundle, _, ⟨others, bodies, findsToo, compiled, _⟩, _⟩ |
      ⟨failure, outcome, fails⟩
    · cases finds.unique findsToo
      obtain ⟨body, fine⟩ := compiled.ok member
      exact absurd (fine.symm.trans verdict) (by simp)
    · obtain ⟨template, memberToo, rejects⟩ := fails.rejects finds member verdict
      exact ⟨template, memberToo, failure, rejects, outcome⟩
  refine ⟨?_, ?_, ?_, ?_⟩
  · rcases ends with ⟨bundle, outcome, _⟩ | ⟨failure, outcome, _⟩ <;> simp [outcome]
  · intro units finds bad member reason verdict
    obtain ⟨template, memberToo, failure, rejects, outcome⟩ :=
      fails units finds bad member reason verdict
    obtain ⟨diagnostic, rfl⟩ := TemplateUnit.verdict_error rejects
    exact ⟨template, memberToo, diagnostic, rejects, outcome⟩
  · intro units finds bad member reason verdict others
    obtain ⟨template, memberToo, failure, rejects, outcome⟩ :=
      fails units finds bad member reason verdict
    have same : template = bad := by
      by_contra different
      obtain ⟨body, fine⟩ := others template memberToo different
      exact absurd (fine.symm.trans rejects) (by simp)
    rw [same, verdict] at rejects
    rw [outcome, Except.error.inj rejects]
  · intro interruption outcome
    rcases ends with ⟨bundle, succeeded, _⟩ | ⟨failure, failed, fails⟩
    · simp [succeeded] at outcome
    · rw [failed] at outcome
      cases outcome
      exact fails.uncancelled

theorem Options.Ends.same {ended other : Run × World} {report : Report}
    (ends : options.Ends compile before ended) (endsToo : options.Ends compile before other)
    (succeeds : ended.1.outcome? = some (.ok report)) :
    other.1.outcome? = some (.ok report) ∧ ended.2.files = other.2.files := by
  rcases ends with ⟨bundle, outcome, assembles, written⟩ | ⟨failure, outcome, _⟩
  · rw [outcome] at succeeds
    cases succeeds
    rcases endsToo with ⟨bundleToo, outcomeToo, assemblesToo, writtenToo⟩ | ⟨failure, _, fails⟩
    · cases assembles.unique assemblesToo
      exact ⟨outcomeToo, Option.some.inj (written.symm.trans writtenToo)⟩
    · exact absurd (written.symm.trans (fails.unsuccessful assembles)) (by simp)
  · simp [outcome] at succeeds

end

/-- Whatever the schedules, templates compiled together come to the same as templates compiled one
after another. -/
theorem Run.complete_agreement (together alone : Schedule)
    (compile : String → Except Diagnostic String) (options : Options) (now later : Nat)
    (before : World) :
    Agreement options compile before
      (complete (together.compiler compile) together.around
        (start { options with parallel := true, timeout := none } false now) before)
      (complete (alone.compiler compile) alone.around
        (start { options with parallel := false, timeout := none } false later) before) := by
  have parallel := complete_options_ends together compile options true now before
  have sequential := complete_options_ends alone compile options false later before
  refine ⟨parallel.undisturbed, sequential.undisturbed, ?_, ?_⟩
  · intro report
    constructor
    · intro succeeds
      exact (parallel.same sequential succeeds).1
    · intro succeeds
      exact (sequential.same parallel succeeds).1
  · intro report succeeds
    exact (parallel.same sequential succeeds).2

end TagTemplate
