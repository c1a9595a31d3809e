import TagTemplate.Proofs.Candidates

/-! Which templates come of reading what is come upon. -/

namespace TagTemplate

def TemplateUnit.candidate (template : TemplateUnit) : Discovery.Candidate :=
  ⟨template.name, template.path⟩

namespace Discovery

section
variable {files : FileTree} {root : Path} {suffix : String}

theorem readUnit_eq_ok_iff {count : Nat} {candidate : Candidate} {template : TemplateUnit} :
    readUnit .none files count candidate = .ok template ↔
      template.candidate = candidate ∧ files.readText template.path = .ok template.source := by
  obtain ⟨name, path, source⟩ := template
  obtain ⟨sought, place⟩ := candidate
  simp only [readUnit, Obstacles.none, TemplateUnit.candidate, Candidate.mk.injEq]
  constructor
  · intro ok
    split at ok
    · next text read =>
        cases ok
        exact ⟨⟨rfl, rfl⟩, read⟩
    · simp at ok
  · rintro ⟨⟨rfl, rfl⟩, read⟩
    rw [read]

theorem readAll_eq_ok_iff {count : Nat} {found : List Candidate} {units : List TemplateUnit} :
    readAll .none files count found = .ok units ↔
      units.map (·.candidate) = found ∧
        ∀ template ∈ units, files.readText template.path = .ok template.source := by
  induction found generalizing count units with
  | nil => cases units <;> simp [readAll]
  | cons candidate rest ih =>
      simp only [readAll]
      constructor
      · intro ok
        split at ok
        · simp at ok
        next template read =>
        split at ok
        · simp at ok
        next templates others =>
        cases ok
        obtain ⟨same, text⟩ := readUnit_eq_ok_iff.mp read
        obtain ⟨sameToo, texts⟩ := ih.mp others
        exact ⟨by simp [same, sameToo], by simpa using ⟨text, texts⟩⟩
      · rintro ⟨shape, texts⟩
        cases units with
        | nil => simp at shape
        | cons template templates =>
            obtain ⟨same, sameToo⟩ := List.cons.inj shape
            rw [List.forall_mem_cons] at texts
            rw [readUnit_eq_ok_iff.mpr ⟨same, texts.1⟩]
            simp only [ih.mpr ⟨sameToo, texts.2⟩]

theorem exists_readAll {found : List Candidate}
    (readable : ∀ candidate ∈ found, ∃ text, files.readText candidate.path = .ok text) :
    ∃ units, readAll .none files 0 found = .ok units := by
  have texts : ∀ candidate, ∃ text, candidate ∈ found →
      files.readText candidate.path = .ok text := by
    intro candidate
    by_cases member : candidate ∈ found
    · obtain ⟨text, read⟩ := readable candidate member
      exact ⟨text, fun _ => read⟩
    · exact ⟨"", fun no => absurd no member⟩
  choose text read using texts
  refine ⟨found.map fun candidate => ⟨candidate.name, candidate.path, text candidate⟩, ?_⟩
  rw [readAll_eq_ok_iff, List.map_map]
  refine ⟨List.map_id' _, ?_⟩
  simpa using read

theorem scan_eq_ok_iff {units : List TemplateUnit} :
    discover .none files root suffix [] = .ok units ↔
      files.isDirectory root = true ∧
        units.map (·.candidate) = candidates files root suffix [] ∧
        ∀ template ∈ units, files.readText template.path = .ok template.source := by
  rw [discover, if_pos List.isEmpty_nil, scanned]
  split
  · next directory =>
      simp only
      rw [if_neg (by simp [Obstacles.none]), readAll_eq_ok_iff]
      simp [directory, candidates]
  · next missing => simp [missing]

end

end Discovery

end TagTemplate
