import TagTemplate.Proofs.FileTree.Replacement
import TagTemplate.Proofs.Precompile.Writing

/-! What reading the path of an output gives once the output has been replaced. -/

namespace TagTemplate

open FileTree

theorem WriteJob.directory_front {job : WriteJob} {above : List Name} {name : Name}
    (shape : job.output.segments = above ++ [name]) (named : Path.IsName name) :
    job.directory.absolute = job.output.absolute ∧ ∃ front idle,
      above = front ++ idle ∧ Path.Idle idle ∧
        (job.directory.segments = front ∨ front = [] ∧ Path.Idle job.directory.segments) := by
  obtain ⟨idle, split, harmless⟩ := Path.trimSegments_append job.output.absolute above
  unfold directory
  rw [Path.parent?_name shape named]
  by_cases bare : Path.trimSegments job.output.absolute above = []
  · rw [bare] at split
    simp only [if_pos bare]
    split
    · next empty =>
        exact ⟨(Path.idle_of_isEmpty empty).1.symm, [], idle, split, harmless,
          Or.inr ⟨rfl, by simp [Path.current, Path.Idle]⟩⟩
    · exact ⟨rfl, [], idle, split, harmless, Or.inr ⟨rfl, by simp [Path.Idle]⟩⟩
  · simp only [if_neg bare]
    split
    · next empty =>
        obtain ⟨relative, blank⟩ := Path.idle_of_isEmpty empty
        refine ⟨relative.symm, [], above, rfl, ?_,
          Or.inr ⟨rfl, by simp [Path.current, Path.Idle]⟩⟩
        rw [split]
        intro segment member
        exact (List.mem_append.mp member).elim (blank segment) (harmless segment)
    · exact ⟨rfl, _, idle, split, harmless, Or.inl rfl⟩

theorem WriteJob.directory_text {job : WriteJob} {above : List Name} {name : Name}
    (shape : job.output.segments = above ++ [name]) (named : Path.IsName name) :
    job.directory.isEmpty = false ∧
      (job.directory = Path.current ∨ job.directory.text <+: job.output.text) := by
  obtain ⟨parent, found, shorter⟩ := Path.parent?_text shape named
  unfold directory
  rw [found]
  simp only
  split
  · exact ⟨rfl, Or.inl rfl⟩
  · next nonempty => exact ⟨by simpa using nonempty, Or.inr shorter⟩

theorem WriteJob.place_directory {job : WriteJob} {tree : FileTree} {pursuit : Pursuit}
    {place : Place} (reached : tree.place pursuit job.output = .ok place) {above : List Name}
    {name : Name} (shape : job.output.segments = above ++ [name]) (named : Path.IsName name) :
    tree.place .node job.directory = tree.followWithin .node linkLimit
      (tree.startOf job.directory) job.directory.segments := by
  obtain ⟨nonempty, current | shorter⟩ := job.directory_text shape named
  · rw [current]
    rfl
  · exact place_eq_of_isPrefix reached shorter nonempty .node

theorem WriteJob.follow_directory {job : WriteJob} {above : List Name} {name : Name}
    (shape : job.output.segments = above ++ [name]) (named : Path.IsName name) (files : FileTree) :
    ∃ front idle, job.output.segments = front ++ (idle ++ [name]) ∧ Path.Idle idle ∧
      files.followWithin .node linkLimit (files.startOf job.directory) job.directory.segments =
        files.followWithin .node linkLimit (files.startOf job.output) front := by
  obtain ⟨same, front, idle, split, harmless, directory⟩ := job.directory_front shape named
  refine ⟨front, idle, by rw [shape, split, List.append_assoc], harmless, ?_⟩
  rw [startOf, startOf, same]
  rcases directory with segments | ⟨rfl, still⟩
  · rw [segments]
  · have skipped := followWithin_skip files .node 40 (files.startOf job.output) [] still
    rw [List.append_nil, startOf] at skipped
    exact skipped

theorem WriteJob.directory_of_place {job : WriteJob} {files : FileTree} {pursuit : Pursuit}
    {place : Place} (reached : files.place pursuit job.output = .ok place) {above : List Name}
    {name : Name} (shape : job.output.segments = above ++ [name]) (named : Path.IsName name) :
    ∃ inner, files.place .node job.directory = .ok (.found inner .directory) := by
  obtain ⟨front, idle, split, _, onward⟩ := job.follow_directory shape named files
  have leads := place_eq_ok reached
  rw [split] at leads
  obtain ⟨inner, leads⟩ :=
    followWithin_front (HasName.goesOn ⟨name, by simp, named.1⟩ place) _ _ _ leads
  exact ⟨inner, by rw [WriteJob.place_directory reached shape named, onward]; exact leads⟩

theorem FileTree.Replaced.place_output {job : WriteJob} {plain replaced : FileTree}
    {target inner : Location} {content : ByteArray} (held : Replaced plain replaced target content)
    (aimed : plain.renameTarget job.output = .ok target)
    (there : replaced.place .node job.directory = .ok (.found inner .directory))
    (pursuit : Pursuit) :
    replaced.place pursuit job.output = .ok (.found target (.file content false)) := by
  obtain ⟨undirected, unslashed, _⟩ := place_of_renameTarget aimed
  obtain ⟨above, name, shape, named⟩ := Path.exists_name unslashed undirected
  obtain ⟨front, idle, split, harmless, onward⟩ := job.follow_directory shape named replaced
  have leads := place_eq_ok there
  change replaced.followWithin .node linkLimit (replaced.startOf job.directory) _ = _ at leads
  rw [onward] at leads
  exact held.place aimed split harmless named leads pursuit

theorem FileTree.Published.find?_iff {job : WriteJob} {left files : FileTree}
    (published : Published job.output job.text left files) :
    (∃ target, files.find? job.output = some (target, .file job.text.toUTF8 false)) ↔
      files.isDirectory job.directory = true := by
  obtain ⟨prepared, target, _, aimed, replaced⟩ := published
  obtain ⟨undirected, unslashed, _, reached, _, _⟩ := place_of_renameTarget aimed
  obtain ⟨above, name, shape, named⟩ := Path.exists_name unslashed undirected
  rw [isDirectory_iff]
  constructor
  · rintro ⟨location, found⟩
    exact WriteJob.directory_of_place (find?_eq_some.mp found) shape named
  · rintro ⟨inner, there⟩
    exact ⟨target, find?_eq_some.mpr (replaced.place_output aimed there .node)⟩

/-- Files in which a text is the output. Its path leads to it as long as it goes on from a
directory. -/
structure WriteJob.Stored (job : WriteJob) (left files : FileTree) : Prop where
  published : Published job.output job.text left files
  found : (∃ target, files.find? job.output = some (target, .file job.text.toUTF8 false)) ↔
    files.isDirectory job.directory = true

theorem WriteJob.stored (job : WriteJob) {left files : FileTree}
    (published : Published job.output job.text left files) : job.Stored left files :=
  ⟨published, published.find?_iff⟩

end TagTemplate
