import TagTemplate.Proofs.Discovery.Scan
import TagTemplate.Proofs.Path.Components

/-! The lock of an output: one for each path, beside it, and hidden from a scan. -/

namespace TagTemplate.Lock

open TagTemplate.Path

section
variable {output other : Path} {name nameToo : List Char}

theorem pathFor_eq (named : output.fileName? = some name) :
    pathFor output = output.withFileName ('.' :: name ++ ".lock".toList) := by
  rw [pathFor, named, Option.getD_some]

theorem components_pathFor (named : output.fileName? = some name) :
    (pathFor output).components =
      output.components.dropLast ++ [.normal ('.' :: name ++ ".lock".toList)] := by
  rw [pathFor_eq named, components_withFileName named (isName_lock name)]

theorem fileName?_pathFor (named : output.fileName? = some name) :
    (pathFor output).fileName? = some ('.' :: name ++ ".lock".toList) := by
  rw [fileName?, components_pathFor named, List.getLast?_concat]

theorem lock_ne (name : List Char) : '.' :: name ++ ".lock".toList ≠ name := by
  intro same
  have longer := congrArg List.length same
  simp at longer
  omega

theorem components_pathFor_ne (named : output.fileName? = some name) :
    (pathFor output).components ≠ output.components := by
  rw [components_pathFor named, components_of_fileName? named, List.dropLast_concat, ne_eq,
    List.append_singleton_inj, Component.normal.injEq]
  exact fun same => lock_ne name same.2

theorem components_pathFor_inj (named : output.fileName? = some name)
    (namedToo : other.fileName? = some nameToo) :
    (pathFor output).components = (pathFor other).components ↔
      output.components = other.components := by
  rw [components_pathFor named, components_pathFor namedToo, components_of_fileName? named,
    components_of_fileName? namedToo, List.dropLast_concat, List.dropLast_concat,
    List.append_singleton_inj, List.append_singleton_inj]
  simp

theorem spelled_pathFor {text : List Char} (named : (ofText text).fileName? = some name) :
    (pathFor (ofText text)).Spelled := by
  have spelled := spelled_ofText text
  have slashless := spelled.fileName? named
  rw [pathFor_eq named]
  exact spelled.withFileName named (by simp) (by simpa using slashless)

end

theorem components_ne_of_scan {files : FileTree} (proper : files.Proper)
    {obstacles : Discovery.Obstacles} {root path : Path} {suffix : String}
    {units : List TemplateUnit} (ok : discover obstacles files root suffix [] = .ok units)
    {template : TemplateUnit} (member : template ∈ units) {name : List Char}
    (named : path.fileName? = some name) (hidden : Discovery.isHidden name = true) :
    template.path.components ≠ path.components := by
  obtain ⟨names, below, shown, _, present, _⟩ :=
    Discovery.scan_presents proper (discover_unobstructed ok) member
  obtain ⟨front, last, shape⟩ := (List.eq_nil_or_concat names).resolve_left below
  rw [List.concat_eq_append] at shape
  obtain ⟨word, visible⟩ := shown last (by simp [shape])
  have ending : template.path.fileName? = some last := by
    have segments : ∃ above, template.path.segments = above ++ [last] := by
      rw [present.path, shape, join, if_neg (by simp), ← List.append_assoc]
      exact ⟨_, rfl⟩
    obtain ⟨above, segments⟩ := segments
    exact fileName?_name segments word
  intro same
  rw [fileName?, same, ← fileName?, named, Option.some.injEq] at ending
  rw [← ending, hidden] at visible
  simp at visible

/-- Two outputs have the same lock if and only if they are the same path. A lock is beside its
output, under a name of its own that no scan shows. -/
theorem pathFor_identifies {text other : String} {name nameToo : List Char}
    (named : (Path.ofString text).fileName? = some name)
    (namedToo : (Path.ofString other).fileName? = some nameToo) :
    let output := Path.ofString text
    let lock := pathFor output
    Path.ofString lock.display = lock ∧
      (∃ parent, output.parent? = some parent ∧ lock.parent? = some parent) ∧
      lock.fileName? = some ('.' :: name ++ ".lock".toList) ∧
      lock.components ≠ output.components ∧
      (lock.components = (pathFor (.ofString other)).components ↔
        output.components = (Path.ofString other).components) ∧
      ∀ (files : FileTree) (obstacles : Discovery.Obstacles) (root : Path) (suffix : String)
        (units : List TemplateUnit), files.Proper →
        discover obstacles files root suffix [] = .ok units →
        ∀ template ∈ units, template.path.components ≠ lock.components := by
  intro output lock
  obtain ⟨parent, above⟩ := exists_parent named
  have beside : lock.parent? = some parent := by
    rw [← above, ← parent?_withFileName named (isName_lock name)]
    exact congrArg parent? (pathFor_eq named)
  have again : Path.ofString lock.display = lock := by
    rw [Path.ofString, Path.display, String.toList_ofList]
    exact (spelled_pathFor named).ofText_text
  exact ⟨again, ⟨parent, above, beside⟩, fileName?_pathFor named, components_pathFor_ne named,
    components_pathFor_inj named namedToo, fun files obstacles root suffix units proper ok template
      member => components_ne_of_scan proper ok member (fileName?_pathFor named) rfl⟩

theorem pathFor_rewritten :
    let output := Path.ofString "./a//b/."
    let other := Path.ofString "./a/./b"
    output.fileName? = some ['b'] ∧ other.fileName? = some ['b'] ∧
      (pathFor output).display = "./a/.b.lock" ∧
      (pathFor output).components ≠ output.components ∧
      (pathFor output).components = (pathFor other).components := by
  have named : (Path.ofString "./a//b/.").fileName? = some ['b'] := by decide
  have namedToo : (Path.ofString "./a/./b").fileName? = some ['b'] := by decide
  obtain ⟨-, -, -, apart, same, -⟩ := pathFor_identifies named namedToo
  exact ⟨named, namedToo, by decide, apart, same.mpr (by decide)⟩

end TagTemplate.Lock
