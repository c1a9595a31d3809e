import TagTemplate.Config
import TagTemplate.Proofs.Path

/-! Anchoring a configuration: what becomes of its paths, and that all else stays as it was. -/

namespace TagTemplate.Config

def paths (config : Config) : List Path :=
  config.root :: config.output ::
    match config.compiler with
    | some compiler => compiler.searchPath
    | none => []

def withoutPaths (config : Config) : Config :=
  { config with
    root := Path.current
    output := Path.current
    compiler := config.compiler.map fun compiler =>
      { compiler with searchPath := compiler.searchPath.map fun _ => Path.current } }

section
variable (config : Config) (base : Path)

theorem paths_anchoredAt : (config.anchoredAt base).paths = config.paths.map base.join := by
  unfold paths anchoredAt
  cases config.compiler with
  | none => rfl
  | some compiler => rfl

theorem withoutPaths_anchoredAt : (config.anchoredAt base).withoutPaths = config.withoutPaths := by
  unfold withoutPaths anchoredAt
  cases config.compiler with
  | none => rfl
  | some compiler => simp only [Option.map_some, List.map_map, Function.comp_def]

end

section
variable {config other : Config}

theorem eq_of_paths (paths : config.paths = other.paths)
    (rest : config.withoutPaths = other.withoutPaths) : config = other := by
  obtain ⟨root, suffix, output, templates, amd, runtime, parallel, timeout, compiler⟩ := config
  obtain ⟨_, _, _, _, _, _, _, _, compilerToo⟩ := other
  simp only [Config.paths, List.cons.injEq] at paths
  obtain ⟨rfl, rfl, searched⟩ := paths
  simp only [withoutPaths, Config.mk.injEq, true_and] at rest
  obtain ⟨rfl, rfl, rfl, rfl, rfl, rfl, compilers⟩ := rest
  congr 1
  cases compiler with
  | none =>
      cases compilerToo with
      | none => rfl
      | some other => simp at compilers
  | some compiler =>
      cases compilerToo with
      | none => simp at compilers
      | some other =>
          simp only [Option.map_some, Option.some.injEq, CompilerConfig.mk.injEq] at compilers
          obtain ⟨program, args, -⟩ := compilers
          obtain ⟨_, _, _⟩ := compiler
          obtain ⟨_, _, _⟩ := other
          simp_all only

end

/-- Anchoring at one base and then at another is anchoring once, at the first base seen from the
second. A base that is absolute settles every path, absolute paths stay as they are, and nothing but
paths is changed. -/
theorem anchoredAt_anchoredAt (config : Config) (first second : String) :
    let base := Path.ofString first
    let above := Path.ofString second
    (config.anchoredAt base).anchoredAt above = config.anchoredAt (above.join base) ∧
      (base.absolute = true →
        (config.anchoredAt base).anchoredAt above = config.anchoredAt base) ∧
      (∀ (index : Nat) (path : Path), config.paths[index]? = some path → path.absolute = true →
        (config.anchoredAt base).paths[index]? = some path) ∧
      (config.anchoredAt base).withoutPaths = config.withoutPaths := by
  intro base above
  have composed : (config.anchoredAt base).anchoredAt above = config.anchoredAt (above.join base) := by
    refine eq_of_paths ?_ ?_
    · rw [paths_anchoredAt, paths_anchoredAt, paths_anchoredAt, List.map_map]
      refine List.map_congr_left fun path _ => ?_
      exact Path.join_join above (Path.segments_ofString first)
    · rw [withoutPaths_anchoredAt, withoutPaths_anchoredAt, withoutPaths_anchoredAt]
  refine ⟨composed, fun absolute => ?_, fun index path here absolute => ?_,
    withoutPaths_anchoredAt config base⟩
  · rw [composed, Path.join_of_absolute above absolute]
  · rw [paths_anchoredAt, List.getElem?_map, here, Option.map_some,
      Path.join_of_absolute base absolute]

theorem anchoredAt_anchoredAt_mixed :
    let config : Config :=
      { default with
        output := Path.ofString "/dist/t.js"
        compiler := some ⟨"hbs", [], [Path.ofString "bin", Path.ofString ""]⟩ }
    let site := Path.ofString "/srv//"
    let above := Path.ofString "../x"
    let nowhere := Path.ofString ""
    (site.absolute = true ∧ config.paths[1]? = some (Path.ofString "/dist/t.js")) ∧
      (config.anchoredAt site).anchoredAt above = config.anchoredAt site ∧
      (config.anchoredAt site).paths[1]? = some (Path.ofString "/dist/t.js") ∧
      (config.anchoredAt site).paths.map Path.display =
        ["/srv//templates", "/dist/t.js", "/srv//bin", "/srv//"] ∧
      (config.anchoredAt nowhere).anchoredAt above = config.anchoredAt (above.join nowhere) ∧
      (config.anchoredAt (above.join nowhere)).paths.map Path.display =
        ["../x/templates", "/dist/t.js", "../x/bin", "../x/"] := by
  intro config site above nowhere
  obtain ⟨-, settled, kept, -⟩ := anchoredAt_anchoredAt config "/srv//" "../x"
  obtain ⟨composed, -, -, -⟩ := anchoredAt_anchoredAt config "" "../x"
  exact ⟨⟨by decide, by decide⟩, settled (by decide), kept 1 _ (by decide) (by decide), by decide,
    composed, by decide⟩

end TagTemplate.Config
