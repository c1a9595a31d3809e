import TagTemplate.Proofs.Discovery.Scan

/-! The templates that a scan finds are found again when they are listed, in the order of the list. -/

namespace TagTemplate.Discovery

open FileTree

section
variable {files : FileTree} {root : Path} {suffix : String}

theorem listed_nodup {obstacles : Obstacles} {names : List String} {found units : List TemplateUnit}
    (once : (found.map (·.name)).Nodup)
    (ok : listed obstacles files root suffix names found = .ok units) :
    (units.map (·.name)).Nodup := by
  induction names generalizing found with
  | nil =>
      cases ok
      exact once
  | cons name names ih =>
      simp only [listed] at ok
      split at ok
      · simp at ok
      split at ok
      · simp at ok
      next fresh =>
      split at ok
      · split at ok
        · next template read =>
            refine ih ?_ ok
            rw [List.map_append, List.map_singleton, readUnit_name read, ← List.concat_eq_append]
            exact once.concat fresh
        · simp at ok
      · simp at ok

theorem listed_of_texts {found more : List TemplateUnit}
    (once : ((found ++ more).map (·.name)).Nodup)
    (texts : ∀ template ∈ more, template.path = listedPath root suffix template.name ∧
      files.readText template.path = .ok template.source) :
    listed .none files root suffix (more.map (·.name)) found = .ok (found ++ more) := by
  induction more generalizing found with
  | nil => simp [listed]
  | cons template rest ih =>
      obtain ⟨path, text⟩ := texts template (by simp)
      have fresh : template.name ∉ found.map (·.name) := by
        rw [List.map_append, List.map_cons, List.nodup_append] at once
        intro member
        exact once.2.2 _ member _ (by simp) rfl
      have read : readUnit .none files found.length ⟨template.name, template.path⟩ =
          .ok template :=
        readUnit_eq_ok_iff.mpr ⟨rfl, text⟩
      simp only [List.map_cons, listed, ← path]
      rw [if_neg (by simp [Obstacles.none]), if_neg fresh, if_pos (isFile_of_readText text), read]
      simp only
      rw [ih (by simpa using once) fun other member => texts other (by simp [member])]
      simp

theorem Presents.listedPath {names : List Name} {template : TemplateUnit}
    (present : Presents files root suffix names template) (some : names ≠ [])
    (spelled : ∀ name ∈ names, name ≠ [] ∧ '/' ∉ name) :
    template.path = listedPath root suffix template.name := by
  rw [present.path, Discovery.listedPath, Path.ofString, present.name, ofText_joined some spelled]

/-- Where a scan succeeds, its templates are found by their names, in the order of the names. -/
theorem discover_names_of_scan (proper : files.Proper) {obstacles : Obstacles}
    {units : List TemplateUnit} (ok : discover obstacles files root suffix [] = .ok units) :
    discover .none files root suffix (units.map (·.name)) = .ok units ∧
      ∀ names, names.Perm (units.map (·.name)) → ∃ others, others.Perm units ∧
        others.map (·.name) = names ∧ discover .none files root suffix names = .ok others := by
  have scan := discover_unobstructed ok
  have texts : ∀ template ∈ units, template.path = listedPath root suffix template.name ∧
      files.readText template.path = .ok template.source := by
    intro template member
    obtain ⟨names, some, shown, way, present, _⟩ := scan_presents proper scan member
    have spelled := way.spelled proper shown some
    exact ⟨present.listedPath some fun name inside =>
      ⟨(shown name inside).1.1, spelled name inside⟩, (scan_eq_ok_iff.mp scan).2.2 _ member⟩
  have again : ∀ others : List TemplateUnit, others.Perm units →
      discover .none files root suffix (others.map (·.name)) = .ok others := by
    intro others order
    by_cases none : others = []
    · subst none
      rwa [List.nil_perm.mp order] at scan
    · have once := (order.map (·.name)).nodup_iff.mpr (scan_nodup proper scan)
      rw [discover, if_neg (by simpa using none)]
      exact @listed_of_texts files root suffix [] others once fun template member =>
        texts template (order.subset member)
  refine ⟨again units (.refl _), fun names order => ?_⟩
  -- A permutation of the names is one of the templates.
  have own : List.Forall₂ (fun name template => name = template.name) (units.map (·.name)) units :=
    List.forall₂_map_left_iff.mpr (List.forall₂_same.mpr fun _ _ => rfl)
  obtain ⟨others, same, reordered⟩ := List.perm_comp_forall₂ order own
  obtain rfl : names = others.map (·.name) := by
    rw [← List.forall₂_eq_eq_eq, List.forall₂_map_right_iff]
    exact same
  exact ⟨others, reordered, rfl, again others reordered⟩

theorem listed_linkedTree : linkedTree.Proper ∧
    discover .none linkedTree (.ofString "t") ".hbs" [] = .ok linkedUnits ∧
    discover .none linkedTree (.ofString "t") ".hbs" ["a/c", "b", "l"] = .ok linkedUnits ∧
    ∃ others, others.Perm linkedUnits ∧ others.map (·.name) = ["l", "b", "a/c"] ∧
      discover .none linkedTree (.ofString "t") ".hbs" ["l", "b", "a/c"] = .ok others := by
  obtain ⟨again, reordered⟩ := discover_names_of_scan proper_linkedTree discover_linkedTree
  exact ⟨proper_linkedTree, discover_linkedTree, again, reordered _ (by decide)⟩

end

end TagTemplate.Discovery
