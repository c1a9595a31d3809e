import TagTemplate.Precompile.Writing
import TagTemplate.Proofs.FileTree.Following

/-! The paths above a path, and which of them can be made as directories. -/

namespace TagTemplate

namespace Path

inductive Above (upper : Path) : Path → Prop
  | parent {lower} (next : lower.parent? = some upper) : Above upper lower
  | higher {middle lower} (next : lower.parent? = some middle) (above : Above upper middle) :
      Above upper lower

theorem Above.of_parent?_eq {upper path other : Path} (above : Above upper path)
    (same : path.parent? = other.parent?) : Above upper other := by
  cases above with
  | parent next => exact .parent (same.symm.trans next)
  | higher next above => exact .higher (same.symm.trans next) above

theorem above_of_mem_ancestorsWithin {fuel : Nat} {path upper : Path}
    (member : upper ∈ ancestorsWithin fuel path) : upper = path ∨ Above upper path := by
  induction fuel generalizing path with
  | zero => exact .inl (List.mem_singleton.mp member)
  | succ fuel ih =>
      rw [ancestorsWithin] at member
      rcases List.mem_cons.mp member with same | higher
      · exact .inl same
      · cases next : path.parent? with
        | none => simp [next] at higher
        | some parent =>
            rw [next] at higher
            rcases ih higher with rfl | above
            · exact .inr (.parent next)
            · exact .inr (.higher next above)

theorem trimReversed_self (absolute : Bool) (segments : List (List Char)) :
    trimReversed absolute (trimReversed absolute segments) = trimReversed absolute segments := by
  induction segments with
  | nil => rfl
  | cons last before ih =>
      rw [trimReversed]
      split
      · next named => rw [trimReversed, if_pos named]
      · exact ih

theorem trimSegments_self (absolute : Bool) (segments : List (List Char)) :
    trimSegments absolute (trimSegments absolute segments) = trimSegments absolute segments := by
  simp only [trimSegments, List.reverse_reverse, trimReversed_self]

theorem trimSegments_blank (absolute : Bool) (segments : List (List Char)) :
    trimSegments absolute (segments ++ [[]]) = trimSegments absolute segments := by
  simp [trimSegments, trimReversed, names]

theorem parent?_congr {path other : Path} (absolute : path.absolute = other.absolute)
    (same : trimSegments path.absolute path.segments =
      trimSegments other.absolute other.segments) : path.parent? = other.parent? := by
  unfold parent?
  rw [same, absolute]

theorem segments_parent? {path parent : Path} (next : path.parent? = some parent) :
    parent.segments = [[]] ∨
      parent.segments ≠ [] ∧ trimSegments parent.absolute parent.segments = parent.segments := by
  unfold parent? at next
  split at next
  · simp at next
  split at next
  · cases next
    exact .inl rfl
  · next kept =>
      cases next
      exact .inr ⟨kept, trimSegments_self _ _⟩

def EndsNamed (segments : List (List Char)) : Prop :=
  ∃ front name idle, segments = front ++ name :: idle ∧ IsName name ∧ Idle idle

theorem EndsNamed.cons {segments : List (List Char)} (segment : List Char)
    (ends : EndsNamed segments) : EndsNamed (segment :: segments) := by
  obtain ⟨front, name, idle, rfl, named, harmless⟩ := ends
  exact ⟨segment :: front, name, idle, rfl, named, harmless⟩

theorem EndsNamed.of_append {front rest : List (List Char)} (ends : EndsNamed (front ++ rest)) :
    EndsNamed rest ∨ Idle rest := by
  obtain ⟨above, name, idle, shape, named, harmless⟩ := ends
  rcases List.append_eq_append_iff.mp shape with ⟨more, rfl, tail⟩ | ⟨more, rfl, tail⟩
  · exact .inl ⟨more, name, idle, tail, named, harmless⟩
  · cases more with
    | nil => exact .inl ⟨[], name, idle, by simpa using tail.symm, named, harmless⟩
    | cons first others =>
        refine .inr fun segment member => harmless segment ?_
        simp only [List.cons_append, List.cons.injEq] at tail
        rw [tail.2]
        exact List.mem_append_right _ member

theorem EndsNamed.append {segments idle : List (List Char)} (ends : EndsNamed segments)
    (harmless : Idle idle) : EndsNamed (segments ++ idle) := by
  obtain ⟨front, name, between, rfl, named, harmlessToo⟩ := ends
  refine ⟨front, name, between ++ idle, by simp, named, ?_⟩
  intro segment member
  rcases List.mem_append.mp member with early | late
  · exact harmlessToo segment early
  · exact harmless segment late

theorem EndsNamed.not_idle {segments : List (List Char)} (ends : EndsNamed segments) :
    ¬ Idle segments := by
  obtain ⟨front, name, idle, rfl, named, -⟩ := ends
  intro harmless
  rcases harmless name (by simp) with blank | point
  · exact named.1 blank
  · exact named.2.1 point

theorem componentsOf_idle {idle : List (List Char)} (harmless : Idle idle) :
    componentsOf false idle = [] := by
  induction idle with
  | nil => rfl
  | cons segment rest ih =>
      have later := ih fun other member => harmless other (List.mem_cons_of_mem _ member)
      rcases harmless segment List.mem_cons_self with rfl | rfl
      · simpa [componentsOf, names] using later
      · simpa [componentsOf, names] using later

theorem componentsOf_append_idle (first : Bool) (above : List (List Char)) {name : List Char}
    {idle : List (List Char)} (named : IsName name) (harmless : Idle idle) :
    componentsOf first (above ++ name :: idle) = componentsOf first (above ++ [name]) := by
  induction above generalizing first with
  | nil => simp [componentsOf, named.names, componentsOf_idle harmless]
  | cons segment rest ih =>
      simp only [List.cons_append, componentsOf]
      split
      · rw [ih false]
      · exact ih false

theorem EndsNamed.fileName? {path : Path} (ends : EndsNamed path.segments) :
    ∃ name, path.fileName? = some name := by
  obtain ⟨front, name, idle, shape, named, harmless⟩ := ends
  refine ⟨name, ?_⟩
  simp [Path.fileName?, components, shape, List.getLast?_append,
    componentsOf_append_idle _ front named harmless, componentsOf_name _ front named]

theorem parent?_join (base : Path) {name : List Char} (named : IsName name) :
    (base.join ⟨false, [name]⟩).parent? =
      some ⟨base.absolute, if trimSegments base.absolute base.segments = [] then [[]]
        else trimSegments base.absolute base.segments⟩ := by
  have kept : trimSegments base.absolute
      (if base.segments.getLast? = some [] then base.segments.dropLast else base.segments) =
        trimSegments base.absolute base.segments := by
    split
    · next blank =>
        obtain ⟨front, shape⟩ := List.getLast?_eq_some_iff.mp blank
        rw [shape, List.dropLast_concat, trimSegments_blank]
    · rfl
  unfold join
  rw [if_neg (by simp), parent?_name rfl named, kept]
  split
  · rfl
  · rfl

theorem parent?_eq_none_iff (path : Path) :
    path.parent? = none ↔ trimSegments path.absolute path.segments = [] := by
  unfold parent?
  split
  · next empty => simp [empty]
  · next shape =>
      split
      · simp [shape]
      · simp [shape]

end Path

namespace FileTree

theorem follow_endsNamed {tree : FileTree} {pursuit : Pursuit} {inner : Location} {name : Name}
    {jump : Location → List Name → Except IoError Place}
    (jumps : ∀ directory segments, jump directory segments = .ok (.free inner name) →
      Path.EndsNamed segments)
    (directory : Location) (segments : List Name)
    (reached : tree.follow pursuit jump directory segments = .ok (.free inner name)) :
    Path.EndsNamed segments := by
  induction segments generalizing directory with
  | nil => cases reached
  | cons segment rest ih =>
      rw [follow_cons] at reached
      split at reached
      · exact (ih _ reached).cons segment
      next stands =>
      split at reached
      · exact (ih _ reached).cons segment
      next down =>
      have named : Path.IsName segment := ⟨fun blank => stands (Or.inl blank),
        fun point => stands (Or.inr point), down⟩
      have last : Path.Idle rest → Path.EndsNamed (segment :: rest) :=
        fun harmless => ⟨[], segment, rest, rfl, named, harmless⟩
      split at reached
      · simp at reached
      split at reached
      · simp at reached
      unfold enter at reached
      split at reached
      · split at reached
        · next blank =>
            refine last fun other member => .inl ?_
            simpa using List.all_eq_true.mp blank other member
        · simp at reached
      · exact (ih _ reached).cons segment
      · split at reached <;> simp at reached
      · split at reached
        · simp at reached
        · rcases (jumps _ _ reached).of_append with ends | harmless
          · exact ends.cons segment
          · exact last harmless

theorem place_endsNamed {tree : FileTree} {pursuit : Pursuit} {path : Path} {inner : Location}
    {name : Name} (reached : tree.place pursuit path = .ok (.free inner name)) :
    Path.EndsNamed path.segments := by
  have within : ∀ limit directory segments,
      tree.followWithin pursuit limit directory segments = .ok (.free inner name) →
      Path.EndsNamed segments := by
    intro limit
    induction limit with
    | zero => simp [followWithin]
    | succ limit ih => exact follow_endsNamed ih
  exact within _ _ _ (place_eq_ok reached)

theorem makeDirectory_endsNamed {tree made : FileTree} {path : Path}
    (ok : tree.makeDirectory path = .ok made) : Path.EndsNamed path.segments := by
  unfold makeDirectory at ok
  split at ok
  · next directory name reached => exact place_endsNamed reached
  · simp at ok
  · simp at ok

end FileTree

open FileTree

/-- The lock is beside the output. Where the output ends in no name the lock is in it, and such a
path is never made. -/
theorem Lock.parent?_pathFor {output parent : Path}
    (next : (Lock.pathFor output).parent? = some parent) :
    output.parent? = some parent ∨
      parent.parent? = output.parent? ∧ ¬ Path.EndsNamed parent.segments := by
  have named := Path.isName_lock (output.fileName?.getD "output".toList)
  unfold Lock.pathFor Path.withFileName at next
  rw [Path.parent?_join _ named, Option.some.injEq] at next
  subst next
  by_cases inside : output.fileName?.isSome = true ∧ output.parent?.isSome = true
  · left
    obtain ⟨named, some⟩ := inside
    obtain ⟨base, above⟩ := Option.isSome_iff_exists.mp some
    simp only [named, above, Option.getD_some, ↓reduceIte, Option.some.injEq]
    obtain ⟨absolute, segments⟩ := base
    rcases Path.segments_parent? above with blank | ⟨kept, same⟩
    · cases blank
      simp [Path.trimSegments, Path.trimReversed, Path.names]
    · simp only at kept same
      simp [same, kept]
  · right
    have base : (if output.fileName?.isSome then output.parent?.getD output else output) =
        output := by
      split
      · next named =>
          have none : output.parent? = none := by simpa [named] using inside
          simp [none]
      · rfl
    rw [base]
    by_cases empty : Path.trimSegments output.absolute output.segments = []
    · rw [if_pos empty]
      refine ⟨Path.parent?_congr rfl ?_, fun ends => ends.not_idle (by simp [Path.Idle])⟩
      rw [empty]
      simp [Path.trimSegments, Path.trimReversed, Path.names]
    · rw [if_neg empty]
      refine ⟨Path.parent?_congr rfl (Path.trimSegments_self _ _), ?_⟩
      intro ends
      obtain ⟨idle, shape, harmless⟩ :=
        Path.trimSegments_append output.absolute output.segments
      have whole : Path.EndsNamed output.segments := by
        rw [shape]
        exact ends.append harmless
      obtain ⟨name, named⟩ := whole.fileName?
      refine inside ⟨by simp [named], ?_⟩
      rw [Option.isSome_iff_ne_none, Ne, Path.parent?_eq_none_iff]
      exact empty

theorem Lock.above_of_made {output parent path : Path} {tree made : FileTree}
    (next : (Lock.pathFor output).parent? = some parent) (among : path ∈ parent.ancestors)
    (ok : tree.makeDirectory path = .ok made) : path.Above output := by
  rcases Path.above_of_mem_ancestorsWithin among with rfl | above
  · rcases Lock.parent?_pathFor next with here | ⟨-, unnamed⟩
    · exact .parent here
    · exact absurd (makeDirectory_endsNamed ok) unnamed
  · rcases Lock.parent?_pathFor next with here | ⟨same, -⟩
    · exact .higher here above
    · exact above.of_parent?_eq same

theorem WriteJob.above_of_made {job : WriteJob} {path : Path} {tree made : FileTree}
    (among : path ∈ job.directory.ancestors) (ok : tree.makeDirectory path = .ok made) :
    path.Above job.output := by
  have named := makeDirectory_endsNamed ok
  have elsewhere : path ∉ Path.current.ancestors := by
    intro here
    have idle : ∀ other ∈ Path.current.ancestors, Path.Idle other.segments := by
      intro other member
      have few : other = Path.current ∨ other = ⟨false, [[]]⟩ := by
        simpa [Path.ancestors, Path.ancestorsWithin, Path.current, Path.parent?,
          Path.trimSegments, Path.trimReversed, Path.names] using member
      rcases few with rfl | rfl
      · simp [Path.current, Path.Idle]
      · simp [Path.Idle]
    exact named.not_idle (idle path here)
  unfold directory at among
  split at among
  · next parent next =>
      split at among
      · exact absurd among elsewhere
      · rcases Path.above_of_mem_ancestorsWithin among with rfl | above
        · exact .parent next
        · exact .higher next above
  · exact absurd among elsewhere

end TagTemplate
