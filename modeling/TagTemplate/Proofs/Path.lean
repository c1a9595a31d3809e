import TagTemplate.Path

/-! The last name of a path and what stands in front of it, and paths seen from one base after
another. -/

namespace TagTemplate.Path

/-- Segments that lead nowhere else. -/
def Idle (segments : List (List Char)) : Prop :=
  ∀ segment ∈ segments, segment = [] ∨ segment = ['.']

theorem trimReversed_append (absolute : Bool) (segments : List (List Char)) :
    ∃ idle, segments = idle ++ trimReversed absolute segments ∧ Idle idle := by
  induction segments with
  | nil => exact ⟨[], rfl, by simp [Idle]⟩
  | cons last before ih =>
      rw [trimReversed]
      split
      · exact ⟨[], rfl, by simp [Idle]⟩
      · next unnamed =>
          obtain ⟨idle, shape, harmless⟩ := ih
          refine ⟨last :: idle, by rw [List.cons_append, ← shape], ?_⟩
          intro segment member
          rcases List.mem_cons.mp member with rfl | later
          · by_cases blank : segment = []
            · exact Or.inl blank
            · have nonempty : segment.isEmpty = false := by simpa using blank
              simp only [names, nonempty, Bool.not_false, Bool.true_and, Bool.or_eq_true,
                bne_iff_ne, ne_eq, not_or, Decidable.not_not] at unnamed
              exact Or.inr unnamed.2
          · exact harmless segment later

theorem trimSegments_append (absolute : Bool) (segments : List (List Char)) :
    ∃ idle, segments = trimSegments absolute segments ++ idle ∧ Idle idle := by
  obtain ⟨idle, shape, harmless⟩ := trimReversed_append absolute segments.reverse
  refine ⟨idle.reverse, ?_, fun segment member => harmless segment (List.mem_reverse.mp member)⟩
  have flipped := congrArg List.reverse shape
  rwa [List.reverse_reverse, List.reverse_append] at flipped

def IsName (segment : List Char) : Prop := segment ≠ [] ∧ segment ≠ ['.'] ∧ segment ≠ ['.', '.']

theorem IsName.names {segment : List Char} (named : IsName segment) (first : Bool) :
    names first segment = true := by
  have nonempty : segment.isEmpty = false := by simpa using named.1
  simp [Path.names, nonempty, named.2.1]

theorem isName_lock (name : List Char) : IsName ('.' :: name ++ ".lock".toList) := by
  refine ⟨by simp, ?_, ?_⟩
  · intro short
    simpa using congrArg List.length short
  · intro short
    simpa using congrArg List.length short

theorem trimSegments_name (absolute : Bool) (above : List (List Char)) {name : List Char}
    (named : IsName name) : trimSegments absolute (above ++ [name]) = above ++ [name] := by
  simp [trimSegments, trimReversed, named.names]

theorem parent?_name {path : Path} {above : List (List Char)} {name : List Char}
    (shape : path.segments = above ++ [name]) (named : IsName name) :
    path.parent? = some (if trimSegments path.absolute above = [] then ⟨path.absolute, [[]]⟩
      else ⟨path.absolute, trimSegments path.absolute above⟩) := by
  unfold parent?
  rw [shape, trimSegments_name path.absolute above named]
  split
  · next empty => simp at empty
  · next first rest cons =>
      rw [← cons, List.dropLast_concat]
      split
      · next none => rw [if_pos none]
      · next some => rw [if_neg (by simpa using some)]

theorem intercalate_isPrefix (separator : List Char) (front rest : List (List Char)) :
    List.intercalate separator front <+: List.intercalate separator (front ++ rest) := by
  induction front with
  | nil => exact List.nil_prefix
  | cons first more ih =>
      cases more with
      | nil =>
          cases rest with
          | nil => exact List.prefix_refl _
          | cons second others => simp
      | cons second others => simpa using ih

theorem intercalate_isSuffix (separator : List Char) (front : List (List Char))
    (last : List Char) : last <:+ List.intercalate separator (front ++ [last]) := by
  induction front with
  | nil => simp
  | cons first rest ih =>
      obtain ⟨second, others, shape⟩ := List.exists_cons_of_ne_nil
        (show rest ++ [last] ≠ [] by simp)
      rw [shape] at ih
      rw [List.cons_append, shape, List.intercalate_cons_cons]
      exact ih.trans (List.suffix_append _ _)

theorem join_isSuffix {base path : Path} {front : List (List Char)} {last : List Char}
    (some : path.segments ≠ []) (shape : (base.join path).segments = front ++ [last]) :
    last <:+ path.text := by
  obtain ⟨inner, own, segments⟩ := (List.eq_nil_or_concat path.segments).resolve_left some
  rw [List.concat_eq_append] at segments
  have same : last = own := by
    unfold join at shape
    split at shape
    · rw [segments] at shape
      exact (List.singleton_inj.mp (List.append_inj' shape rfl).2).symm
    · rw [segments, ← List.append_assoc] at shape
      exact (List.singleton_inj.mp (List.append_inj' shape rfl).2).symm
  rw [same, text, segments]
  exact (intercalate_isSuffix _ inner own).trans (List.suffix_append _ _)

theorem segments_ofString (text : String) : (ofString text).segments ≠ [] := by
  unfold ofString ofText
  split <;> exact Text.pieces_ne_nil _ _

theorem parent?_text {path : Path} {above : List (List Char)} {name : List Char}
    (shape : path.segments = above ++ [name]) (named : IsName name) :
    ∃ parent, path.parent? = some parent ∧ parent.text <+: path.text := by
  refine ⟨_, parent?_name shape named, ?_⟩
  obtain ⟨idle, split, _⟩ := trimSegments_append path.absolute above
  by_cases bare : trimSegments path.absolute above = []
  · rw [if_pos bare]
    simp [text]
  · rw [if_neg bare]
    simp only [text, shape, List.prefix_append_right_inj]
    have longer : above ++ [name] = trimSegments path.absolute above ++ (idle ++ [name]) := by
      rw [← List.append_assoc, ← split]
    rw [longer]
    exact intercalate_isPrefix _ _ _

theorem isEmpty_iff (path : Path) :
    path.isEmpty = true ↔ path.absolute = false ∧ List.intercalate ['/'] path.segments = [] := by
  simp only [isEmpty, text, List.isEmpty_iff, List.append_eq_nil_iff]
  cases path.absolute <;> simp

theorem idle_of_isEmpty {path : Path} (empty : path.isEmpty = true) :
    path.absolute = false ∧ Idle path.segments := by
  obtain ⟨relative, blank⟩ := (isEmpty_iff path).mp empty
  refine ⟨relative, ?_⟩
  match shape : path.segments with
  | [] => simp [Idle]
  | [segment] =>
      rw [shape] at blank
      have nothing : segment = [] := by simpa [List.intercalate] using blank
      simp [Idle, nothing]
  | first :: second :: rest =>
      rw [shape] at blank
      simp [List.intercalate, List.intersperse] at blank

theorem isEmpty_front {text : List Char} {front : List (List Char)} (some : text ≠ [])
    (shape : (ofText text).segments = front ++ [[]]) :
    (⟨(ofText text).absolute, front⟩ : Path).isEmpty = false := by
  rw [← Bool.not_eq_true, isEmpty_iff]
  rintro ⟨relative, blank⟩
  have whole := text_ofText text
  rw [Path.text, relative, if_neg (by simp), List.nil_append, shape] at whole
  cases front with
  | nil => exact some (by simpa using whole.symm)
  | cons first rest =>
      cases rest with
      | nil =>
          rw [List.intercalate_singleton] at blank
          rw [blank] at whole
          obtain rfl : text = ['/'] := by
            simpa [List.intercalate, List.intersperse] using whole.symm
          simp [ofText] at relative
      | cons second others => simp [List.intercalate, List.intersperse] at blank

theorem ends_of_name {path : Path} {above : List (List Char)} {name : List Char}
    (shape : path.segments = above ++ [name]) (named : IsName name) :
    path.endsInDirection = false ∧ path.endsInSlash = false := by
  have some : name.isEmpty = false := by simpa using named.1
  constructor
  · rw [endsInDirection, shape, List.reverse_append, List.reverse_singleton, List.singleton_append,
      List.dropWhile_cons_of_neg (by simp [some])]
    simp [named.2.1, named.2.2]
  · rw [endsInSlash, shape, List.getLast?_append, List.getLast?_singleton]
    simp [named.1]

theorem exists_name {path : Path} (unslashed : path.endsInSlash = false)
    (undirected : path.endsInDirection = false) :
    ∃ above name, path.segments = above ++ [name] ∧ IsName name := by
  rcases List.eq_nil_or_concat path.segments with empty | ⟨above, name, shape⟩
  · simp [endsInDirection, empty] at undirected
  · rw [List.concat_eq_append] at shape
    refine ⟨above, name, shape, ?_⟩
    by_cases blank : name = []
    · subst blank
      simp only [endsInSlash, shape, List.getLast?_append,
        List.getLast?_singleton, Option.some_or, beq_self_eq_true, Bool.true_and,
        Bool.not_eq_false', isEmpty_iff] at unslashed
      have above_nil : above = [] := by
        cases above with
        | nil => rfl
        | cons first more =>
            cases more <;> simp [List.intercalate, List.intersperse] at unslashed
      simp [endsInDirection, shape, above_nil] at undirected
    · have nonempty : name.isEmpty = false := by simpa using blank
      simp only [endsInDirection, shape, List.reverse_append,
        List.reverse_singleton, List.singleton_append, List.dropWhile_cons, nonempty,
        Bool.false_eq_true, ↓reduceIte, Bool.or_eq_false_iff, beq_eq_false_iff_ne]
        at undirected
      exact ⟨blank, undirected.1, undirected.2⟩

theorem componentsOf_name (first : Bool) (above : List (List Char)) {name : List Char}
    (named : IsName name) :
    (componentsOf first (above ++ [name])).getLast? = some (.normal name) := by
  induction above generalizing first with
  | nil => simp [componentsOf, named.names, component, named.2.1, named.2.2]
  | cons segment rest ih =>
      rw [List.cons_append, componentsOf]
      split
      · rw [List.getLast?_cons, ih]
        rfl
      · exact ih false

theorem fileName?_name {path : Path} {above : List (List Char)} {name : List Char}
    (shape : path.segments = above ++ [name]) (named : IsName name) :
    path.fileName? = some name := by
  simp [fileName?, components, shape, List.getLast?_append, componentsOf_name _ above named]

theorem withFileName_segments (path : Path) (name : List Char) :
    ∃ above, (path.withFileName name).segments = above ++ [name] := by
  unfold withFileName join
  exact ⟨_, rfl⟩

/-! ### Joining -/

def unslashed (segments : List (List Char)) : List (List Char) :=
  if segments.getLast? = some [] then segments.dropLast else segments

theorem unslashed_append (front : List (List Char)) {segments : List (List Char)}
    (some : segments ≠ []) : unslashed (front ++ segments) = front ++ unslashed segments := by
  have last : (front ++ segments).getLast? = segments.getLast? := by
    rw [List.getLast?_append, List.getLast?_eq_some_getLast some, Option.some_or]
  unfold unslashed
  rw [last]
  by_cases slash : segments.getLast? = .some []
  · rw [if_pos slash, if_pos slash, List.dropLast_append_of_ne_nil some]
  · rw [if_neg slash, if_neg slash]

section
variable (base : Path) {between path : Path}

theorem join_of_absolute (absolute : path.absolute = true) : base.join path = path := by
  unfold join
  rw [if_pos absolute]

theorem join_of_relative (relative : path.absolute = false) :
    base.join path = ⟨base.absolute, unslashed base.segments ++ path.segments⟩ := by
  unfold join unslashed
  rw [relative]
  rfl

theorem absolute_join : (base.join path).absolute = (path.absolute || base.absolute) := by
  cases absolute : path.absolute with
  | true => rw [join_of_absolute base absolute, absolute, Bool.true_or]
  | false => rw [join_of_relative base absolute, Bool.false_or]

theorem join_join (some : between.segments ≠ []) :
    base.join (between.join path) = (base.join between).join path := by
  cases far : path.absolute with
  | true => rw [join_of_absolute _ far, join_of_absolute _ far, join_of_absolute _ far]
  | false =>
      cases near : between.absolute with
      | true =>
          have whole : (between.join path).absolute = true := by
            rw [absolute_join, near, Bool.or_true]
          rw [join_of_absolute _ whole, join_of_absolute _ near]
      | false =>
          have part : (between.join path).absolute = false := by
            rw [absolute_join, near, far, Bool.or_false]
          calc
            base.join (between.join path)
                = ⟨base.absolute, unslashed base.segments ++
                    (unslashed between.segments ++ path.segments)⟩ := by
                  rw [join_of_relative _ part, join_of_relative _ far]
              _ = ⟨base.absolute, unslashed (unslashed base.segments ++ between.segments) ++
                    path.segments⟩ := by
                  rw [unslashed_append _ some, List.append_assoc]
              _ = (base.join between).join path := by
                  rw [join_of_relative _ far, join_of_relative _ near]

end

end TagTemplate.Path
