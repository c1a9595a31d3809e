import Mathlib.Data.List.Induction
import TagTemplate.Proofs.Ancestors
import TagTemplate.Proofs.Text

/-! The components of a path, of its parent, and of the path with another name for its last one. -/

namespace TagTemplate.Path

theorem componentsOf_concat (first : Bool) (segments : List (List Char)) (last : List Char) :
    componentsOf first (segments ++ [last]) = componentsOf first segments ++
      if names (first && segments.isEmpty) last then [component last] else [] := by
  induction segments generalizing first with
  | nil =>
      simp only [List.nil_append, componentsOf, List.isEmpty_nil, Bool.and_true]
  | cons segment rest ih =>
      have later := ih false
      rw [Bool.false_and] at later
      simp only [List.cons_append, componentsOf, later, List.isEmpty_cons, Bool.and_false]
      split
      · rw [List.cons_append]
      · rfl

theorem trimSegments_concat (absolute : Bool) (segments : List (List Char)) (last : List Char) :
    trimSegments absolute (segments ++ [last]) =
      if names (!absolute && segments.isEmpty) last then segments ++ [last]
      else trimSegments absolute segments := by
  rw [trimSegments, List.reverse_concat, trimReversed, List.isEmpty_reverse]
  split
  · rw [List.reverse_cons, List.reverse_reverse]
  · rfl

theorem componentsOf_trimSegments (absolute : Bool) (segments : List (List Char)) :
    componentsOf (!absolute) (trimSegments absolute segments) =
      componentsOf (!absolute) segments := by
  induction segments using List.reverseRecOn with
  | nil => rfl
  | append_singleton segments last ih =>
      rw [trimSegments_concat]
      split
      · rfl
      · next idle => rw [ih, componentsOf_concat, if_neg idle, List.append_nil]

theorem names_of_trimSegments {absolute : Bool} {segments front : List (List Char)}
    {last : List Char} (shape : trimSegments absolute segments = front ++ [last]) :
    names (!absolute && front.isEmpty) last = true := by
  induction segments using List.reverseRecOn with
  | nil => simp [trimSegments, trimReversed] at shape
  | append_singleton segments other ih =>
      rw [trimSegments_concat] at shape
      split at shape
      · next named =>
          obtain ⟨rfl, same⟩ := List.append_inj' shape rfl
          exact List.singleton_inj.mp same ▸ named
      · exact ih shape

theorem component_eq_normal_iff {segment name : List Char} :
    component segment = .normal name ↔
      segment = name ∧ segment ≠ ['.'] ∧ segment ≠ ['.', '.'] := by
  unfold component
  split
  · next point => simp [point]
  · next other =>
      split
      · next points => simp [points]
      · next down => simp [other, down]

section
variable {path : Path} {name : List Char}

theorem exists_front (named : path.fileName? = some name) :
    ∃ front, trimSegments path.absolute path.segments = front ++ [name] ∧ IsName name := by
  have last : path.components.getLast? = some (.normal name) := by
    unfold fileName? at named
    split at named
    · next other found => rwa [← Option.some.inj named]
    · simp at named
  rw [components, ← componentsOf_trimSegments] at last
  rcases List.eq_nil_or_concat (trimSegments path.absolute path.segments) with empty |
    ⟨front, segment, shape⟩
  · rw [empty] at last
    cases absolute : path.absolute <;> simp [absolute, componentsOf] at last
  · rw [List.concat_eq_append] at shape
    have counts := names_of_trimSegments shape
    rw [shape, componentsOf_concat, if_pos counts, ← List.append_assoc, List.getLast?_concat,
      Option.some.injEq, component_eq_normal_iff] at last
    obtain ⟨rfl, point, points⟩ := last
    have some : segment ≠ [] := by
      rintro rfl
      simp [names] at counts
    exact ⟨front, shape, some, point, points⟩

section
variable {front : List (List Char)}
  (shape : trimSegments path.absolute path.segments = front ++ [name]) (word : IsName name)
include shape word

theorem components_of_front :
    path.components = (if path.absolute then [.root] else []) ++
      componentsOf (!path.absolute) front ++ [.normal name] := by
  have normal : component name = .normal name := component_eq_normal_iff.mpr ⟨rfl, word.2⟩
  rw [components, ← componentsOf_trimSegments, shape, componentsOf_concat, if_pos (word.names _),
    normal, List.append_assoc]

theorem parent?_of_front :
    path.parent? = some (if trimSegments path.absolute front = [] then ⟨path.absolute, [[]]⟩
      else ⟨path.absolute, trimSegments path.absolute front⟩) := by
  have trimmed : path.parent? = (⟨path.absolute, front ++ [name]⟩ : Path).parent? := by
    refine parent?_congr rfl ?_
    simp only [← shape, trimSegments_self]
  rw [trimmed, parent?_name rfl word]

theorem fileName?_of_front : path.fileName? = some name := by
  rw [fileName?, components_of_front shape word, List.getLast?_concat]

theorem withFileName_of_front (other : List Char) :
    path.withFileName other = ⟨path.absolute, trimSegments path.absolute front ++ [other]⟩ := by
  rw [withFileName, if_pos (by rw [fileName?_of_front shape word]; rfl),
    parent?_of_front shape word, Option.getD_some]
  split
  · next bare => simp [join, bare]
  · next some =>
      obtain ⟨before, last, kept⟩ := (List.eq_nil_or_concat _).resolve_left some
      rw [List.concat_eq_append] at kept
      -- what is left of the parent ends in no slash that the name could be put behind
      have counts := names_of_trimSegments kept
      have solid : last ≠ [] := by
        rintro rfl
        simp [names] at counts
      simp [join, kept, solid]

end

section
variable (named : path.fileName? = some name) {other : List Char} (word : IsName other)
include named

theorem exists_parent : ∃ parent, path.parent? = some parent := by
  obtain ⟨front, shape, wordToo⟩ := exists_front named
  exact ⟨_, parent?_of_front shape wordToo⟩

theorem components_of_fileName? :
    path.components = path.components.dropLast ++ [.normal name] := by
  obtain ⟨front, shape, word⟩ := exists_front named
  rw [components_of_front shape word, List.dropLast_concat]

include word

theorem components_withFileName :
    (path.withFileName other).components = path.components.dropLast ++ [.normal other] := by
  obtain ⟨front, shape, wordToo⟩ := exists_front named
  rw [withFileName_of_front shape wordToo, components_of_front shape wordToo, List.dropLast_concat,
    components_of_front (trimSegments_name _ _ word) word, componentsOf_trimSegments]

theorem parent?_withFileName : (path.withFileName other).parent? = path.parent? := by
  obtain ⟨front, shape, wordToo⟩ := exists_front named
  rw [withFileName_of_front shape wordToo, parent?_of_front shape wordToo, parent?_name rfl word,
    trimSegments_self]

end

end

/-- A path that a text can be read as: no slash is in a segment, or at the start of a relative path. -/
structure Spelled (path : Path) : Prop where
  nonempty : path.segments ≠ []
  slashless : ∀ segment ∈ path.segments, '/' ∉ segment
  start : path.absolute = false → ∀ rest, path.segments = [] :: rest → rest = []

theorem spelled_ofText (text : List Char) : (ofText text).Spelled := by
  have slashless : ∀ rest, ∀ segment ∈ Text.pieces (· == '/') rest, '/' ∉ segment :=
    fun rest segment member inside =>
      by simpa using Text.separates_of_mem_pieces member '/' inside
  unfold ofText
  split
  · next rest => exact ⟨Text.pieces_ne_nil _ _, slashless rest, by simp⟩
  · next unslashed =>
      refine ⟨Text.pieces_ne_nil _ _, slashless text, fun _ rest shape => ?_⟩
      cases text with
      | nil => simpa [Text.pieces] using shape.symm
      | cons c others =>
          have other : (c == '/') = false := by
            rw [beq_eq_false_iff_ne]
            rintro rfl
            exact unslashed others rfl
          obtain ⟨first, more, pieces⟩ :=
            List.exists_cons_of_ne_nil (Text.pieces_ne_nil (· == '/') others)
          simp [Text.pieces, other, pieces] at shape

theorem Spelled.ofText_text {path : Path} (spelled : path.Spelled) : ofText path.text = path := by
  obtain ⟨absolute, segments⟩ := path
  obtain ⟨nonempty, slashless, start⟩ := spelled
  have pieces : Text.pieces (· == '/') (List.intercalate ['/'] segments) = segments :=
    Text.pieces_intercalate rfl nonempty fun segment member =>
      Text.beq_eq_false_of_notMem (slashless segment member)
  cases absolute with
  | true => simp [text, ofText, pieces]
  | false =>
      unfold ofText
      simp only [text, Bool.false_eq_true, ↓reduceIte, List.nil_append]
      split
      · next rest slash =>
          obtain ⟨first, others, rfl⟩ := List.exists_cons_of_ne_nil nonempty
          cases first with
          | nil =>
              obtain rfl := start rfl others rfl
              simp at slash
          | cons c more =>
              have begins : (List.intercalate ['/'] ((c :: more) :: others)).head? = some c := by
                cases others <;> rfl
              rw [slash, List.head?_cons, Option.some.injEq] at begins
              exact absurd (begins ▸ List.mem_cons_self) (slashless _ List.mem_cons_self)
      · rw [pieces]

section
variable {path : Path} {name other : List Char} (spelled : path.Spelled)
  (named : path.fileName? = some name)
include spelled named

theorem Spelled.fileName? : '/' ∉ name := by
  obtain ⟨front, shape, -⟩ := exists_front named
  obtain ⟨idle, whole, -⟩ := trimSegments_append path.absolute path.segments
  rw [shape] at whole
  exact spelled.slashless name (by simp [whole])

theorem Spelled.withFileName (nonempty : other ≠ []) (slashless : '/' ∉ other) :
    (path.withFileName other).Spelled := by
  obtain ⟨front, shape, word⟩ := exists_front named
  obtain ⟨idle, whole, -⟩ := trimSegments_append path.absolute path.segments
  obtain ⟨more, above, -⟩ := trimSegments_append path.absolute front
  rw [shape] at whole
  generalize kept : trimSegments path.absolute front = upper at above
  subst above
  rw [withFileName_of_front shape word, kept]
  refine ⟨by simp, fun segment member => ?_, fun relative rest begins => ?_⟩
  · rcases List.mem_append.mp member with inside | last
    · exact spelled.slashless segment (by simp [whole, inside])
    · exact List.mem_singleton.mp last ▸ slashless
  · cases upper with
    | nil => exact absurd (List.cons.inj begins).1 nonempty
    | cons first others =>
        obtain ⟨rfl, -⟩ := List.cons.inj begins
        have short := spelled.start relative _ whole
        simp at short

end

end TagTemplate.Path
