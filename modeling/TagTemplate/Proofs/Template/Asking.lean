import TagTemplate.Proofs.Text
import TagTemplate.Template.Tag

/-! What a tag asks for, read off its text. -/

namespace TagTemplate.Tag

/-- What content says between white space, the markers for it and white space inside of them. -/
def Means (content body : List Char) : Prop :=
  ∃ outer inner, Text.Trimmed Unicode.isBlank content outer ∧
    Text.Trimmed (· == '~') outer inner ∧ Text.Trimmed Unicode.isBlank inner body

/-- The keyword and the arguments behind the sign of a section: the first word, which may have the
marks of partials and decorators in front of it, and what comes after it. -/
inductive Introduces : (rest keyword arguments : List Char) → Prop
  | mk {marks text keyword behind arguments} (marked : ∀ c ∈ marks, c = '>' ∨ c = '*')
      (unmarked : ∀ c ∈ text.head?, c ≠ '>' ∧ c ≠ '*')
      (words : Text.Trimmed Unicode.isBlank text (keyword ++ behind))
      (word : ∀ c ∈ keyword, Unicode.isBlank c = false)
      (ended : ∀ c ∈ behind.head?, Unicode.isBlank c = true)
      (operands : Text.Trimmed Unicode.isBlank behind arguments) :
      Introduces (marks ++ text) keyword arguments

/-- What content in double or triple braces asks for. The first character decides; a `^` with
nothing behind it is an expression. -/
inductive AsksIn : (raw : Bool) → (content : List Char) → TagKind → Prop
  | raw {content body} (means : Text.Trimmed Unicode.isBlank content body) :
      AsksIn true content (.output body)
  | comment {content rest} (means : Means content ('!' :: rest)) : AsksIn false content .comment
  | start {content rest keyword arguments} (means : Means content ('#' :: rest))
      (introduces : Introduces rest keyword arguments) :
      AsksIn false content (.sectionStart keyword arguments)
  | inverse {content rest keyword arguments} (means : Means content ('^' :: rest)) (some : rest ≠ [])
      (introduces : Introduces rest keyword arguments) :
      AsksIn false content (.sectionStart keyword arguments)
  | ending {content rest keyword} (means : Means content ('/' :: rest))
      (names : Text.Trimmed Unicode.isBlank rest keyword) :
      AsksIn false content (.sectionEnd keyword)
  | inclusion {content rest name} (means : Means content ('>' :: rest))
      (names : Text.Trimmed Unicode.isBlank rest name) : AsksIn false content (.inclusion name)
  | caret {content} (means : Means content ['^']) : AsksIn false content (.output ['^'])
  | output {content body} (means : Means content body)
      (plain : ∀ c ∈ body.head?, c ∉ ['!', '#', '^', '/', '>']) :
      AsksIn false content (.output body)

def Asks (tag : Tag) (kind : TagKind) : Prop := AsksIn tag.raw tag.content kind

/-- Each two backslashes in front of a tag stand for one; another one escapes the tag. -/
def Unescaped (tag : Tag) : Prop := 2 ∣ tag.backslashes

section
variable {content body rest keyword arguments : List Char}

theorem means_iff : Means content body ↔ meaning content = body := by
  simp only [Means, Text.trimmed_iff]
  constructor
  · rintro ⟨outer, inner, rfl, rfl, same⟩
    exact same
  · intro same
    exact ⟨_, _, rfl, rfl, same⟩

theorem Means.trim_ne_nil {c : Char} (means : Means content (c :: rest)) :
    Text.trim rest ≠ [] ↔ rest ≠ [] := by
  obtain ⟨outer, inner, -, -, trimmed⟩ := means
  constructor
  · rintro more rfl
    exact more rfl
  · intro more blank
    obtain ⟨front, back, whole, before, after⟩ := Text.exists_trim rest
    rw [blank, List.append_nil] at whole
    obtain ⟨last, found⟩ : ∃ last, rest.getLast? = some last :=
      ⟨_, List.getLast?_eq_some_getLast more⟩
    have solid := trimmed.last last (by simp [List.getLast?_cons, found])
    have member := List.mem_of_getLast? found
    rw [whole, List.mem_append] at member
    rcases member with early | late
    · simp [before last early] at solid
    · simp [after last late] at solid

theorem Introduces.sectionParts_eq (introduces : Introduces rest keyword arguments) :
    sectionParts rest = (keyword, arguments) := by
  obtain ⟨marked, unmarked, words, word, ended, operands⟩ := introduces
  rename_i marks text behind
  have passed : (marks ++ text).dropWhile (fun c => c == '>' || c == '*') = text := by
    apply Text.dropWhile_passed
    · simpa using marked
    · simpa using unmarked
  have trimmed : Text.trim text = keyword ++ behind := Text.trimmed_iff.mp words
  have arguments_eq : Text.trim behind = arguments := Text.trimmed_iff.mp operands
  simp only [sectionParts, passed, trimmed]
  cases behind with
  | nil =>
      rw [List.append_nil, Text.splitFirst?_eq_none word, ← arguments_eq]
      rfl
  | cons blank others =>
      have here := ended blank rfl
      rw [Text.splitFirst?_append word here, ← arguments_eq, Text.trim_cons here]

theorem exists_introduces (rest : List Char) :
    Introduces rest (sectionParts rest).1 (sectionParts rest).2 := by
  let isMark : Char → Bool := fun c => c == '>' || c == '*'
  have marked : ∀ c ∈ rest.takeWhile isMark, c = '>' ∨ c = '*' := by
    intro c member
    simpa [isMark] using List.all_eq_true.mp List.all_takeWhile c member
  have unmarked : ∀ c ∈ (rest.dropWhile isMark).head?, c ≠ '>' ∧ c ≠ '*' := by
    intro c first
    have solid := List.head?_dropWhile_not isMark rest
    rw [Option.mem_def.mp first] at solid
    simpa [isMark] using solid
  have introduces : ∀ {keyword behind}, Text.trim (rest.dropWhile isMark) = keyword ++ behind →
      (∀ c ∈ keyword, Unicode.isBlank c = false) → (∀ c ∈ behind.head?, Unicode.isBlank c = true) →
      Introduces rest keyword (Text.trim behind) := by
    intro keyword behind shape word ended
    have parts := Introduces.mk marked unmarked (Text.trimmed_iff.mpr shape) word ended
      (Text.exists_trimmed _ behind)
    rwa [List.takeWhile_append_dropWhile] at parts
  unfold sectionParts
  simp only
  split
  · next keyword behind found =>
      obtain ⟨c, here, shape, word⟩ := Text.splitFirst?_eq_some found
      rw [← Text.trim_cons here]
      exact introduces shape word (by simpa using here)
  · next unsplit =>
      exact introduces (List.append_nil _).symm (Text.separates_of_splitFirst?_eq_none unsplit)
        (by simp)

theorem AsksIn.kindOf_eq {raw : Bool} {kind : TagKind} (asks : AsksIn raw content kind) :
    kindOf raw content = kind := by
  cases asks with
  | raw means => rw [kindOf, if_pos rfl, Text.trim, Text.trimmed_iff.mp means]
  | comment means => simp [kindOf, means_iff.mp means, kindOfMeaning]
  | start means introduces =>
      simp [kindOf, means_iff.mp means, kindOfMeaning, introduces.sectionParts_eq]
  | inverse means some introduces =>
      simp [kindOf, means_iff.mp means, kindOfMeaning, introduces.sectionParts_eq,
        means.trim_ne_nil.mpr some]
  | ending means names =>
      have keyword := Text.trimmed_iff.mp names
      simp [kindOf, means_iff.mp means, kindOfMeaning, Text.trim, keyword]
  | inclusion means names =>
      have name := Text.trimmed_iff.mp names
      simp [kindOf, means_iff.mp means, kindOfMeaning, Text.trim, name]
  | caret means => simp [kindOf, means_iff.mp means, kindOfMeaning, Text.trim, Text.dropEndWhile]
  | @output _ body means plain =>
      rw [kindOf, if_neg Bool.false_ne_true, means_iff.mp means]
      cases body with
      | nil => rfl
      | cons c rest =>
          obtain ⟨comment, start, inverse, ending, inclusion⟩ : c ≠ '!' ∧ c ≠ '#' ∧ c ≠ '^' ∧
              c ≠ '/' ∧ c ≠ '>' := by simpa using plain
          simp [kindOfMeaning, comment, start, inverse, ending, inclusion]

theorem Means.asksIn (means : Means content body) : AsksIn false content (kindOfMeaning body) := by
  unfold kindOfMeaning
  split
  · exact .output means (by simp)
  next c rest =>
  split
  · next comment => exact .comment (comment ▸ means)
  split
  · next opening =>
      rcases opening with rfl | ⟨rfl, more⟩
      · exact .start means (exists_introduces rest)
      · exact .inverse means (means.trim_ne_nil.mp more) (exists_introduces rest)
  next unopened =>
  split
  · next ending => exact .ending (ending ▸ means) (Text.exists_trimmed _ rest)
  split
  · next inclusion => exact .inclusion (inclusion ▸ means) (Text.exists_trimmed _ rest)
  · obtain ⟨start, alone⟩ := not_or.mp unopened
    by_cases caret : c = '^'
    · subst caret
      obtain rfl : rest = [] := by simpa [means.trim_ne_nil] using alone
      exact .caret means
    · exact .output means (by simp [*])

/-- The kind of a tag is what its text asks for. -/
theorem kind_eq_iff {tag : Tag} {kind : TagKind} : tag.kind = kind ↔ tag.Asks kind := by
  constructor
  · rintro rfl
    unfold Asks Tag.kind kindOf
    cases tag.raw with
    | true => exact .raw (Text.exists_trimmed _ _)
    | false => exact (means_iff.mpr rfl).asksIn
  · exact AsksIn.kindOf_eq

example : (⟨[], 0, 0, 1, false, "~ #> list x ~".toList⟩ : Tag).kind =
    .sectionStart "list".toList "x".toList := by decide +kernel

theorem isEscaped_eq_false_iff {tag : Tag} : tag.isEscaped = false ↔ tag.Unescaped := by
  rw [isEscaped, beq_eq_false_iff_ne, Unescaped]
  omega

end

end TagTemplate.Tag
