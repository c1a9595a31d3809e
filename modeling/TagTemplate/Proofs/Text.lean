import TagTemplate.Text.Pieces

/-! Splitting and trimming texts of which the ends or the separators are known, and their bytes. -/

namespace TagTemplate.Text

theorem beq_eq_false_of_notMem {text : List Char} {separator : Char} (absent : separator ∉ text) :
    ∀ c ∈ text, (c == separator) = false := by
  intro c member
  rw [beq_eq_false_iff_ne]
  rintro rfl
  exact absent member

section
variable {separates : Char → Bool} {front : List Char}

theorem splitFirst?_eq_none (without : ∀ c ∈ front, separates c = false) :
    splitFirst? separates front = none := by
  induction front with
  | nil => rfl
  | cons c rest ih =>
      have later := ih fun other member => without other (List.mem_cons_of_mem _ member)
      simp [splitFirst?, without c (by simp), later]

theorem splitFirst?_append {c : Char} {rest : List Char}
    (without : ∀ c ∈ front, separates c = false) (here : separates c = true) :
    splitFirst? separates (front ++ c :: rest) = some (front, rest) := by
  induction front with
  | nil => simp [splitFirst?, here]
  | cons other others ih =>
      have later := ih fun letter member => without letter (List.mem_cons_of_mem _ member)
      simp [splitFirst?, without other (by simp), later]

theorem splitFirst?_eq_some {text behind : List Char}
    (split : splitFirst? separates text = some (front, behind)) :
    ∃ c, separates c = true ∧ text = front ++ c :: behind ∧ ∀ c ∈ front, separates c = false := by
  induction text generalizing front with
  | nil => simp [splitFirst?] at split
  | cons c rest ih =>
      rw [splitFirst?] at split
      split at split
      · next here =>
          obtain ⟨rfl, rfl⟩ : [] = front ∧ rest = behind := by simpa using split
          exact ⟨c, here, rfl, List.forall_mem_nil _⟩
      · next other =>
          obtain ⟨⟨first, last⟩, later, same⟩ := Option.map_eq_some_iff.mp split
          obtain ⟨rfl, rfl⟩ : c :: first = front ∧ last = behind := by simpa using same
          obtain ⟨separator, here, rfl, without⟩ := ih later
          exact ⟨separator, here, rfl, List.forall_mem_cons.mpr ⟨by simpa using other, without⟩⟩

theorem separates_of_splitFirst?_eq_none {text : List Char}
    (unsplit : splitFirst? separates text = none) : ∀ c ∈ text, separates c = false := by
  induction text with
  | nil => exact List.forall_mem_nil _
  | cons c rest ih =>
      rw [splitFirst?] at unsplit
      split at unsplit
      · simp at unsplit
      · next other =>
          exact List.forall_mem_cons.mpr
            ⟨by simpa using other, ih (Option.map_eq_none_iff.mp unsplit)⟩

theorem pieces_append {c : Char} {rest : List Char}
    (without : ∀ c ∈ front, separates c = false) (here : separates c = true) :
    pieces separates (front ++ c :: rest) = front :: pieces separates rest := by
  induction front with
  | nil => simp [pieces, here]
  | cons other others ih =>
      have later := ih fun letter member => without letter (List.mem_cons_of_mem _ member)
      simp [pieces, without other (by simp), later]

theorem pieces_eq_singleton (without : ∀ c ∈ front, separates c = false) :
    pieces separates front = [front] := by
  induction front with
  | nil => rfl
  | cons c rest ih =>
      have later := ih fun other member => without other (List.mem_cons_of_mem _ member)
      simp [pieces, without c (by simp), later]

end

theorem separates_of_mem_pieces {separates : Char → Bool} {text piece : List Char}
    (member : piece ∈ pieces separates text) : ∀ c ∈ piece, separates c = false := by
  induction text generalizing piece with
  | nil =>
      obtain rfl : piece = [] := by simpa [pieces] using member
      simp
  | cons c rest ih =>
      rw [pieces] at member
      split at member
      · rcases List.mem_cons.mp member with rfl | later
        · simp
        · exact ih later
      · next other =>
          obtain ⟨first, others, shape⟩ :=
            List.exists_cons_of_ne_nil (pieces_ne_nil separates rest)
          rw [shape, List.modifyHead_cons] at member
          rcases List.mem_cons.mp member with rfl | later
          · have solid := ih (shape ▸ List.mem_cons_self)
            simpa [other] using solid
          · exact ih (shape ▸ List.mem_cons_of_mem _ later)

theorem flatten_pieces (separates : Char → Bool) (text : List Char) :
    (pieces separates text).flatten = text.filter fun c => !separates c := by
  induction text with
  | nil => rfl
  | cons c rest ih =>
      rw [pieces]
      split
      · next here =>
          rw [List.flatten_cons, List.nil_append, ih, List.filter_cons_of_neg (by simp [here])]
      · next other =>
          obtain ⟨first, others, shape⟩ :=
            List.exists_cons_of_ne_nil (pieces_ne_nil separates rest)
          rw [shape, List.flatten_cons] at ih
          rw [shape, List.modifyHead_cons, List.flatten_cons, List.cons_append, ih,
            List.filter_cons_of_pos (by simp [other])]

theorem pieces_intercalate {separates : Char → Bool} {separator : Char}
    (here : separates separator = true) {parts : List (List Char)} (some : parts ≠ [])
    (without : ∀ part ∈ parts, ∀ c ∈ part, separates c = false) :
    pieces separates (List.intercalate [separator] parts) = parts := by
  induction parts with
  | nil => exact absurd rfl some
  | cons first rest ih =>
      have firstWithout := without first (by simp)
      by_cases more : rest = []
      · rw [more, List.intercalate_singleton, pieces_eq_singleton firstWithout]
      · obtain ⟨second, others, rfl⟩ := List.exists_cons_of_ne_nil more
        rw [List.intercalate_cons_cons, List.append_assoc, List.singleton_append,
          pieces_append firstWithout here,
          ih more fun part member => without part (List.mem_cons_of_mem _ member)]

theorem lines_append {line : List Char} (unbroken : '\n' ∉ line) (rest : List Char) :
    lines (line ++ '\n' :: rest) = line :: lines rest :=
  pieces_append (beq_eq_false_of_notMem unbroken) rfl

theorem stripStart?_append (beginning rest : List Char) :
    stripStart? beginning (beginning ++ rest) = some rest :=
  (stripStart?_eq_some_iff _ _ _).mpr rfl

theorem isAtMost_total (first second : List Char) :
    (isAtMost first second || isAtMost second first) = true := by
  induction first generalizing second with
  | nil => simp [isAtMost]
  | cons a first ih =>
      cases second with
      | nil => simp [isAtMost]
      | cons b second =>
          simp only [isAtMost]
          by_cases same : a = b
          · simpa [same] using ih second
          · have apart : a.toNat ≠ b.toNat := fun equal => same (Char.toNat_inj.mp equal)
            simp only [same, Ne.symm same, ↓reduceIte, Bool.or_eq_true, decide_eq_true_eq]
            omega

theorem isAtMost_trans {first second third : List Char} (early : isAtMost first second = true)
    (late : isAtMost second third = true) : isAtMost first third = true := by
  induction first generalizing second third with
  | nil => rfl
  | cons a first ih =>
      cases second with
      | nil => simp [isAtMost] at early
      | cons b second =>
          cases third with
          | nil => simp [isAtMost] at late
          | cons c third =>
              simp only [isAtMost] at early late ⊢
              by_cases same : a = b
              · subst same
                by_cases sameToo : a = c
                · simp only [sameToo, ↓reduceIte] at early late ⊢
                  exact ih early late
                · simpa only [if_neg sameToo] using late
              · rw [if_neg same, decide_eq_true_eq] at early
                by_cases sameToo : b = c
                · subst sameToo
                  simpa only [if_neg same, decide_eq_true_eq] using early
                · rw [if_neg sameToo, decide_eq_true_eq] at late
                  have apart : a ≠ c := by
                    rintro rfl
                    omega
                  rw [if_neg apart, decide_eq_true_eq]
                  omega

theorem isAtMost_antisymm {first second : List Char} (early : isAtMost first second = true)
    (late : isAtMost second first = true) : first = second := by
  induction first generalizing second with
  | nil =>
      cases second with
      | nil => rfl
      | cons b second => simp [isAtMost] at late
  | cons a first ih =>
      cases second with
      | nil => simp [isAtMost] at early
      | cons b second =>
          simp only [isAtMost] at early late
          by_cases same : a = b
          · subst same
            simp only [↓reduceIte] at early late
            rw [ih early late]
          · rw [if_neg same, decide_eq_true_eq] at early
            rw [if_neg (Ne.symm same), decide_eq_true_eq] at late
            omega

theorem dropWhile_passed {p : Char → Bool} {front rest : List Char}
    (passed : ∀ c ∈ front, p c = true) (stops : ∀ c ∈ rest.head?, p c = false) :
    (front ++ rest).dropWhile p = rest := by
  rw [List.dropWhile_append_of_pos passed]
  cases rest with
  | nil => rfl
  | cons c others => simp [stops c rfl]

theorem dropWhile_eq_nil {p : Char → Bool} {text : List Char} (passed : ∀ c ∈ text, p c = true) :
    text.dropWhile p = [] := by
  have all : (text ++ []).dropWhile p = [] := dropWhile_passed passed (by simp)
  rwa [List.append_nil] at all

theorem dropWhile_append_stopped {p : Char → Bool} {behind : List Char}
    (stops : ∀ c ∈ behind.head?, p c = false) (text : List Char) :
    (text ++ behind).dropWhile p = text.dropWhile p ++ behind := by
  rw [List.dropWhile_append]
  split
  · next passed =>
      have none : behind.dropWhile p = behind := dropWhile_passed (List.forall_mem_nil _) stops
      rw [List.isEmpty_iff.mp passed, none, List.nil_append]
  · rfl

theorem dropEndWhile_append_stopped {p : Char → Bool} {ahead : List Char}
    (stops : ∀ c ∈ ahead.getLast?, p c = false) (text : List Char) :
    dropEndWhile p (ahead ++ text) = ahead ++ dropEndWhile p text := by
  rw [← List.head?_reverse] at stops
  rw [dropEndWhile, List.reverse_append, dropWhile_append_stopped stops, List.reverse_append,
    List.reverse_reverse, dropEndWhile]

theorem dropEndWhile_append {p : Char → Bool} {back : List Char} (after : ∀ c ∈ back, p c = true)
    (text : List Char) : dropEndWhile p (text ++ back) = dropEndWhile p text := by
  rw [dropEndWhile, List.reverse_append, List.dropWhile_append_of_pos (by simpa using after),
    dropEndWhile]

theorem exists_dropEndWhile (p : Char → Bool) (text : List Char) :
    ∃ back, text = dropEndWhile p text ++ back ∧ ∀ c ∈ back, p c = true := by
  refine ⟨(text.reverse.takeWhile p).reverse, ?_, fun c member => ?_⟩
  · rw [dropEndWhile, ← List.reverse_append, List.takeWhile_append_dropWhile, List.reverse_reverse]
  · exact List.all_eq_true.mp List.all_takeWhile c (List.mem_reverse.mp member)

/-- What is left of a text without the characters of a class at its ends. -/
structure Trimmed (p : Char → Bool) (text body : List Char) : Prop where
  around : ∃ front back, text = front ++ body ++ back ∧
    (∀ c ∈ front, p c = true) ∧ ∀ c ∈ back, p c = true
  head : ∀ c ∈ body.head?, p c = false
  last : ∀ c ∈ body.getLast?, p c = false

theorem exists_trimmed (p : Char → Bool) (text : List Char) :
    Trimmed p text (dropEndWhile p (text.dropWhile p)) := by
  obtain ⟨back, whole, after⟩ := exists_dropEndWhile p (text.dropWhile p)
  refine ⟨⟨text.takeWhile p, back, ?_, List.all_eq_true.mp List.all_takeWhile, after⟩, ?_, ?_⟩
  · rw [List.append_assoc, ← whole, List.takeWhile_append_dropWhile]
  · intro c first
    have solid := List.head?_dropWhile_not p text
    rw [whole, List.head?_append, Option.mem_def.mp first] at solid
    simpa using solid
  · intro c last
    have solid := List.head?_dropWhile_not p (text.dropWhile p).reverse
    rw [dropEndWhile, List.getLast?_reverse, Option.mem_def] at last
    rw [last] at solid
    simpa using solid

theorem trimmed_iff {p : Char → Bool} {text body : List Char} :
    Trimmed p text body ↔ dropEndWhile p (text.dropWhile p) = body := by
  constructor
  · rintro ⟨⟨front, back, rfl, before, after⟩, head, last⟩
    rw [List.append_assoc, List.dropWhile_append_of_pos before]
    cases body with
    | nil =>
        rw [List.nil_append, dropWhile_eq_nil after]
        rfl
    | cons c rest =>
        have started : (c :: rest ++ back).dropWhile p = c :: rest ++ back :=
          dropWhile_passed (List.forall_mem_nil _) (by simpa using head)
        have ended := dropEndWhile_append_stopped last []
        rw [List.append_nil] at ended
        rw [started, dropEndWhile_append after, ended]
        exact List.append_nil _
  · rintro rfl
    exact exists_trimmed p text

theorem trim_eq_self {text : List Char} (head : ∀ c ∈ text.head?, Unicode.isBlank c = false)
    (last : ∀ c ∈ text.getLast?, Unicode.isBlank c = false) : trim text = text :=
  trimmed_iff.mp ⟨⟨[], [], by simp⟩, head, last⟩

theorem dropEndWhile_dropWhile_surrounded {p : Char → Bool} {front body back : List Char}
    (before : ∀ c ∈ front, p c = true) (after : ∀ c ∈ back, p c = true)
    (solid : ∀ c ∈ body, p c = false) :
    dropEndWhile p ((front ++ body ++ back).dropWhile p) = body :=
  trimmed_iff.mp ⟨⟨front, back, rfl, before, after⟩,
    fun c first => solid c (List.mem_of_mem_head? first),
    fun c last => solid c (List.mem_of_mem_getLast? last)⟩

theorem trim_surrounded {front body back : List Char}
    (before : ∀ c ∈ front, Unicode.isBlank c = true)
    (after : ∀ c ∈ back, Unicode.isBlank c = true)
    (solid : ∀ c ∈ body, Unicode.isBlank c = false) : trim (front ++ body ++ back) = body :=
  dropEndWhile_dropWhile_surrounded before after solid

theorem trim_dropWhile (text : List Char) : trim (text.dropWhile Unicode.isBlank) = trim text := by
  have again : (text.dropWhile Unicode.isBlank).dropWhile Unicode.isBlank =
      text.dropWhile Unicode.isBlank :=
    dropWhile_passed (List.forall_mem_nil _) fun c first => by
      have solid := List.head?_dropWhile_not Unicode.isBlank text
      rw [first] at solid
      simpa using solid
  rw [trim, again, trim]

theorem trim_cons {c : Char} (blank : Unicode.isBlank c = true) (text : List Char) :
    trim (c :: text) = trim text := by
  rw [trim, List.dropWhile_cons_of_pos blank, trim]

theorem trim_append {back : List Char} (after : ∀ c ∈ back, Unicode.isBlank c = true)
    (text : List Char) : trim (text ++ back) = trim text := by
  rw [trim, List.dropWhile_append, trim]
  split
  · next blank => rw [List.isEmpty_iff.mp blank, dropWhile_eq_nil after]
  · exact dropEndWhile_append after _

theorem trim_dropEndWhile (text : List Char) :
    trim (dropEndWhile Unicode.isBlank text) = trim text := by
  obtain ⟨back, whole, blank⟩ := exists_dropEndWhile Unicode.isBlank text
  have same := trim_append blank (dropEndWhile Unicode.isBlank text)
  rwa [← whole, eq_comm] at same

theorem exists_trim (text : List Char) : ∃ front back, text = front ++ trim text ++ back ∧
    (∀ c ∈ front, Unicode.isBlank c = true) ∧ ∀ c ∈ back, Unicode.isBlank c = true :=
  (exists_trimmed Unicode.isBlank text).around

theorem eq_nil_of_byteLength {text : List Char} (empty : byteLength text = 0) :
    text = [] := by
  cases text with
  | nil => rfl
  | cons c rest =>
      have positive := c.utf8Size_pos
      simp only [byteLength] at empty
      omega

theorem front_unique {front other rest behind : List Char}
    (same : byteLength front = byteLength other) (whole : front ++ rest = other ++ behind) :
    front = other := by
  rcases List.append_eq_append_iff.mp whole with ⟨more, rfl, -⟩ | ⟨more, rfl, -⟩
  · rw [byteLength_append] at same
    have nothing : more = [] := eq_nil_of_byteLength (by omega)
    rw [nothing, List.append_nil]
  · rw [byteLength_append] at same
    have nothing : more = [] := eq_nil_of_byteLength (by omega)
    rw [nothing, List.append_nil]

theorem fromUTF8?_eq_some_iff {content : ByteArray} {text : String} :
    String.fromUTF8? content = some text ↔ content = text.toUTF8 := by
  unfold String.fromUTF8?
  constructor
  · intro decoded
    split at decoded
    · cases decoded
      rfl
    · simp at decoded
  · rintro rfl
    rw [String.toUTF8_eq_toByteArray, dif_pos text.isValidUTF8]
    rfl

theorem utf8ByteSize_ofList (text : List Char) :
    (String.ofList text).utf8ByteSize = byteLength text := by
  induction text with
  | nil => rfl
  | cons c rest ih =>
      rw [String.ofList_cons, String.utf8ByteSize_append, String.utf8ByteSize_singleton, ih,
        byteLength]

end TagTemplate.Text
