import Mathlib.Data.List.Basic
import TagTemplate.Proofs.Template.Operands
import TagTemplate.Proofs.Text
import TagTemplate.Template.Render

/-! The words that are read as paths: those of the grammar, and some with marks too many. -/

namespace TagTemplate.Expression

inductive Segmented : List Char → List String → Prop
  | last {segment} (named : segment ≠ []) (unmarked : ∀ c ∈ segment, isPathMark c = false) :
      Segmented segment [String.ofList segment]
  | more {segment mark rest names} (named : segment ≠ [])
      (unmarked : ∀ c ∈ segment, isPathMark c = false) (marked : isPathMark mark = true)
      (behind : Segmented rest names) :
      Segmented (segment ++ mark :: rest) (String.ofList segment :: names)

def leads : List (List Char) := ["this.".toList, "this/".toList, "./".toList]

inductive IsPath : List Char → List String → Prop
  | this : IsPath "this".toList []
  | dot : IsPath ['.'] []
  | below {lead rest names} (known : lead ∈ leads) (segmented : Segmented rest names) :
      IsPath (lead ++ rest) names
  | plain {word names} (segmented : Segmented word names) (other : names.head? ≠ some "this") :
      IsPath word names

def Begins (start : List Char) : Prop := start = [] ∨ start = "this".toList

def Marks (marks : List Char) : Prop := ∀ c ∈ marks, isPathMark c = true

/-- Words with marks in front, or behind `this`, where the grammar has none or others, and the word
without any character. -/
inductive Loose : List Char → List String → Prop
  | self {start marks} (begins : Begins start) (all : Marks marks)
      (other : start ++ marks ∉ ["this".toList, ['.']]) : Loose (start ++ marks) []
  | below {start marks rest names} (begins : Begins start) (all : Marks marks)
      (some : marks ≠ []) (other : start ++ marks ∉ leads) (segmented : Segmented rest names) :
      Loose (start ++ marks ++ rest) names

def Climbs (word : List Char) : Prop := word = ['.', '.'] ∨ ['.', '.', '/'] <+: word

def Unmarked (text : List Char) : Prop := ∀ c ∈ text.head?, isPathMark c = false

def Apart (behind : List Char) : Prop := ∀ c ∈ behind.head?, isPathMark c = true

theorem takeWhile_unmarked {segment behind : List Char}
    (unmarked : ∀ c ∈ segment, isPathMark c = false) (apart : Apart behind) :
    (segment ++ behind).takeWhile (fun c => !isPathMark c) = segment := by
  rw [List.takeWhile_append_of_pos (by simpa using unmarked)]
  cases behind with
  | nil => simp
  | cons c rest => simp [apart c rfl]

namespace Segmented

variable {text : List Char} {names : List String}

theorem exists_segment (segmented : Segmented text names) :
    ∃ segment behind others, text = segment ++ behind ∧ names = String.ofList segment :: others ∧
      segment ≠ [] ∧ (∀ c ∈ segment, isPathMark c = false) ∧ Apart behind := by
  cases segmented with
  | last named unmarked => exact ⟨_, [], _, by simp, rfl, named, unmarked, by simp [Apart]⟩
  | more named unmarked marked _ =>
      exact ⟨_, _, _, rfl, rfl, named, unmarked, by simpa [Apart] using marked⟩

theorem ne_nil (segmented : Segmented text names) : text ≠ [] := by
  obtain ⟨segment, behind, others, rfl, -, named, -⟩ := segmented.exists_segment
  simp [named]

theorem unmarked (segmented : Segmented text names) : Unmarked text := by
  obtain ⟨segment, behind, others, rfl, -, named, unmarked, -⟩ := segmented.exists_segment
  obtain ⟨c, letters, rfl⟩ := List.exists_cons_of_ne_nil named
  simpa [Unmarked] using unmarked c List.mem_cons_self

theorem head?_eq_this_iff (segmented : Segmented text names) :
    names.head? = some "this" ↔ ∃ behind, text = "this".toList ++ behind ∧ Apart behind := by
  obtain ⟨segment, behind, others, rfl, rfl, named, unmarked, apart⟩ := segmented.exists_segment
  rw [List.head?_cons, Option.some.injEq]
  constructor
  · intro same
    refine ⟨behind, ?_, apart⟩
    rw [← same, String.toList_ofList]
  · rintro ⟨other, shape, apartToo⟩
    have first := takeWhile_unmarked unmarked apart
    rw [shape, takeWhile_unmarked (by simp [isPathMark]) apartToo] at first
    rw [← first, String.ofList_toList]

theorem pieces_eq (segmented : Segmented text names) :
    (Text.pieces isPathMark text).map String.ofList = names ∧
      [] ∉ Text.pieces isPathMark text := by
  induction segmented with
  | last named unmarked =>
      rw [Text.pieces_eq_singleton unmarked]
      exact ⟨rfl, by simpa using Ne.symm named⟩
  | more named unmarked marked _ ih =>
      rw [Text.pieces_append unmarked marked]
      refine ⟨by rw [List.map_cons, ih.1], ?_⟩
      rw [List.mem_cons]
      rintro (same | later)
      · exact named same.symm
      · exact ih.2 later

theorem of_pieces {text : List Char} (full : [] ∉ Text.pieces isPathMark text) :
    Segmented text ((Text.pieces isPathMark text).map String.ofList) := by
  -- the pieces of what stands behind the first mark are fewer
  generalize counted : text.length = length
  induction length using Nat.strongRecOn generalizing text with
  | ind length ih =>
      cases found : text.find? isPathMark with
      | none =>
          have unmarked : ∀ c ∈ text, isPathMark c = false := by simpa using found
          rw [Text.pieces_eq_singleton unmarked] at full ⊢
          exact .last (fun empty => full (by simp [empty])) unmarked
      | some mark =>
          obtain ⟨marked, segment, rest, rfl, before⟩ :=
            List.find?_eq_some_iff_append.mp found
          have unmarked : ∀ c ∈ segment, isPathMark c = false := by simpa using before
          rw [Text.pieces_append unmarked marked] at full ⊢
          obtain ⟨named, later⟩ := not_or.mp (fun some => full (List.mem_cons.mpr some))
          have shorter : rest.length < length := by
            simp only [List.length_append, List.length_cons] at counted
            omega
          exact .more (Ne.symm named) unmarked marked (ih _ shorter later rfl)

end Segmented

structure Divided (word start marks rest : List Char) : Prop where
  whole : word = start ++ marks ++ rest
  begins : Begins start
  all : Marks marks
  unmarked : Unmarked rest
  own : marks = [] → rest ≠ [] →
    start = [] ∧ ¬ ∃ behind, rest = "this".toList ++ behind ∧ Apart behind

theorem apart_iff (behind : List Char) :
    (behind.isEmpty || behind.head?.any isPathMark) = true ↔ Apart behind := by
  cases behind <;> simp [Apart]

theorem relativePart_this {behind : List Char} (apart : Apart behind) :
    relativePart ("this".toList ++ behind) = behind.dropWhile isPathMark := by
  rw [relativePart, Text.stripStart?_append]
  simp only
  rw [if_pos ((apart_iff behind).mpr apart)]

theorem relativePart_other {word : List Char}
    (other : ¬ ∃ behind, word = "this".toList ++ behind ∧ Apart behind) :
    relativePart word = word.dropWhile isPathMark := by
  unfold relativePart
  split
  · next behind stripped =>
      have shape := (Text.stripStart?_eq_some_iff _ _ _).mp stripped
      rw [if_neg fun apart => other ⟨behind, shape, (apart_iff behind).mp apart⟩]
  · rfl

namespace Divided

variable {word start marks rest : List Char}

theorem relativePart_eq (divided : Divided word start marks rest) : relativePart word = rest := by
  obtain ⟨rfl, begins, all, other, own⟩ := divided
  have passed := Text.dropWhile_passed all other
  rcases begins with rfl | rfl
  · rw [List.nil_append, relativePart_other, passed]
    rintro ⟨behind, shape, apart⟩
    cases marks with
    | nil =>
        by_cases empty : rest = []
        · simp [empty] at shape
        · exact (own rfl empty).2 ⟨behind, shape, apart⟩
    | cons mark others =>
        have first : mark = 't' := by simpa using congrArg List.head? shape
        rw [first] at all
        exact absurd (all 't' List.mem_cons_self) (by decide)
  · rw [List.append_assoc, relativePart_this, passed]
    cases marks with
    | nil =>
        by_cases empty : rest = []
        · simp [Apart, empty]
        · exact absurd (own rfl empty).1 (by decide)
    | cons mark others => simpa [Apart] using all mark List.mem_cons_self

end Divided

theorem exists_marks (text : List Char) :
    ∃ marks rest, text = marks ++ rest ∧ Marks marks ∧ Unmarked rest := by
  induction text with
  | nil => exact ⟨[], [], rfl, by simp [Marks], by simp [Unmarked]⟩
  | cons c letters ih =>
      obtain ⟨marks, rest, rfl, all, other⟩ := ih
      by_cases mark : isPathMark c = true
      · refine ⟨c :: marks, rest, rfl, ?_, other⟩
        simpa [Marks, mark] using all
      · exact ⟨[], c :: (marks ++ rest), rfl, by simp [Marks], by simpa [Unmarked] using mark⟩

theorem exists_divided (word : List Char) :
    ∃ start marks, Divided word start marks (relativePart word) := by
  by_cases own : ∃ behind, word = "this".toList ++ behind ∧ Apart behind
  · obtain ⟨behind, rfl, apart⟩ := own
    obtain ⟨marks, rest, rfl, all, other⟩ := exists_marks behind
    have divided : Divided ("this".toList ++ (marks ++ rest)) "this".toList marks rest := by
      refine ⟨by simp, .inr rfl, all, other, ?_⟩
      rintro rfl some
      obtain ⟨c, others, rfl⟩ := List.exists_cons_of_ne_nil some
      have marked := apart c rfl
      rw [other c rfl] at marked
      cases marked
    rw [divided.relativePart_eq]
    exact ⟨_, _, divided⟩
  · obtain ⟨marks, rest, rfl, all, other⟩ := exists_marks word
    have divided : Divided (marks ++ rest) [] marks rest := by
      refine ⟨rfl, .inl rfl, all, other, ?_⟩
      rintro rfl -
      exact ⟨rfl, own⟩
    rw [divided.relativePart_eq]
    exact ⟨_, _, divided⟩

theorem climbs_iff (word : List Char) :
    (word = ['.', '.'] ∨ (Text.stripStart? ['.', '.', '/'] word).isSome = true) ↔ Climbs word := by
  rw [Climbs, Option.isSome_iff_exists]
  simp only [Text.stripStart?_eq_some_iff]
  constructor
  · rintro (same | ⟨rest, shape⟩)
    · exact .inl same
    · exact .inr ⟨rest, shape.symm⟩
  · rintro (same | ⟨rest, shape⟩)
    · exact .inl same
    · exact .inr ⟨rest, shape.symm⟩

inductive ReadAs (word : List Char) : Except SyntaxFault (List String) → Prop
  | climbing (climbs : Climbs word) : ReadAs word (.error (.parentScope (String.ofList word)))
  | self (level : ¬ Climbs word) (empty : relativePart word = []) : ReadAs word (.ok [])
  | below {names} (level : ¬ Climbs word) (segmented : Segmented (relativePart word) names) :
      ReadAs word (.ok names)
  | broken (level : ¬ Climbs word) (some : relativePart word ≠ [])
      (unsegmented : ∀ names, ¬ Segmented (relativePart word) names) :
      ReadAs word (.error (.invalidPath (String.ofList word)))

theorem path?_readAs (word : List Char) : ReadAs word (path? word) := by
  unfold path?
  split
  · next outer => exact .climbing ((climbs_iff word).mp outer)
  next inner =>
  have level := mt (climbs_iff word).mpr inner
  split
  · next empty => exact .self level empty
  next some =>
  have begun : relativePart word ≠ [] := fun empty => some empty
  simp only
  split
  · next broken =>
      refine .broken level begun fun names segmented => ?_
      exact segmented.pieces_eq.2 (by simpa using broken)
  · next full => exact .below level (.of_pieces (by simpa using full))

section
variable {word : List Char} {names : List String}

theorem Segmented.unique {text : List Char} {others : List String}
    (segmented : Segmented text names) (segmentedToo : Segmented text others) : names = others :=
  segmented.pieces_eq.1.symm.trans segmentedToo.pieces_eq.1

theorem path?_eq_ok_iff :
    path? word = .ok names ↔ ¬ Climbs word ∧
      (relativePart word = [] ∧ names = [] ∨ Segmented (relativePart word) names) := by
  have read := path?_readAs word
  generalize path? word = outcome at read
  cases read with
  | climbing climbs => simp [climbs]
  | self level empty =>
      simp only [level, empty, not_false_eq_true, true_and, Except.ok.injEq]
      constructor
      · exact fun same => .inl same.symm
      · rintro (same | segmented)
        · exact same.symm
        · exact absurd rfl segmented.ne_nil
  | below level segmented =>
      simp only [level, segmented.ne_nil, not_false_eq_true, true_and, false_and, false_or,
        Except.ok.injEq]
      constructor
      · rintro rfl
        exact segmented
      · exact segmented.unique
  | broken level some unsegmented => simp [some, unsegmented]

theorem path?_eq_error_iff (fault : SyntaxFault) :
    path? word = .error fault ↔
      Climbs word ∧ fault = .parentScope (String.ofList word) ∨
      ¬ Climbs word ∧ (∀ names, path? word ≠ .ok names) ∧
        fault = .invalidPath (String.ofList word) := by
  have read := path?_readAs word
  generalize path? word = outcome at read
  cases read with
  | climbing climbs => simp [climbs, eq_comm]
  | self level empty => simp [level]
  | below level segmented => simp [level]
  | broken level some unsegmented => simp [level, eq_comm]

theorem begins_of_leads {lead : List Char} (known : lead ∈ leads) :
    ∃ start marks, Begins start ∧ Marks marks ∧ marks ≠ [] ∧ lead = start ++ marks := by
  simp only [leads, List.mem_cons, List.not_mem_nil, or_false] at known
  rcases known with rfl | rfl | rfl
  · exact ⟨"this".toList, ['.'], .inr rfl, by simp [Marks, isPathMark], by simp, rfl⟩
  · exact ⟨"this".toList, ['/'], .inr rfl, by simp [Marks, isPathMark], by simp, rfl⟩
  · exact ⟨[], ['.', '/'], .inl rfl, by simp [Marks, isPathMark], by simp, rfl⟩

theorem IsPath.exists_front (isPath : IsPath word names) :
    ∃ front, word = front ++ relativePart word ∧
      (relativePart word = [] ∧ names = [] ∧ front ∈ ["this".toList, ['.']] ∨
        Segmented (relativePart word) names ∧ front ∈ [] :: leads) := by
  cases isPath with
  | this =>
      have divided : Divided "this".toList "this".toList [] [] :=
        ⟨rfl, .inr rfl, by simp [Marks], by simp [Unmarked], by simp⟩
      rw [divided.relativePart_eq]
      exact ⟨"this".toList, rfl, .inl ⟨rfl, rfl, by simp⟩⟩
  | dot =>
      have divided : Divided ['.'] [] ['.'] [] :=
        ⟨rfl, .inl rfl, by simp [Marks, isPathMark], by simp [Unmarked], by simp⟩
      rw [divided.relativePart_eq]
      exact ⟨['.'], rfl, .inl ⟨rfl, rfl, by simp⟩⟩
  | @below lead rest names known segmented =>
      obtain ⟨start, marks, begins, all, some, rfl⟩ := begins_of_leads known
      have divided : Divided (start ++ marks ++ rest) start marks rest :=
        ⟨rfl, begins, all, segmented.unmarked, fun none => absurd none some⟩
      rw [divided.relativePart_eq]
      exact ⟨_, rfl, .inr ⟨segmented, List.mem_cons_of_mem _ known⟩⟩
  | plain segmented other =>
      have divided : Divided word [] [] word := by
        refine ⟨rfl, .inl rfl, by simp [Marks], segmented.unmarked, fun _ _ => ⟨rfl, ?_⟩⟩
        exact mt segmented.head?_eq_this_iff.mpr other
      rw [divided.relativePart_eq]
      exact ⟨[], rfl, .inr ⟨segmented, List.mem_cons_self⟩⟩

theorem IsPath.of_front {front : List Char} (whole : word = front ++ relativePart word)
    (known : relativePart word = [] ∧ names = [] ∧ front ∈ ["this".toList, ['.']] ∨
      Segmented (relativePart word) names ∧ front ∈ [] :: leads) : IsPath word names := by
  rcases known with ⟨empty, rfl, known⟩ | ⟨segmented, known⟩
  · rw [empty, List.append_nil] at whole
    subst whole
    simp only [List.mem_cons, List.not_mem_nil, or_false] at known
    rcases known with rfl | rfl
    · exact .this
    · exact .dot
  · rw [whole]
    rcases List.mem_cons.mp known with rfl | lead
    · refine .plain segmented ?_
      intro first
      obtain ⟨behind, shape, apart⟩ := segmented.head?_eq_this_iff.mp first
      -- `this` would have been passed over
      rw [List.nil_append, shape] at whole
      rw [whole, relativePart_this apart] at shape
      have shorter := (List.dropWhile_sublist isPathMark (l := behind)).length_le
      rw [shape, List.length_append] at shorter
      have letters : "this".toList.length = 4 := rfl
      omega
    · exact .below lead segmented

theorem isPath_iff :
    IsPath word names ↔ ∃ front, word = front ++ relativePart word ∧
      (relativePart word = [] ∧ names = [] ∧ front ∈ ["this".toList, ['.']] ∨
        Segmented (relativePart word) names ∧ front ∈ [] :: leads) := by
  constructor
  · exact IsPath.exists_front
  · rintro ⟨front, whole, known⟩
    exact .of_front whole known

theorem loose_iff :
    Loose word names ↔ ∃ front, word = front ++ relativePart word ∧
      (relativePart word = [] ∧ names = [] ∧ front ∉ ["this".toList, ['.']] ∨
        Segmented (relativePart word) names ∧ front ∉ [] :: leads) := by
  constructor
  · intro loose
    cases loose with
    | @self start marks begins all other =>
        have divided : Divided (start ++ marks) start marks [] :=
          ⟨by simp, begins, all, by simp [Unmarked], by simp⟩
        rw [divided.relativePart_eq]
        exact ⟨_, divided.whole, .inl ⟨rfl, rfl, other⟩⟩
    | @below start marks rest names begins all some other segmented =>
        have divided : Divided (start ++ marks ++ rest) start marks rest :=
          ⟨rfl, begins, all, segmented.unmarked, fun none => absurd none some⟩
        rw [divided.relativePart_eq]
        refine ⟨_, rfl, .inr ⟨segmented, ?_⟩⟩
        simp [some, other]
  · rintro ⟨front, whole, here⟩
    obtain ⟨start, marks, divided⟩ := exists_divided word
    have same : front = start ++ marks :=
      List.append_cancel_right (whole.symm.trans divided.whole)
    subst same
    rw [whole]
    rcases here with ⟨empty, rfl, other⟩ | ⟨segmented, other⟩
    · rw [empty, List.append_nil]
      exact .self divided.begins divided.all other
    · obtain ⟨some, other⟩ := not_or.mp (fun known => other (List.mem_cons.mpr known))
      refine .below divided.begins divided.all ?_ other segmented
      rintro rfl
      have own := (divided.own rfl segmented.ne_nil).1
      exact some (by simp [own])

theorem IsPath.not_loose (isPath : IsPath word names) (others : List String) :
    ¬ Loose word others := by
  intro loose
  obtain ⟨front, whole, here⟩ := isPath_iff.mp isPath
  obtain ⟨other, wholeToo, there⟩ := loose_iff.mp loose
  obtain rfl : front = other := List.append_cancel_right (whole.symm.trans wholeToo)
  rcases here with ⟨empty, -, known⟩ | ⟨segmented, known⟩
  · rcases there with ⟨-, -, unknown⟩ | ⟨segmented, -⟩
    · exact unknown known
    · exact segmented.ne_nil empty
  · rcases there with ⟨empty, -⟩ | ⟨-, unknown⟩
    · exact segmented.ne_nil empty
    · exact unknown known

theorem IsPath.level (isPath : IsPath word names) : ¬ Climbs word := by
  cases isPath with
  | this => simp [Climbs]
  | dot => simp [Climbs]
  | below known _ =>
      simp only [leads, List.mem_cons, List.not_mem_nil, or_false] at known
      rcases known with rfl | rfl | rfl <;> simp [Climbs]
  | plain segmented _ =>
      intro climbs
      have first : word.head? = some '.' := by
        rcases climbs with rfl | ⟨rest, rfl⟩
        · rfl
        · rfl
      exact absurd (segmented.unmarked '.' first) (by decide)

theorem readable_iff :
    relativePart word = [] ∧ names = [] ∨ Segmented (relativePart word) names ↔
      IsPath word names ∨ Loose word names := by
  obtain ⟨start, marks, divided⟩ := exists_divided word
  rw [isPath_iff, loose_iff]
  constructor
  · rintro (⟨empty, none⟩ | segmented)
    · by_cases known : start ++ marks ∈ ["this".toList, ['.']]
      · exact .inl ⟨_, divided.whole, .inl ⟨empty, none, known⟩⟩
      · exact .inr ⟨_, divided.whole, .inl ⟨empty, none, known⟩⟩
    · by_cases known : start ++ marks ∈ [] :: leads
      · exact .inl ⟨_, divided.whole, .inr ⟨segmented, known⟩⟩
      · exact .inr ⟨_, divided.whole, .inr ⟨segmented, known⟩⟩
  · rintro (⟨_, -, ⟨empty, none, -⟩ | ⟨segmented, -⟩⟩ | ⟨_, -, ⟨empty, none, -⟩ | ⟨segmented, -⟩⟩)
    · exact .inl ⟨empty, none⟩
    · exact .inr segmented
    · exact .inl ⟨empty, none⟩
    · exact .inr segmented

end

structure IsPlain (word : List Char) : Prop where
  unquoted : ∀ c ∈ word.head?, isQuote c = false
  single : word.head? ≠ some '('
  other : word ∉ ["true".toList, "false".toList, "null".toList, "undefined".toList]
  numberless : number? word = none

theorem IsPlain.operand_eq {word : List Char} (plain : IsPlain word) :
    operand word = (path? word).map .path := by
  obtain ⟨unquoted, single, other, numberless⟩ := plain
  simp only [List.mem_cons, List.not_mem_nil, or_false, not_or] at other
  obtain ⟨notTrue, notFalse, notNull, notUndefined⟩ := other
  cases word with
  | nil => rfl
  | cons c rest =>
      have parenthesis : c ≠ '(' := by simpa using single
      unfold operand
      simp only [unquoted c rfl, Bool.false_eq_true, ↓reduceIte]
      rw [if_neg parenthesis, if_neg notTrue, if_neg notFalse,
        if_neg (not_or.mpr ⟨notNull, notUndefined⟩), numberless]

/-- Words are read as paths by the grammar, or loosely and then not where they climb; all others are
refused, with the expression that they are in. -/
theorem operand_grammar {word : List Char} (plain : IsPlain word) :
    (∀ names, operand word = .ok (.path names) ↔
      IsPath word names ∨ ¬ Climbs word ∧ Loose word names) ∧
    (∀ names others, IsPath word names → ¬ Climbs word ∧ ¬ Loose word others) ∧
    (∀ fault, operand word = .error fault ↔
      Climbs word ∧ fault = .parentScope (String.ofList word) ∨
      ¬ Climbs word ∧ (∀ names, ¬ IsPath word names ∧ ¬ Loose word names) ∧
        fault = .invalidPath (String.ofList word)) ∧
    ∀ source fault, IsOperand source word → operand word = .error fault →
      ∃ other, parse source = .error other := by
  have read : ∀ names, operand word = .ok (.path names) ↔ path? word = .ok names := by
    intro names
    rw [plain.operand_eq]
    cases path? word <;> simp [Except.map]
  have refused : ∀ fault, operand word = .error fault ↔ path? word = .error fault := by
    intro fault
    rw [plain.operand_eq]
    cases path? word <;> simp [Except.map]
  refine ⟨?_, ?_, ?_, ?_⟩
  · intro names
    rw [read, path?_eq_ok_iff, readable_iff]
    constructor
    · rintro ⟨level, isPath | loose⟩
      · exact .inl isPath
      · exact .inr ⟨level, loose⟩
    · rintro (isPath | ⟨level, loose⟩)
      · exact ⟨isPath.level, .inl isPath⟩
      · exact ⟨level, .inr loose⟩
  · intro names others isPath
    exact ⟨isPath.level, isPath.not_loose others⟩
  · intro fault
    rw [refused, path?_eq_error_iff]
    by_cases climbs : Climbs word
    · simp [climbs]
    · simp only [ne_eq, path?_eq_ok_iff, readable_iff, climbs, not_false_eq_true, true_and,
        not_or]
  · intro source fault isOperand
    exact isOperand.refused

theorem operand_grammar_folder :
    IsPlain "./this/0".toList ∧ operand "./this/0".toList = .ok (.path ["this", "0"]) := by
  have plain : IsPlain "./this/0".toList := ⟨by simp [isQuote], by simp, by decide, by decide⟩
  have segmented : Segmented "this/0".toList ["this", "0"] :=
    @Segmented.more "this".toList '/' ['0'] ["0"] (by simp) (by simp [isPathMark]) rfl
      (.last (by simp) (by simp [isPathMark]))
  have isPath : IsPath "./this/0".toList ["this", "0"] :=
    @IsPath.below "./".toList _ _ (by simp [leads]) segmented
  exact ⟨plain, ((operand_grammar plain).1 _).mpr (.inl isPath)⟩

/-- A step to the scope around the data, and a named operand without a value, are read in the data
itself. -/
theorem loose_paths :
    (∀ names, ¬ IsPath "./../a".toList names) ∧ (∀ names, ¬ IsPath [] names) ∧
      render "\x7b\x7b\x7b./../a\x7d\x7d\x7d" (.object [("a", .string "A")]) = .ok "A" ∧
      render "\x7b\x7b\x7bcenter \"b\" size=\x7d\x7d\x7d" (.number (.integer ⟨3, by decide, by decide⟩)) =
        .ok " b " := by
  have climbing : Loose "./../a".toList ["a"] :=
    @Loose.below [] "./../".toList ['a'] ["a"] (.inl rfl) (by simp [Marks, isPathMark]) (by simp)
      (by decide) (.last (by simp) (by simp [isPathMark]))
  have blank : Loose [] [] := @Loose.self [] [] (.inl rfl) (by simp [Marks]) (by simp)
  refine ⟨?_, ?_, by decide +kernel, by decide +kernel⟩
  · intro names isPath
    exact isPath.not_loose _ climbing
  · intro names isPath
    exact isPath.not_loose _ blank

end TagTemplate.Expression
