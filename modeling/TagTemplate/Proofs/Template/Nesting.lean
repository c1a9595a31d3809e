import TagTemplate.Proofs.Template.Asking
import TagTemplate.Proofs.Template.Scanning
import TagTemplate.Template.Node

/-! Templates are valid exactly when their sections nest. -/

namespace TagTemplate

open Leftmost

inductive SectionMark where
  | opening (keyword : List Char) (line : Nat)
  | closing (keyword : List Char) (line : Nat)
deriving DecidableEq, Repr

inductive Tag.Marks (tag : Tag) : SectionMark → Prop
  | opening {keyword arguments} (plain : tag.Unescaped)
      (asks : tag.Asks (.sectionStart keyword arguments)) : Marks tag (.opening keyword tag.line)
  | closing {keyword} (plain : tag.Unescaped) (asks : tag.Asks (.sectionEnd keyword)) :
      Marks tag (.closing keyword tag.line)

inductive Marked : List Tag → List SectionMark → Prop
  | nil : Marked [] []
  | mark {tag mark tags marks} (here : tag.Marks mark) (rest : Marked tags marks) :
      Marked (tag :: tags) (mark :: marks)
  | pass {tag tags marks} (none : ∀ mark, ¬ tag.Marks mark) (rest : Marked tags marks) :
      Marked (tag :: tags) marks

inductive Nested : List SectionMark → Prop
  | empty : Nested []
  | enclosed {keyword opened closed inner rest} (within : Nested inner) (behind : Nested rest) :
      Nested (.opening keyword opened :: (inner ++ .closing keyword closed :: rest))

inductive LeavesOpen : List SectionMark → List (List Char × Nat) → Prop
  | all {marks} (nested : Nested marks) : LeavesOpen marks []
  | more {front enclosing keyword line inner} (before : LeavesOpen front enclosing)
      (nested : Nested inner) :
      LeavesOpen (front ++ .opening keyword line :: inner) ((keyword, line) :: enclosing)

def closingFault (keyword : List Char) : Option (List Char × Nat) → SyntaxFault
  | none => .unexpectedEnd (String.ofList keyword)
  | some (expected, opened) =>
      .mismatchedEnd (String.ofList keyword) (String.ofList expected) opened

/-- The first fault in the nesting of marks, and its line: a closing tag that does not close the
innermost open section, or else the section last opened of those still open at the end. -/
inductive Misnested : List SectionMark → SyntaxFault → Nat → Prop
  | closing {front back enclosing keyword line} (before : LeavesOpen front enclosing)
      (other : enclosing.head?.map (·.1) ≠ some keyword) :
      Misnested (front ++ .closing keyword line :: back) (closingFault keyword enclosing.head?) line
  | unclosed {marks enclosing keyword line}
      (left : LeavesOpen marks ((keyword, line) :: enclosing)) :
      Misnested marks (.unclosedSection (String.ofList keyword)) line

def Tag.sectionMark? (tag : Tag) : Option SectionMark :=
  if tag.isEscaped then none
  else
    match tag.kind with
    | .sectionStart keyword _ => some (.opening keyword tag.line)
    | .sectionEnd keyword => some (.closing keyword tag.line)
    | _ => none

theorem Tag.marks_iff {tag : Tag} {mark : SectionMark} :
    tag.Marks mark ↔ tag.sectionMark? = some mark := by
  constructor
  · intro marks
    cases marks with
    | opening plain asks =>
        simp [Tag.sectionMark?, Tag.isEscaped_eq_false_iff.mpr plain, Tag.kind_eq_iff.mpr asks]
    | closing plain asks =>
        simp [Tag.sectionMark?, Tag.isEscaped_eq_false_iff.mpr plain, Tag.kind_eq_iff.mpr asks]
  · intro marked
    unfold Tag.sectionMark? at marked
    split at marked
    · simp at marked
    next unescaped =>
    have plain := Tag.isEscaped_eq_false_iff.mp (eq_false_of_ne_true unescaped)
    split at marked
    · next kind =>
        cases marked
        exact .opening plain (Tag.kind_eq_iff.mp kind)
    · next kind =>
        cases marked
        exact .closing plain (Tag.kind_eq_iff.mp kind)
    · simp at marked

theorem marked_iff {tags : List Tag} {marks : List SectionMark} :
    Marked tags marks ↔ tags.filterMap Tag.sectionMark? = marks := by
  constructor
  · intro marked
    induction marked with
    | nil => rfl
    | mark here _ ih => rw [List.filterMap_cons_some (Tag.marks_iff.mp here), ih]
    | @pass tag _ _ none _ ih =>
        have unmarked : tag.sectionMark? = .none :=
          Option.eq_none_iff_forall_ne_some.mpr fun mark same => none mark (Tag.marks_iff.mpr same)
        rw [List.filterMap_cons_none unmarked, ih]
  · rintro rfl
    induction tags with
    | nil => exact .nil
    | cons tag tags ih =>
        cases mark : tag.sectionMark? with
        | none =>
            have unmarked : ∀ other, ¬ tag.Marks other := by simp [Tag.marks_iff, mark]
            rw [List.filterMap_cons_none mark]
            exact .pass unmarked ih
        | some found =>
            rw [List.filterMap_cons_some mark]
            exact .mark (Tag.marks_iff.mpr mark) ih

theorem Nested.append {front back : List SectionMark} (nested : Nested front)
    (nestedToo : Nested back) : Nested (front ++ back) := by
  induction nested with
  | empty => exact nestedToo
  | enclosed within _ _ ih =>
      rw [List.cons_append, List.append_assoc]
      exact .enclosed within ih

theorem LeavesOpen.append {front back : List SectionMark} {enclosing : List (List Char × Nat)}
    (left : LeavesOpen front enclosing) (nested : Nested back) :
    LeavesOpen (front ++ back) enclosing := by
  cases left with
  | all before => exact .all (before.append nested)
  | more before inner =>
      rw [List.append_assoc]
      exact .more before (inner.append nested)

theorem LeavesOpen.close {front : List SectionMark} {enclosing : List (List Char × Nat)}
    {keyword : List Char} {opened line : Nat}
    (left : LeavesOpen front ((keyword, opened) :: enclosing)) :
    LeavesOpen (front ++ [.closing keyword line]) enclosing := by
  cases left with
  | more before inner =>
      rw [List.append_assoc]
      exact before.append (.enclosed inner .empty)

namespace Scan

def checkMarks (enclosing : List (List Char × Nat)) :
    List SectionMark → Except TemplateError Unit
  | [] =>
      match enclosing with
      | [] => .ok ()
      | (keyword, line) :: _ => .error (.malformed (.unclosedSection (String.ofList keyword)) line)
  | .opening keyword line :: rest => checkMarks ((keyword, line) :: enclosing) rest
  | .closing keyword line :: rest =>
      if enclosing.head?.map (·.1) = some keyword then checkMarks enclosing.tail rest
      else .error (.malformed (closingFault keyword enclosing.head?) line)

theorem checkSections_eq_checkMarks (enclosing : List (List Char × Nat)) (tags : List Tag) :
    checkSections enclosing tags = checkMarks enclosing (tags.filterMap Tag.sectionMark?) := by
  induction tags generalizing enclosing with
  | nil => rfl
  | cons tag rest ih =>
      rw [checkSections, List.filterMap_cons, Tag.sectionMark?]
      by_cases escaped : tag.isEscaped = true
      · simp [escaped, ih]
      · cases kind : tag.kind with
        | sectionStart keyword arguments => simp [escaped, checkMarks, ih]
        | sectionEnd keyword =>
            simp only [escaped, Bool.false_eq_true, ↓reduceIte, checkMarks]
            cases enclosing with
            | nil => rfl
            | cons first outer =>
                obtain ⟨expected, opened⟩ := first
                by_cases same : expected = keyword
                · simp [same, ih]
                · simp [same, closingFault]
        | output expression => simp [escaped, ih]
        | comment => simp [escaped, ih]
        | inclusion name => simp [escaped, ih]

theorem checkMarks_nested {front : List SectionMark} (nested : Nested front)
    (enclosing : List (List Char × Nat)) (rest : List SectionMark) :
    checkMarks enclosing (front ++ rest) = checkMarks enclosing rest := by
  induction nested generalizing enclosing rest with
  | empty => rfl
  | enclosed _ _ inner behind =>
      rw [List.cons_append, List.append_assoc, checkMarks, inner, List.cons_append, checkMarks]
      exact (if_pos rfl).trans (behind enclosing rest)

theorem checkMarks_leavesOpen {front : List SectionMark} {enclosing : List (List Char × Nat)}
    (left : LeavesOpen front enclosing) (rest : List SectionMark) :
    checkMarks [] (front ++ rest) = checkMarks enclosing rest := by
  induction left generalizing rest with
  | all nested => exact checkMarks_nested nested [] rest
  | more _ nested ih =>
      rw [List.append_assoc, ih, List.cons_append, checkMarks]
      exact checkMarks_nested nested _ rest

theorem checkMarks_of_misnested {marks : List SectionMark} {fault : SyntaxFault} {line : Nat}
    (misnested : Misnested marks fault line) :
    checkMarks [] marks = .error (.malformed fault line) := by
  cases misnested with
  | closing before other => rw [checkMarks_leavesOpen before, checkMarks, if_neg other]
  | unclosed left =>
      have passed := checkMarks_leavesOpen left []
      rwa [List.append_nil] at passed

theorem checkMarks_sound {front : List SectionMark} {enclosing : List (List Char × Nat)}
    (left : LeavesOpen front enclosing) (rest : List SectionMark) :
    match checkMarks enclosing rest with
    | .ok () => Nested (front ++ rest)
    | .error error =>
        ∃ fault line, Misnested (front ++ rest) fault line ∧ error = .malformed fault line := by
  -- the marks passed so far have left open what the check still has to see closed
  induction rest generalizing front enclosing with
  | nil =>
      rw [List.append_nil]
      cases left with
      | all nested => exact nested
      | more before inner => exact ⟨_, _, .unclosed (.more before inner), rfl⟩
  | cons mark rest ih =>
      rw [List.append_cons]
      cases mark with
      | opening keyword line =>
          rw [checkMarks]
          exact ih (.more left .empty)
      | closing keyword line =>
          rw [checkMarks]
          by_cases same : enclosing.head?.map (·.1) = some keyword
          · rw [if_pos same]
            cases enclosing with
            | nil => simp at same
            | cons first outer =>
                obtain ⟨expected, opened⟩ := first
                cases Option.some.inj same
                exact ih left.close
          · rw [if_neg same, ← List.append_cons]
            exact ⟨_, _, .closing left same, rfl⟩

theorem checkMarks_eq_ok_iff (marks : List SectionMark) :
    checkMarks [] marks = .ok () ↔ Nested marks := by
  constructor
  · intro ok
    have sound := checkMarks_sound (.all .empty) marks
    rwa [ok] at sound
  · intro nested
    have passed := checkMarks_nested nested [] []
    rwa [List.append_nil] at passed

theorem checkMarks_eq_error_iff (marks : List SectionMark) (error : TemplateError) :
    checkMarks [] marks = .error error ↔
      ∃ fault line, Misnested marks fault line ∧ error = .malformed fault line := by
  constructor
  · intro refused
    have sound := checkMarks_sound (.all .empty) marks
    rwa [refused] at sound
  · rintro ⟨fault, line, misnested, rfl⟩
    exact checkMarks_of_misnested misnested

end Scan

theorem Template.marked_of_nodesOfTags {tags : List Tag} {nodes : List Node}
    (ok : nodesOfTags tags = .ok nodes) : Marked tags [] := by
  induction tags generalizing nodes with
  | nil => exact .nil
  | cons tag rest ih =>
      simp only [nodesOfTags] at ok
      split at ok
      · simp at ok
      next first made =>
      split at ok
      · simp at ok
      next others later =>
      refine .pass (fun mark marks => ?_) (ih later)
      unfold nodesOfTag nodeOfTag at made
      cases marks with
      | opening plain asks =>
          have live := Tag.isEscaped_eq_false_iff.mpr plain
          simp [live, Tag.kind_eq_iff.mpr asks, Except.map] at made
      | closing plain asks =>
          have live := Tag.isEscaped_eq_false_iff.mpr plain
          simp [live, Tag.kind_eq_iff.mpr asks, Except.map] at made

section
variable {source : String} {tags : List Tag}

theorem validate_of_unclosed {line : Nat} (scanned : Scanned source.toList 0 tags (some line)) :
    validate source = .error (.malformed .unclosedTag line) := by
  obtain ⟨-, unclosed⟩ := (Scan.of_scanned source.toList).unique scanned
  simp only [validate, Scan.complete, unclosed]

theorem validate_of_closed {marks : List SectionMark} (scanned : Scanned source.toList 0 tags none)
    (marked : Marked tags marks) : validate source = Scan.checkMarks [] marks := by
  obtain ⟨same, unclosed⟩ := (Scan.of_scanned source.toList).unique scanned
  simp only [validate, Scan.complete, unclosed, same]
  rw [Scan.checkSections_eq_checkMarks, marked_iff.mp marked]

theorem exists_scanned (source : String) :
    (∃ tags line, Scanned source.toList 0 tags (some line)) ∨
      ∃ tags marks, Scanned source.toList 0 tags none ∧ Marked tags marks := by
  have scanned := Scan.of_scanned source.toList
  cases unclosed : (Scan.of source.toList).unclosed with
  | some line => exact .inl ⟨_, line, unclosed ▸ scanned⟩
  | none => exact .inr ⟨_, _, unclosed ▸ scanned, marked_iff.mpr rfl⟩

end

/-- A text is a valid template when all its tags are closed and its sections nest. Otherwise the
fault is the tag left open if there is one, and else the first fault in the nesting. All that can be
parsed is valid. -/
theorem validate_iff_nested (source : String) :
    (validate source = .ok () ↔
      ∃ tags marks, Scanned source.toList 0 tags none ∧ Marked tags marks ∧ Nested marks) ∧
    (∀ error, validate source = .error error ↔
      (∃ tags line, Scanned source.toList 0 tags (some line) ∧
        error = .malformed .unclosedTag line) ∨
      ∃ tags marks fault line, Scanned source.toList 0 tags none ∧ Marked tags marks ∧
        Misnested marks fault line ∧ error = .malformed fault line) ∧
    ∀ template, Template.parse source = .ok template → validate source = .ok () := by
  refine ⟨⟨fun valid => ?_, ?_⟩, fun error => ⟨fun invalid => ?_, ?_⟩, fun template parsed => ?_⟩
  · rcases exists_scanned source with ⟨tags, line, scanned⟩ | ⟨tags, marks, scanned, marked⟩
    · rw [validate_of_unclosed scanned] at valid
      cases valid
    · rw [validate_of_closed scanned marked] at valid
      exact ⟨tags, marks, scanned, marked, (Scan.checkMarks_eq_ok_iff marks).mp valid⟩
  · rintro ⟨tags, marks, scanned, marked, nested⟩
    rw [validate_of_closed scanned marked]
    exact (Scan.checkMarks_eq_ok_iff marks).mpr nested
  · rcases exists_scanned source with ⟨tags, line, scanned⟩ | ⟨tags, marks, scanned, marked⟩
    · rw [validate_of_unclosed scanned] at invalid
      cases invalid
      exact .inl ⟨tags, line, scanned, rfl⟩
    · rw [validate_of_closed scanned marked] at invalid
      obtain ⟨fault, line, misnested, rfl⟩ := (Scan.checkMarks_eq_error_iff marks error).mp invalid
      exact .inr ⟨tags, marks, fault, line, scanned, marked, misnested, rfl⟩
  · rintro (⟨tags, line, scanned, rfl⟩ | ⟨tags, marks, fault, line, scanned, marked, misnested, rfl⟩)
    · exact validate_of_unclosed scanned
    · rw [validate_of_closed scanned marked]
      exact Scan.checkMarks_of_misnested misnested
  · have scanned := Scan.of_scanned source.toList
    unfold Template.parse Scan.complete at parsed
    cases unclosed : (Scan.of source.toList).unclosed with
    | some line => simp [unclosed] at parsed
    | none =>
        simp only [unclosed] at parsed
        split at parsed
        · simp at parsed
        · next nodes made =>
            rw [unclosed] at scanned
            exact validate_of_closed scanned (Template.marked_of_nodesOfTags made)

end TagTemplate
