import TagTemplate.Compiler
import TagTemplate.Proofs.Template.Attribution
import TagTemplate.Proofs.Template.Nesting
import TagTemplate.Proofs.Text

/-! The tag for which a text is no valid template, and the start of the line that it begins in. -/

namespace TagTemplate

open Leftmost

inductive Leftmost.LeftOpen (source : List Char) : Nat → Nat → Prop
  | here {cursor start} (opens : Opens source cursor start)
      (never : ∀ index, ¬ Closes source start index) : LeftOpen source cursor start
  | behind {cursor first close start} (opens : Opens source cursor first)
      (closes : Closes source first close) (earliest : ∀ index < close, ¬ Closes source first index)
      (rest : LeftOpen source (tagEnd source first close) start) : LeftOpen source cursor start

def Tag.Follows (tag : Tag) (source front : List Char) : Prop :=
  tag.start = Text.byteLength front ∧ ∃ back, source = front ++ tag.source ++ back

/-- The fault of a text and the text in front of the tag that is to blame: a tag that never closes,
or else a closing tag that does not close the innermost open section, or else the opening tag of the
innermost section that is open at the end. -/
inductive Offending (source : List Char) : SyntaxFault → List Char → Prop
  | unclosed {start} (left : LeftOpen source 0 start) :
      Offending source .unclosedTag (source.take start)
  | closing {earlier tag later marks front enclosing keyword}
      (scanned : Scanned source 0 (earlier ++ tag :: later) none) (place : tag.Follows source front)
      (mark : tag.Marks (.closing keyword tag.line)) (marked : Marked earlier marks)
      (before : LeavesOpen marks enclosing) (other : enclosing.head?.map (·.1) ≠ some keyword) :
      Offending source (closingFault keyword enclosing.head?) front
  | opening {earlier tag later marks behind front enclosing keyword}
      (scanned : Scanned source 0 (earlier ++ tag :: later) none) (place : tag.Follows source front)
      (mark : tag.Marks (.opening keyword tag.line)) (marked : Marked earlier marks)
      (before : LeavesOpen marks enclosing) (markedLater : Marked later behind)
      (nested : Nested behind) : Offending source (.unclosedSection (String.ofList keyword)) front

section
variable {source front : List Char} {tags : List Tag} {tag : Tag} {fault : SyntaxFault}

theorem Leftmost.Scanned.leftOpen {cursor : Nat} {unclosed : Option Nat} {line : Nat}
    (scanned : Scanned source cursor tags unclosed) (unended : unclosed = some line) :
    ∃ start, LeftOpen source cursor start ∧ line = lineAt source start := by
  induction scanned with
  | plain _ => cases unended
  | unclosed opens never =>
      cases unended
      exact ⟨_, .here opens never, rfl⟩
  | tag opens closes earliest _ ih =>
      obtain ⟨start, left, same⟩ := ih unended
      exact ⟨start, .behind opens closes earliest left, same⟩

theorem Leftmost.LeftOpen.scanned {cursor start : Nat} (left : LeftOpen source cursor start) :
    ∃ tags, Scanned source cursor tags (some (lineAt source start)) := by
  induction left with
  | here opens never => exact ⟨[], .unclosed opens never⟩
  | behind opens closes earliest _ ih =>
      obtain ⟨tags, scanned⟩ := ih
      exact ⟨_, .tag opens closes earliest scanned⟩

theorem Leftmost.LeftOpen.braces {cursor start : Nat} (left : LeftOpen source cursor start) :
    BracesAt source '\x7b' 2 start := by
  induction left with
  | here opens _ => exact opens.braces
  | behind _ _ _ _ ih => exact ih

theorem Tag.Follows.line_eq {unclosed : Option Nat} (place : tag.Follows source front)
    (scanned : Scanned source 0 tags unclosed) (member : tag ∈ tags) :
    tag.line = 1 + front.count '\n' := by
  obtain ⟨start, back, whole⟩ := place
  obtain ⟨other, rest, wholeToo, startToo, line⟩ := scanned.lines.1 tag member
  rw [List.append_assoc] at whole wholeToo
  have same := Text.front_unique (start.symm.trans startToo) (whole.symm.trans wholeToo)
  rw [line, same]

theorem exists_follows {unclosed : Option Nat} (scanned : Scanned source 0 tags unclosed)
    (member : tag ∈ tags) : ∃ front, tag.Follows source front := by
  obtain ⟨front, back, whole, start, -⟩ := scanned.lines.1 tag member
  exact ⟨front, start, back, whole⟩

theorem Tag.Marks.line_eq {keyword : List Char} {line : Nat} :
    (tag.Marks (.opening keyword line) → line = tag.line) ∧
      (tag.Marks (.closing keyword line) → line = tag.line) := by
  constructor
  · rintro ⟨⟩
    rfl
  · rintro ⟨⟩
    rfl

theorem Marked.append {others : List Tag} {marks behind : List SectionMark}
    (marked : Marked tags marks) (markedLater : Marked others behind) :
    Marked (tags ++ others) (marks ++ behind) := by
  induction marked with
  | nil => exact markedLater
  | mark here _ ih => exact .mark here ih
  | pass none _ ih => exact .pass none ih

theorem exists_marked {marks behind : List SectionMark} {mark : SectionMark}
    (marked : Marked tags (marks ++ mark :: behind)) :
    ∃ earlier tag later, tags = earlier ++ tag :: later ∧ Marked earlier marks ∧
      tag.Marks mark ∧ Marked later behind := by
  simp only [marked_iff, Tag.marks_iff] at marked ⊢
  obtain ⟨first, second, rfl, rfl, back⟩ := List.filterMap_eq_append_iff.mp marked
  obtain ⟨unmarked, tag, later, rfl, none, here, rfl⟩ := List.filterMap_eq_cons_iff.mp back
  refine ⟨first ++ unmarked, tag, later, by simp, ?_, here, rfl⟩
  rw [List.filterMap_append, List.filterMap_eq_nil_iff.mpr none, List.append_nil]

theorem Misnested.offending {marks : List SectionMark} {line : Nat}
    (scanned : Scanned source 0 tags none) (marked : Marked tags marks)
    (misnested : Misnested marks fault line) :
    ∃ front, Offending source fault front ∧ line = 1 + front.count '\n' := by
  cases misnested with
  | closing before other =>
      obtain ⟨earlier, tag, later, rfl, markedFirst, mark, -⟩ := exists_marked marked
      have member : tag ∈ earlier ++ tag :: later := by simp
      obtain ⟨front, place⟩ := exists_follows scanned member
      obtain rfl := Tag.Marks.line_eq.2 mark
      exact ⟨front, .closing scanned place mark markedFirst before other,
        place.line_eq scanned member⟩
  | unclosed left =>
      cases left with
      | more before nested =>
          obtain ⟨earlier, tag, later, rfl, markedFirst, mark, markedLater⟩ := exists_marked marked
          have member : tag ∈ earlier ++ tag :: later := by simp
          obtain ⟨front, place⟩ := exists_follows scanned member
          obtain rfl := Tag.Marks.line_eq.1 mark
          exact ⟨front, .opening scanned place mark markedFirst before markedLater nested,
            place.line_eq scanned member⟩

theorem Offending.misnested (offending : Offending source fault front) :
    (∃ tags, Scanned source 0 tags (some (1 + front.count '\n')) ∧ fault = .unclosedTag) ∨
      ∃ tags marks, Scanned source 0 tags none ∧ Marked tags marks ∧
        Misnested marks fault (1 + front.count '\n') := by
  cases offending with
  | unclosed left =>
      obtain ⟨tags, scanned⟩ := left.scanned
      exact .inl ⟨tags, scanned, rfl⟩
  | @closing earlier tag later marks _ _ _ scanned place mark marked before other =>
      refine .inr ⟨_, _, scanned, marked.append (.mark mark (marked_iff.mpr rfl)), ?_⟩
      rw [← place.line_eq scanned (by simp)]
      exact .closing before other
  | opening scanned place mark marked before markedLater nested =>
      refine .inr ⟨_, _, scanned, marked.append (.mark mark markedLater), ?_⟩
      rw [← place.line_eq scanned (by simp)]
      exact .unclosed (.more before nested)

theorem Offending.braces (offending : Offending source fault front) :
    ∃ rest, source = front ++ '\x7b' :: '\x7b' :: rest := by
  have tagged : ∀ {tag : Tag}, tag.Follows source front →
      ∃ rest, source = front ++ '\x7b' :: '\x7b' :: rest := by
    rintro tag ⟨-, back, whole⟩
    obtain ⟨inner, shape⟩ := (braces_source tag).1
    exact ⟨inner ++ back, by rw [whole, ← shape]; simp⟩
  cases offending with
  | unclosed left =>
      exact ⟨_, left.braces.source_eq⟩
  | closing _ place _ _ _ _ => exact tagged place
  | opening _ place _ _ _ _ _ => exact tagged place

end

theorem validate_eq_error_iff {source : String} {error : TemplateError} :
    validate source = .error error ↔ ∃ fault front, Offending source.toList fault front ∧
      error = .malformed fault (1 + front.count '\n') := by
  constructor
  · intro invalid
    rcases exists_scanned source with ⟨tags, line, scanned⟩ | ⟨tags, marks, scanned, marked⟩
    · rw [validate_of_unclosed scanned] at invalid
      cases invalid
      obtain ⟨start, left, rfl⟩ := scanned.leftOpen rfl
      exact ⟨_, _, .unclosed left, rfl⟩
    · rw [validate_of_closed scanned marked] at invalid
      obtain ⟨fault, line, misnested, rfl⟩ := (Scan.checkMarks_eq_error_iff _ _).mp invalid
      obtain ⟨front, offending, rfl⟩ := misnested.offending scanned marked
      exact ⟨fault, front, offending, rfl⟩
  · rintro ⟨fault, front, offending, rfl⟩
    rcases offending.misnested with ⟨tags, scanned, rfl⟩ | ⟨tags, marks, scanned, marked, misnested⟩
    · exact validate_of_unclosed scanned
    · rw [validate_of_closed scanned marked]
      exact Scan.checkMarks_of_misnested misnested

/-- The start of a line, and what stands in it: the text up to the last line end, and the text
behind. -/
structure LastLine (lead line : List Char) : Prop where
  whole : ∀ c ∈ lead.getLast?, c = '\n'
  unbroken : '\n' ∉ line

theorem exists_lastLine (front : List Char) :
    ∃ lead line, front = lead ++ line ∧ LastLine lead line := by
  induction front with
  | nil => exact ⟨[], [], rfl, by simp, by simp⟩
  | cons c rest ih =>
      obtain ⟨lead, line, rfl, whole, unbroken⟩ := ih
      by_cases some : lead ≠ [] ∨ c = '\n'
      · refine ⟨c :: lead, line, rfl, ?_, unbroken⟩
        cases lead with
        | nil => simpa using some
        | cons other more => simpa using whole
      · obtain ⟨none, letter⟩ := not_or.mp some
        obtain rfl := not_not.mp none
        exact ⟨[], c :: line, rfl, by simp, by simp [unbroken, Ne.symm letter]⟩

theorem bytesOfLines_append {lead : List Char} (whole : ∀ c ∈ lead.getLast?, c = '\n')
    (rest : List Char) :
    bytesOfLines (lead.count '\n') (lead ++ rest) = Text.byteLength lead := by
  induction lead with
  | nil => cases rest <;> rfl
  | cons c lead ih =>
      cases lead with
      | nil =>
          rw [whole c rfl]
          cases rest <;> rfl
      | cons other more =>
          have later : ∀ c ∈ (other :: more).getLast?, c = '\n' := by simpa using whole
          rw [List.cons_append, Text.byteLength, ← ih later]
          by_cases ends : c = '\n'
          · rw [ends, List.count_cons_self, bytesOfLines, if_pos rfl]
          · -- the line goes on, and its end is still to come
            obtain ⟨last, found⟩ : ∃ last, (other :: more).getLast? = some last :=
              ⟨_, List.getLast?_eq_some_getLast (List.cons_ne_nil other more)⟩
            have member := List.mem_of_getLast? found
            rw [later last found, ← List.count_pos_iff] at member
            obtain ⟨lines, count⟩ := Nat.exists_eq_add_one.mpr member
            rw [List.count_cons_of_ne ends, count, bytesOfLines, if_neg ends]

/-- The offset in bytes at which an error of a source is reported: that of the line in which the
braces of the tag to blame begin. -/
def PointsAt (source : List Char) (error : TemplateError) (offset : Nat) : Prop :=
  ∃ fault lead line rest, Offending source fault (lead ++ line) ∧
    source = lead ++ (line ++ '\x7b' :: '\x7b' :: rest) ∧ LastLine lead line ∧
    error = .malformed fault (1 + (lead ++ line).count '\n') ∧ offset = Text.byteLength lead

theorem PointsAt.isValid {source : String} {error : TemplateError} {offset : Nat}
    (points : PointsAt source.toList error offset) : String.Pos.Raw.IsValid source ⟨offset⟩ := by
  obtain ⟨fault, lead, line, rest, -, whole, -, -, rfl⟩ := points
  refine String.Pos.Raw.isValid_iff_exists_append.mpr
    ⟨String.ofList lead, String.ofList (line ++ '\x7b' :: '\x7b' :: rest), ?_, ?_⟩
  · rw [← String.ofList_append, ← whole, String.ofList_toList]
  · rw [String.rawEndPos, Text.utf8ByteSize_ofList]

theorem exists_pointsAt {source : String} {error : TemplateError}
    (invalid : validate source = .error error) : ∃ offset, PointsAt source.toList error offset := by
  obtain ⟨fault, front, offending, rfl⟩ := validate_eq_error_iff.mp invalid
  obtain ⟨lead, line, rfl, lastLine⟩ := exists_lastLine front
  obtain ⟨rest, whole⟩ := offending.braces
  rw [List.append_assoc] at whole
  exact ⟨_, fault, lead, line, rest, offending, whole, lastLine, rfl, rfl⟩

theorem PointsAt.structureFault?_eq {source : String} {error : TemplateError} {offset : Nat}
    (points : PointsAt source.toList error offset) :
    structureFault? source = some ⟨error.message, some offset⟩ := by
  obtain ⟨fault, lead, line, rest, offending, whole, lastLine, rfl, rfl⟩ := points
  have invalid := validate_eq_error_iff.mpr ⟨fault, lead ++ line, offending, rfl⟩
  -- the scan has counted the line ends of `lead`, and the offset is that of as many lines
  have lines : (lead ++ line).count '\n' = lead.count '\n' := by
    rw [List.count_append, List.count_eq_zero.mpr lastLine.unbroken, Nat.add_zero]
  have bytes := bytesOfLines_append lastLine.whole (line ++ '\x7b' :: '\x7b' :: rest)
  rw [← whole, ← lines] at bytes
  simp only [structureFault?, invalid, Diagnostic.ofError, TemplateError.line?, Option.map_some,
    Nat.add_sub_cancel_left, bytes]

end TagTemplate
