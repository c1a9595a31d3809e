import TagTemplate.Template.Scan

/-! The tags of a text as a scan from left to right describes them, by indices and without a
machine. -/

namespace TagTemplate.Leftmost

def between (source : List Char) (first last : Nat) : List Char := (source.take last).drop first

def offsetAt (source : List Char) (index : Nat) : Nat := Text.byteLength (source.take index)

def lineAt (source : List Char) (index : Nat) : Nat := 1 + (source.take index).count '\n'

def backslashes (text : List Char) : Nat := (text.reverse.takeWhile (· == '\\')).length

def BracesAt (source : List Char) (brace : Char) (count index : Nat) : Prop :=
  ∀ offset < count, source[index + offset]? = some brace

/-- A tag opens at the first index from a cursor on at which two opening braces stand. -/
structure Opens (source : List Char) (cursor start : Nat) : Prop where
  later : cursor ≤ start
  braces : BracesAt source '\x7b' 2 start
  first : ∀ index, cursor ≤ index → index < start → ¬ BracesAt source '\x7b' 2 index

def isRaw (source : List Char) (start : Nat) : Bool := source[start + 2]? == some '\x7b'

def contentStart (source : List Char) (start : Nat) : Nat :=
  start + Tag.braces (isRaw source start)

/-- A block comment that is still open. One mark for white space may stand in front of it, and one
behind its end. -/
def OpenComment (content : List Char) : Prop :=
  ∃ text, (content = ['!', '-', '-'] ++ text ∨ content = ['~', '!', '-', '-'] ++ text) ∧
    ¬ ['-', '-'] <:+ text ∧ ¬ ['-', '-', '~'] <:+ text

/-- A tag may close at an index: its closing braces stand there, and unless they are triple no
comment is open in front of them. -/
structure Closes (source : List Char) (start index : Nat) : Prop where
  later : contentStart source start ≤ index
  braces : BracesAt source '\x7d' (Tag.braces (isRaw source start)) index
  content : isRaw source start = false →
    ¬ OpenComment (between source (contentStart source start) index)

def tagEnd (source : List Char) (start close : Nat) : Nat :=
  close + Tag.braces (isRaw source start)

def tagAt (source : List Char) (cursor start close : Nat) : Tag where
  before := between source cursor start
  backslashes := backslashes (between source cursor start)
  start := offsetAt source start
  line := lineAt source start
  raw := isRaw source start
  content := between source (contentStart source start) close

/-- The tags from a cursor on, and the line of a last one that never closes. -/
inductive Scanned (source : List Char) : Nat → List Tag → Option Nat → Prop
  | plain {cursor} (none : ∀ start, ¬ Opens source cursor start) : Scanned source cursor [] .none
  | unclosed {cursor start} (opens : Opens source cursor start)
      (never : ∀ index, ¬ Closes source start index) :
      Scanned source cursor [] (some (lineAt source start))
  | tag {cursor start close tags unclosed} (opens : Opens source cursor start)
      (closes : Closes source start close) (first : ∀ index < close, ¬ Closes source start index)
      (rest : Scanned source (tagEnd source start close) tags unclosed) :
      Scanned source cursor (tagAt source cursor start close :: tags) unclosed

theorem Opens.unique {source : List Char} {cursor start other : Nat}
    (opens : Opens source cursor start) (opensToo : Opens source cursor other) : start = other := by
  rcases Nat.lt_trichotomy start other with less | same | greater
  · exact absurd opens.braces (opensToo.first start opens.later less)
  · exact same
  · exact absurd opensToo.braces (opens.first other opensToo.later greater)

theorem BracesAt.opens {source : List Char} {start : Nat}
    (braces : BracesAt source '\x7b' 2 start) : Opens source start start :=
  ⟨Nat.le_refl _, braces, fun _ later before => absurd later (Nat.not_le_of_lt before)⟩

theorem closes_unique {source : List Char} {start close other : Nat}
    (closes : Closes source start close) (first : ∀ index < close, ¬ Closes source start index)
    (closesToo : Closes source start other)
    (firstToo : ∀ index < other, ¬ Closes source start index) : close = other := by
  rcases Nat.lt_trichotomy close other with less | same | greater
  · exact absurd closes (firstToo close less)
  · exact same
  · exact absurd closesToo (first other greater)

theorem Scanned.unique {source : List Char} {cursor : Nat} {tags others : List Tag}
    {unclosed line : Option Nat} (scanned : Scanned source cursor tags unclosed)
    (scannedToo : Scanned source cursor others line) : tags = others ∧ unclosed = line := by
  induction scanned generalizing others line with
  | plain none =>
      cases scannedToo with
      | plain _ => exact ⟨rfl, rfl⟩
      | unclosed opens _ => exact absurd opens (none _)
      | tag opens _ _ _ => exact absurd opens (none _)
  | unclosed opens never =>
      cases scannedToo with
      | plain none => exact absurd opens (none _)
      | unclosed opensToo _ =>
          cases opens.unique opensToo
          exact ⟨rfl, rfl⟩
      | tag opensToo closes _ _ =>
          cases opens.unique opensToo
          exact absurd closes (never _)
  | tag opens closes first _ ih =>
      cases scannedToo with
      | plain none => exact absurd opens (none _)
      | unclosed opensToo never =>
          cases opens.unique opensToo
          exact absurd closes (never _)
      | tag opensToo closesToo firstToo rest =>
          cases opens.unique opensToo
          cases closes_unique closes first closesToo firstToo
          obtain ⟨rfl, rfl⟩ := ih rest
          exact ⟨rfl, rfl⟩

def Stands (source : List Char) (tag : Tag) : Prop :=
  ∃ front back, source = front ++ tag.source ++ back ∧ tag.start = Text.byteLength front ∧
    ['\x7b', '\x7b'] <+: tag.source ∧ ['\x7d', '\x7d'] <:+ tag.source

theorem braces_source (tag : Tag) :
    ['\x7b', '\x7b'] <+: tag.source ∧ ['\x7d', '\x7d'] <:+ tag.source := by
  have opening : ['\x7b', '\x7b'] <+: List.replicate (Tag.braces tag.raw) '\x7b' := by
    cases tag.raw <;> decide
  have closing : ['\x7d', '\x7d'] <:+ List.replicate (Tag.braces tag.raw) '\x7d' := by
    cases tag.raw <;> decide
  constructor
  · rw [Tag.source, List.append_assoc]
    exact opening.trans (List.prefix_append _ _)
  · exact closing.trans (List.suffix_append _ _)

theorem take_append_between {source : List Char} {middle last : Nat} (late : middle ≤ last) :
    source.take middle ++ between source middle last = source.take last := by
  have split := List.take_append_drop middle (source.take last)
  rwa [List.take_take, Nat.min_eq_left late] at split

theorem between_append {source : List Char} {first middle last : Nat} (early : first ≤ middle)
    (late : middle ≤ last) (bound : middle ≤ source.length) :
    between source first middle ++ between source middle last = between source first last := by
  have reached : first ≤ (source.take middle).length := by
    rw [List.length_take]
    omega
  have split : between source first last =
      (source.take middle ++ between source middle last).drop first := by
    rw [take_append_between late]
    rfl
  rw [split, List.drop_append_of_le_length reached]
  rfl

theorem between_add_one {source : List Char} {first last : Nat} {c : Char} (early : first ≤ last)
    (next : source[last]? = some c) :
    between source first (last + 1) = between source first last ++ [c] := by
  obtain ⟨bound, _⟩ := List.getElem?_eq_some_iff.mp next
  rw [between, List.take_add_one, next, List.drop_append_of_le_length]
  · rfl
  · rw [List.length_take]
    omega

theorem offsetAt_add_one {source : List Char} {index : Nat} {c : Char}
    (next : source[index]? = some c) :
    offsetAt source (index + 1) = offsetAt source index + c.utf8Size := by
  rw [offsetAt, List.take_add_one, next, Text.byteLength_append]
  simp [offsetAt, Text.byteLength]

theorem lineAt_add_one {source : List Char} {index : Nat} {c : Char}
    (next : source[index]? = some c) :
    lineAt source (index + 1) =
      if c = '\n' then lineAt source index + 1 else lineAt source index := by
  rw [lineAt, List.take_add_one, next, List.count_append]
  split
  · next line => simp [lineAt, line, Nat.add_assoc]
  · next other => simp [lineAt, other]

theorem BracesAt.before_end {source : List Char} {brace : Char} {count index : Nat}
    (braces : BracesAt source brace (count + 1) index) : index + (count + 1) ≤ source.length := by
  obtain ⟨bound, _⟩ := List.getElem?_eq_some_iff.mp (braces count (by omega))
  omega

theorem Scanned.at_end {source : List Char} {cursor : Nat} (reached : source.length ≤ cursor) :
    Scanned source cursor [] none := by
  refine .plain fun start opens => ?_
  have later := opens.later
  have bound := opens.braces.before_end
  omega

theorem BracesAt.fewer {source : List Char} {brace : Char} {count fewer index : Nat}
    (braces : BracesAt source brace count index) (bound : fewer ≤ count) :
    BracesAt source brace fewer index :=
  fun offset below => braces offset (by omega)

theorem BracesAt.between_eq {source : List Char} {brace : Char} {count index : Nat}
    (braces : BracesAt source brace count index) :
    between source index (index + count) = List.replicate count brace := by
  induction count with
  | zero => simp [between]
  | succ count ih =>
      rw [← Nat.add_assoc, between_add_one (Nat.le_add_right _ _) (braces count (by omega)),
        ih (braces.fewer (Nat.le_succ count)), List.replicate_succ']

theorem BracesAt.source_eq {source : List Char} {brace : Char} {count index : Nat}
    (braces : BracesAt source brace count index) : source =
      source.take index ++ (List.replicate count brace ++ source.drop (index + count)) := by
  rw [← braces.between_eq, ← List.append_assoc, take_append_between (Nat.le_add_right _ _),
    List.take_append_drop]

theorem BracesAt.offsetAt_eq {source : List Char} {brace : Char} {count index : Nat}
    (braces : BracesAt source brace count index) (narrow : brace.utf8Size = 1) :
    offsetAt source (index + count) = offsetAt source index + count := by
  induction count with
  | zero => rfl
  | succ count ih =>
      rw [← Nat.add_assoc, offsetAt_add_one (braces count (by omega)), narrow,
        ih (braces.fewer (Nat.le_succ count)), Nat.add_assoc]

theorem BracesAt.lineAt_eq {source : List Char} {brace : Char} {count index : Nat}
    (braces : BracesAt source brace count index) (unbroken : brace ≠ '\n') :
    lineAt source (index + count) = lineAt source index := by
  induction count with
  | zero => rfl
  | succ count ih =>
      rw [← Nat.add_assoc, lineAt_add_one (braces count (by omega)), if_neg unbroken,
        ih (braces.fewer (Nat.le_succ count))]

theorem braces_pos (raw : Bool) : ∃ more, Tag.braces raw = more + 1 := by
  cases raw
  · exact ⟨1, rfl⟩
  · exact ⟨2, rfl⟩

theorem Opens.all {source : List Char} {cursor start : Nat} (opens : Opens source cursor start) :
    BracesAt source '\x7b' (Tag.braces (isRaw source start)) start := by
  cases kind : isRaw source start with
  | false => exact opens.braces
  | true =>
      intro offset below
      rcases Nat.lt_or_ge offset 2 with early | late
      · exact opens.braces offset early
      · have last : offset = 2 := by
          simp only [Tag.braces, ↓reduceIte] at below
          omega
        rw [last]
        simpa [isRaw] using kind

theorem Closes.end_le {source : List Char} {start close : Nat}
    (closes : Closes source start close) : tagEnd source start close ≤ source.length := by
  obtain ⟨more, count⟩ := braces_pos (isRaw source start)
  have braces := closes.braces
  rw [count] at braces
  have bound := braces.before_end
  rw [tagEnd, count]
  omega

theorem Closes.start_le {source : List Char} {start close : Nat}
    (closes : Closes source start close) : start ≤ tagEnd source start close :=
  Nat.le_trans (Nat.le_trans (Nat.le_add_right _ _) closes.later) (Nat.le_add_right _ _)

theorem contentStart_le {source : List Char} {cursor start : Nat}
    (opens : Opens source cursor start) : contentStart source start ≤ source.length := by
  obtain ⟨more, count⟩ := braces_pos (isRaw source start)
  have braces := opens.all
  rw [count] at braces
  have bound := braces.before_end
  rw [contentStart, count]
  omega

theorem source_tagAt {source : List Char} {cursor start close : Nat}
    (opens : Opens source cursor start) (closes : Closes source start close) :
    (tagAt source cursor start close).source =
      between source start (tagEnd source start close) := by
  have opening := opens.all.between_eq
  have closing := closes.braces.between_eq
  have content := closes.later
  have last := closes.end_le
  have shape : (tagAt source cursor start close).source =
      between source start (contentStart source start) ++
        between source (contentStart source start) close ++
        between source close (tagEnd source start close) := by
    rw [contentStart, opening, tagEnd, closing]
    rfl
  have early : start ≤ contentStart source start := Nat.le_add_right _ _
  have late : close ≤ tagEnd source start close := Nat.le_add_right _ _
  rw [shape, between_append early content (contentStart_le opens),
    between_append (Nat.le_trans early content) late (Nat.le_trans late last)]

theorem tagAt_end {source : List Char} {cursor start close : Nat}
    (opens : Opens source cursor start) (closes : Closes source start close) :
    (tagAt source cursor start close).start + (tagAt source cursor start close).length =
      offsetAt source (tagEnd source start close) := by
  rw [Tag.length, source_tagAt opens closes, offsetAt, ← take_append_between closes.start_le,
    Text.byteLength_append]
  rfl

theorem stands_tagAt {source : List Char} {cursor start close : Nat}
    (opens : Opens source cursor start) (closes : Closes source start close) :
    Stands source (tagAt source cursor start close) := by
  refine ⟨source.take start, source.drop (tagEnd source start close), ?_, rfl, braces_source _⟩
  rw [source_tagAt opens closes, take_append_between closes.start_le, List.take_append_drop]

theorem offsetAt_mono (source : List Char) {early late : Nat} (order : early ≤ late) :
    offsetAt source early ≤ offsetAt source late := by
  rw [offsetAt, offsetAt, ← take_append_between order, Text.byteLength_append]
  omega

theorem Scanned.layout {source : List Char} {cursor : Nat} {tags : List Tag}
    {unclosed : Option Nat} (scanned : Scanned source cursor tags unclosed) :
    tags.Pairwise (fun earlier later => earlier.start + earlier.length ≤ later.start) ∧
      ∀ tag ∈ tags, offsetAt source cursor ≤ tag.start ∧ Stands source tag := by
  induction scanned with
  | plain _ => exact ⟨.nil, by simp⟩
  | unclosed _ _ => exact ⟨.nil, by simp⟩
  | tag opens closes _ _ ih =>
      obtain ⟨ordered, standing⟩ := ih
      have ended := tagAt_end opens closes
      constructor
      · refine .cons (fun tag member => ?_) ordered
        rw [ended]
        exact (standing tag member).1
      · intro tag member
        rcases List.mem_cons.mp member with rfl | later
        · exact ⟨offsetAt_mono source opens.later, stands_tagAt opens closes⟩
        · obtain ⟨order, stands⟩ := standing tag later
          exact ⟨Nat.le_trans (offsetAt_mono source (Nat.le_trans opens.later closes.start_le))
            order, stands⟩

end TagTemplate.Leftmost
