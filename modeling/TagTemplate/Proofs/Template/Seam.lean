import TagTemplate.Proofs.Template.Reassembly

/-! Two texts one behind the other have the tags of both, if no brace ends the first. -/

namespace TagTemplate

def Tag.behind (front : List Char) (tag : Tag) : Tag :=
  { tag with
    start := Text.byteLength front + tag.start
    line := front.count '\n' + tag.line }

def Tag.after (text : List Char) (tag : Tag) : Tag :=
  { tag with
    before := text ++ tag.before
    backslashes := Leftmost.backslashes (text ++ tag.before) }

@[simp] theorem Tag.portion_behind (front : List Char) (tag : Tag) :
    (tag.behind front).portion = tag.portion := rfl

@[simp] theorem Tag.portion_after (text : List Char) (tag : Tag) :
    (tag.after text).portion = text ++ tag.portion := List.append_assoc _ _ _

namespace Leftmost

section
variable (front source : List Char) {cursor start index : Nat}

theorem getElem?_behind (index : Nat) :
    (front ++ source)[front.length + index]? = source[index]? := by
  rw [List.getElem?_append_right (Nat.le_add_right _ _), Nat.add_sub_cancel_left]

theorem take_behind (index : Nat) :
    (front ++ source).take (front.length + index) = front ++ source.take index := by
  rw [List.take_append, List.take_of_length_le (Nat.le_add_right _ _), Nat.add_sub_cancel_left]

theorem between_behind (first last : Nat) :
    between (front ++ source) (front.length + first) (front.length + last) =
      between source first last := by
  rw [between, take_behind, List.drop_append, List.drop_eq_nil_of_le (Nat.le_add_right _ _),
    Nat.add_sub_cancel_left]
  rfl

theorem offsetAt_behind (index : Nat) :
    offsetAt (front ++ source) (front.length + index) =
      Text.byteLength front + offsetAt source index := by
  rw [offsetAt, take_behind, Text.byteLength_append]
  rfl

theorem lineAt_behind (index : Nat) :
    lineAt (front ++ source) (front.length + index) = front.count '\n' + lineAt source index := by
  rw [lineAt, take_behind, List.count_append, lineAt]
  omega

theorem isRaw_behind (start : Nat) :
    isRaw (front ++ source) (front.length + start) = isRaw source start := by
  rw [isRaw, Nat.add_assoc, getElem?_behind]
  rfl

theorem contentStart_behind (start : Nat) :
    contentStart (front ++ source) (front.length + start) =
      front.length + contentStart source start := by
  rw [contentStart, isRaw_behind, Nat.add_assoc]
  rfl

theorem bracesAt_behind (brace : Char) (count index : Nat) :
    BracesAt (front ++ source) brace count (front.length + index) ↔
      BracesAt source brace count index := by
  simp only [BracesAt, Nat.add_assoc, getElem?_behind]

theorem opens_behind :
    Opens (front ++ source) (front.length + cursor) (front.length + start) ↔
      Opens source cursor start := by
  constructor
  · rintro ⟨later, braces, first⟩
    refine ⟨Nat.le_of_add_le_add_left later, (bracesAt_behind ..).mp braces, ?_⟩
    intro index early before here
    exact first (front.length + index) (Nat.add_le_add_left early _)
      (Nat.add_lt_add_left before _) ((bracesAt_behind ..).mpr here)
  · rintro ⟨later, braces, first⟩
    refine ⟨Nat.add_le_add_left later _, (bracesAt_behind ..).mpr braces, ?_⟩
    intro index early before here
    obtain ⟨place, rfl⟩ := Nat.exists_eq_add_of_le (Nat.le_of_add_right_le early)
    exact first place (Nat.le_of_add_le_add_left early) (Nat.lt_of_add_lt_add_left before)
      ((bracesAt_behind ..).mp here)

theorem closes_behind :
    Closes (front ++ source) (front.length + start) (front.length + index) ↔
      Closes source start index := by
  constructor
  · rintro ⟨later, braces, content⟩
    rw [contentStart_behind] at later content
    rw [isRaw_behind] at braces content
    rw [between_behind] at content
    exact ⟨Nat.le_of_add_le_add_left later, (bracesAt_behind ..).mp braces, content⟩
  · rintro ⟨later, braces, content⟩
    refine ⟨?_, ?_, ?_⟩
    · rw [contentStart_behind]
      exact Nat.add_le_add_left later _
    · rw [isRaw_behind]
      exact (bracesAt_behind ..).mpr braces
    · rw [isRaw_behind, contentStart_behind, between_behind]
      exact content

theorem tagAt_behind (cursor start close : Nat) :
    tagAt (front ++ source) (front.length + cursor) (front.length + start)
      (front.length + close) = (tagAt source cursor start close).behind front := by
  rw [tagAt, between_behind, offsetAt_behind, lineAt_behind, isRaw_behind, contentStart_behind,
    between_behind]
  rfl

theorem tagEnd_behind (start close : Nat) :
    tagEnd (front ++ source) (front.length + start) (front.length + close) =
      front.length + tagEnd source start close := by
  rw [tagEnd, isRaw_behind, Nat.add_assoc]
  rfl

theorem Scanned.behind {tags : List Tag} {unclosed : Option Nat}
    (scanned : Scanned source cursor tags unclosed) :
    Scanned (front ++ source) (front.length + cursor) (tags.map (Tag.behind front))
      (unclosed.map (front.count '\n' + ·)) := by
  induction scanned with
  | plain none =>
      refine .plain fun start opens => ?_
      obtain ⟨place, rfl⟩ := Nat.exists_eq_add_of_le (Nat.le_of_add_right_le opens.later)
      exact none place ((opens_behind ..).mp opens)
  | unclosed opens never =>
      rw [Option.map_some, ← lineAt_behind]
      refine .unclosed ((opens_behind ..).mpr opens) fun index closes => ?_
      have later := closes.later
      rw [contentStart_behind] at later
      obtain ⟨place, rfl⟩ := Nat.exists_eq_add_of_le (Nat.le_of_add_right_le later)
      exact never place ((closes_behind ..).mp closes)
  | tag opens closes first _ ih =>
      rw [List.map_cons, ← tagAt_behind]
      rw [← tagEnd_behind] at ih
      refine .tag ((opens_behind ..).mpr opens) ((closes_behind ..).mpr closes) ?_ ih
      intro index before closesToo
      have later := closesToo.later
      rw [contentStart_behind] at later
      obtain ⟨place, rfl⟩ := Nat.exists_eq_add_of_le (Nat.le_of_add_right_le later)
      exact first place (Nat.lt_of_add_lt_add_left before) ((closes_behind ..).mp closesToo)

end

section
variable {front back : List Char} {cursor start index : Nat}

theorem take_before (back : List Char) (fits : index ≤ front.length) :
    (front ++ back).take index = front.take index :=
  List.take_append_of_le_length fits

theorem between_before (back : List Char) (first : Nat) (fits : index ≤ front.length) :
    between (front ++ back) first index = between front first index := by
  rw [between, take_before back fits, between]

theorem bracesAt_before (back : List Char) {brace : Char} {count : Nat}
    (fits : index + count ≤ front.length) :
    BracesAt (front ++ back) brace count index ↔ BracesAt front brace count index := by
  refine forall₂_congr fun offset below => ?_
  rw [List.getElem?_append_left (by omega)]

theorem opens_before (back : List Char) (fits : start + 2 ≤ front.length) :
    Opens (front ++ back) cursor start ↔ Opens front cursor start := by
  constructor
  · rintro ⟨later, braces, first⟩
    refine ⟨later, (bracesAt_before back fits).mp braces, fun index early before here => ?_⟩
    exact first index early before ((bracesAt_before back (by omega)).mpr here)
  · rintro ⟨later, braces, first⟩
    refine ⟨later, (bracesAt_before back fits).mpr braces, fun index early before here => ?_⟩
    exact first index early before ((bracesAt_before back (by omega)).mp here)

theorem isRaw_before (back : List Char) (fits : start + 2 < front.length) :
    isRaw (front ++ back) start = isRaw front start := by
  rw [isRaw, List.getElem?_append_left fits, isRaw]

theorem contentStart_before (back : List Char) (opened : start + 2 < front.length) :
    contentStart (front ++ back) start = contentStart front start := by
  rw [contentStart, isRaw_before back opened, contentStart]

theorem Closes.inside {source : List Char} (closes : Closes source start index) :
    start + 2 < source.length ∧ index + Tag.braces (isRaw source start) ≤ source.length := by
  have last := closes.end_le
  have later := closes.later
  rw [tagEnd] at last
  rw [contentStart] at later
  have two : 2 ≤ Tag.braces (isRaw source start) := by cases isRaw source start <;> decide
  omega

theorem closes_before (back : List Char) (opened : start + 2 < front.length)
    (fits : index + Tag.braces (isRaw front start) ≤ front.length) :
    Closes (front ++ back) start index ↔ Closes front start index := by
  have content : between (front ++ back) (contentStart front start) index =
      between front (contentStart front start) index := between_before back _ (by omega)
  have same := isRaw_before back opened
  have begins := contentStart_before back opened
  constructor
  · rintro ⟨later, braces, finished⟩
    rw [begins] at later finished
    rw [same] at braces finished
    rw [content] at finished
    exact ⟨later, (bracesAt_before back fits).mp braces, finished⟩
  · rintro ⟨later, braces, finished⟩
    refine ⟨?_, ?_, ?_⟩
    · rwa [begins]
    · rw [same]
      exact (bracesAt_before back fits).mpr braces
    · rwa [same, begins, content]

theorem tagAt_before (back : List Char) {close : Nat} (closes : Closes front start close) :
    tagAt (front ++ back) cursor start close = tagAt front cursor start close := by
  obtain ⟨opened, fits⟩ := closes.inside
  have started : start ≤ front.length := by omega
  rw [tagAt, isRaw_before back opened, contentStart_before back opened,
    between_before back _ started, between_before back _ (by omega), offsetAt, lineAt,
    take_before back started]
  rfl

theorem tagEnd_before (back : List Char) {close : Nat} (opened : start + 2 < front.length) :
    tagEnd (front ++ back) start close = tagEnd front start close := by
  rw [tagEnd, isRaw_before back opened, tagEnd]

theorem exists_opens {source : List Char} (later : cursor ≤ index)
    (braces : BracesAt source '\x7b' 2 index) : ∃ start, Opens source cursor start := by
  -- a place that is not the first has one before it
  induction index using Nat.strongRecOn with
  | ind index ih =>
      by_cases first : ∀ earlier, cursor ≤ earlier → earlier < index →
          ¬ BracesAt source '\x7b' 2 earlier
      · exact ⟨index, later, braces, first⟩
      · simp only [Classical.not_forall, Classical.not_not] at first
        obtain ⟨earlier, reached, before, here⟩ := first
        exact ih earlier before reached here

theorem backslashes_behind {text : List Char} (solid : text.getLast? ≠ some '\\')
    (rest : List Char) : backslashes (text ++ rest) = backslashes rest := by
  have none : text.reverse.takeWhile (· == '\\') = [] := by
    rw [List.getLast?_eq_head?_reverse] at solid
    cases reversed : text.reverse with
    | nil => rfl
    | cons c others =>
        rw [reversed, List.head?_cons, ne_eq, Option.some.injEq] at solid
        simp [solid]
  rw [backslashes, List.reverse_append, List.takeWhile_append]
  split
  · next whole => rw [none, List.append_nil, backslashes, whole]
  · rfl

theorem opens_seam (plain : ∀ start, ¬ Opens front cursor start) (bound : cursor ≤ front.length)
    (brace : front.getLast? ≠ some '\x7b') :
    Opens (front ++ back) cursor start ↔ Opens (front ++ back) front.length start := by
  have none : ∀ index, cursor ≤ index → index < front.length →
      ¬ BracesAt (front ++ back) '\x7b' 2 index := by
    intro index early before braces
    rcases Nat.lt_or_ge (index + 1) front.length with inside | last
    · obtain ⟨first, opens⟩ := exists_opens early ((bracesAt_before back inside).mp braces)
      exact plain first opens
    -- the first brace would be the last character of the text
    · have first := braces 0 (by omega)
      rw [Nat.add_zero, List.getElem?_append_left before] at first
      refine brace ?_
      rw [List.getLast?_eq_getElem?, ← first]
      congr 1
      omega
  constructor
  · rintro ⟨later, braces, first⟩
    refine ⟨Nat.le_of_not_lt fun before => ?_, braces,
      fun index early => first index (Nat.le_trans bound early)⟩
    exact none start later before braces
  · rintro ⟨later, braces, first⟩
    refine ⟨Nat.le_trans bound later, braces, fun index early before => ?_⟩
    rcases Nat.lt_or_ge index front.length with inside | behind
    · exact none index early inside
    · exact first index behind before

theorem tagAt_seam {close : Nat} (bound : cursor ≤ front.length) (later : front.length ≤ start) :
    tagAt (front ++ back) cursor start close =
      (tagAt (front ++ back) front.length start close).after (front.drop cursor) := by
  have text : between (front ++ back) cursor start =
      front.drop cursor ++ between (front ++ back) front.length start := by
    rw [← between_append bound later (by simp), between_before back _ (Nat.le_refl _), between,
      List.take_length]
  rw [tagAt, tagAt, Tag.after, text]

theorem Scanned.seam {tags : List Tag} {unclosed : Option Nat}
    (plain : ∀ start, ¬ Opens front cursor start) (bound : cursor ≤ front.length)
    (brace : front.getLast? ≠ some '\x7b')
    (scanned : Scanned (front ++ back) front.length tags unclosed) :
    Scanned (front ++ back) cursor (tags.modifyHead (Tag.after (front.drop cursor))) unclosed := by
  cases scanned with
  | plain none =>
      exact .plain fun start opens => none start ((opens_seam plain bound brace).mp opens)
  | unclosed opens never => exact .unclosed ((opens_seam plain bound brace).mpr opens) never
  | tag opens closes first rest =>
      rw [List.modifyHead_cons, ← tagAt_seam bound opens.later]
      exact .tag ((opens_seam plain bound brace).mpr opens) closes first rest

/-- The tags of a text in which all are closed stay what they are when more text comes behind it. -/
theorem Scanned.append {tags others : List Tag} {unclosed : Option Nat}
    (scanned : Scanned front cursor tags none) (bound : cursor ≤ front.length)
    (brace : front.getLast? ≠ some '\x7b')
    (scannedToo : Scanned (front ++ back) front.length others unclosed) :
    ∃ text, tags.flatMap Tag.portion ++ text = front.drop cursor ∧
      Scanned (front ++ back) cursor (tags ++ others.modifyHead (Tag.after text)) unclosed := by
  generalize closed : (none : Option Nat) = line at scanned
  induction scanned with
  | plain none => exact ⟨front.drop _, rfl, scannedToo.seam none bound brace⟩
  | unclosed _ _ => cases closed
  | @tag cursor start close tags line opens closes first rest ih =>
      -- a tag of the first text is found as before, and the induction goes on behind it
      obtain ⟨opened, fits⟩ := closes.inside
      obtain ⟨text, whole, behind⟩ := ih closes.end_le closed
      refine ⟨text, ?_, ?_⟩
      · rw [List.flatMap_cons, List.append_assoc, whole, portion_append_drop opens closes]
      · rw [List.cons_append, ← tagAt_before back closes]
        rw [← tagEnd_before back opened] at behind
        refine .tag ((opens_before back (by omega)).mpr opens)
          ((closes_before back opened fits).mpr closes) (fun index before closesToo => ?_) behind
        exact first index before ((closes_before back opened (by omega)).mp closesToo)

end

end Leftmost

namespace Scan

variable {front : List Char}

theorem of_append (closed : (Scan.of front).unclosed = none)
    (brace : front.getLast? ≠ some '\x7b') (back : List Char) :
    (Scan.of (front ++ back)).tags = (Scan.of front).tags ++
        ((Scan.of back).tags.map (Tag.behind front)).modifyHead
          (Tag.after (Scan.of front).trailing) ∧
      (Scan.of (front ++ back)).unclosed =
        (Scan.of back).unclosed.map (front.count '\n' + ·) := by
  have first := Scan.of_scanned front
  rw [closed] at first
  have second := (Scan.of_scanned back).behind front
  rw [Nat.add_zero] at second
  obtain ⟨text, whole, both⟩ := first.append (Nat.zero_le _) brace second
  have trailing : text = (Scan.of front).trailing := by
    refine List.append_cancel_left (whole.trans ?_)
    rw [List.drop_zero, flatMap_portion_append_trailing closed]
  rw [← trailing]
  exact (Scan.of_scanned _).unique both

theorem of_append_closed {back : List Char} (closed : (Scan.of front).unclosed = none)
    (closedToo : (Scan.of back).unclosed = none) (brace : front.getLast? ≠ some '\x7b') :
    Scan.of (front ++ back) =
      ⟨(Scan.of front).tags ++ ((Scan.of back).tags.map (Tag.behind front)).modifyHead
          (Tag.after (Scan.of front).trailing),
        (if (Scan.of back).tags = [] then (Scan.of front).trailing else []) ++
          (Scan.of back).trailing, none⟩ := by
  obtain ⟨tags, unclosed⟩ := of_append closed brace back
  have scanned := Scan.of_scanned (front ++ back)
  rw [tags, unclosed, closedToo, Option.map_none] at scanned
  refine of_eq scanned ?_
  have whole := flatMap_portion_append_trailing closed
  have wholeToo := flatMap_portion_append_trailing closedToo
  cases tagsToo : (Scan.of back).tags with
  | nil =>
      rw [tagsToo, List.flatMap_nil, List.nil_append] at wholeToo
      rw [List.map_nil, List.modifyHead_nil, List.append_nil, if_pos rfl, ← List.append_assoc,
        whole, wholeToo]
  | cons tag rest =>
      have longer : (((tag :: rest).map (Tag.behind front)).modifyHead
          (Tag.after (Scan.of front).trailing)).flatMap Tag.portion =
            (Scan.of front).trailing ++ (tag :: rest).flatMap Tag.portion := by
        simp [List.flatMap_map]
      rw [tagsToo] at wholeToo
      rw [if_neg (List.cons_ne_nil tag rest), List.flatMap_append, longer, List.nil_append,
        List.append_assoc, List.append_assoc, wholeToo, ← List.append_assoc, whole]

end Scan

theorem Leftmost.Scanned.backslashes_eq {source : List Char} {cursor : Nat} {tags : List Tag}
    {unclosed : Option Nat} (scanned : Scanned source cursor tags unclosed) :
    ∀ tag ∈ tags, tag.backslashes = backslashes tag.before := by
  induction scanned with
  | plain _ => simp
  | unclosed _ _ => simp
  | tag _ _ _ _ ih => exact List.forall_mem_cons.mpr ⟨rfl, ih⟩

theorem Leftmost.backslashes_le (text : List Char) : backslashes text ≤ text.length := by
  have shorter := (List.takeWhile_prefix (l := text.reverse) (· == '\\')).length_le
  rwa [List.length_reverse] at shorter

end TagTemplate
