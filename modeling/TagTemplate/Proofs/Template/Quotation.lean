import TagTemplate.Proofs.Template.Composition

/-! Each text without an open tag has a template that renders it as it is. -/

namespace TagTemplate

open Leftmost

namespace Leftmost

def Unopened (text : List Char) : Prop := ∀ index, ¬ BracesAt text '\x7b' 2 index

theorem Unopened.scanned {text : List Char} (unopened : Unopened text) : Scanned text 0 [] none :=
  .plain fun start opens => unopened start opens.braces

theorem Unopened.front {text rest : List Char} (unopened : Unopened (text ++ rest)) :
    Unopened text := by
  intro index braces
  have fits : index + 2 ≤ text.length := braces.before_end
  exact unopened index ((bracesAt_before rest fits).mpr braces)

theorem Unopened.append {text : List Char} (unopened : Unopened text) (count : Nat) :
    Unopened (text ++ List.replicate count '\\') := by
  induction count with
  | zero => simpa using unopened
  | succ count ih =>
      rw [List.replicate_succ', ← List.append_assoc]
      intro index braces
      have bound := braces.before_end
      rw [List.length_append, List.length_singleton] at bound
      rcases Nat.lt_or_ge (index + 1) (text ++ List.replicate count '\\').length with inside | last
      · exact ih index ((bracesAt_before _ inside).mp braces)
      · have brace := braces 1 (by omega)
        have zero : index + 1 - (text ++ List.replicate count '\\').length = 0 := by omega
        rw [List.getElem?_append_right last, zero] at brace
        simp at brace

structure Detached (tag : Tag) : Prop where
  counted : tag.backslashes = backslashes tag.before
  unopened : Unopened tag.before
  alone : ∃ other, Scan.of tag.source = ⟨[other], [], none⟩ ∧ other.before = [] ∧
    other.source = tag.source

theorem unopened_between {source : List Char} {first last : Nat} (order : first ≤ last)
    (bound : last ≤ source.length)
    (none : ∀ index, first ≤ index → index < last → ¬ BracesAt source '\x7b' 2 index) :
    Unopened (between source first last) := by
  intro index braces
  have reached := List.length_take_of_le (Nat.le_trans order bound)
  -- braces in the part stand in the text as well, as many characters further on
  have behind := (bracesAt_behind (source.take first) _ _ _ index).mpr braces
  rw [take_append_between order, reached] at behind
  have fits := behind.before_end
  have here : BracesAt source '\x7b' 2 (first + index) := by
    rw [← List.take_append_drop last source]
    exact (bracesAt_before _ fits).mpr behind
  rw [List.length_take] at fits
  exact none (first + index) (Nat.le_add_right _ _) (by omega) here

theorem scan_cut {source front written back : List Char} {start close : Nat}
    (shape : source = front ++ (written ++ back)) (reached : front.length = start)
    (braces : BracesAt source '\x7b' 2 start) (closes : Closes source start close)
    (first : ∀ index < close, ¬ Closes source start index)
    (ended : tagEnd source start close = start + written.length) :
    ∃ other, Scan.of written = ⟨[other], [], none⟩ ∧ other.before = [] ∧
      other.source = written := by
  subst shape reached
  obtain ⟨place, rfl⟩ := Nat.exists_eq_add_of_le (Nat.le_of_add_right_le closes.later)
  have behind : Closes (written ++ back) 0 place := (closes_behind front _).mp closes
  have length : tagEnd (written ++ back) 0 place = written.length :=
    Nat.add_left_cancel ((tagEnd_behind front (written ++ back) 0 place).symm.trans ended)
  have opened : 0 + 2 < written.length := by
    have two : ∀ raw, 2 ≤ Tag.braces raw := by decide
    have enough := two (isRaw (written ++ back) 0)
    have later := behind.later
    rw [contentStart] at later
    rw [tagEnd] at length
    omega
  rw [tagEnd_before back opened] at length
  have bracesBehind := (bracesAt_behind front (written ++ back) _ _ 0).mp braces
  have opens := ((bracesAt_before back (Nat.le_of_lt opened)).mp bracesBehind).opens
  have alone := (closes_before back opened (Nat.le_of_eq length)).mp behind
  have firstAlone : ∀ index < place, ¬ Closes written 0 index := by
    intro index before closesToo
    have closesBehind := (closes_before back opened closesToo.inside.2).mpr closesToo
    exact first (front.length + index) (Nat.add_lt_add_left before _)
      ((closes_behind front _).mpr closesBehind)
  have whole := source_tagAt opens alone
  rw [length, between, List.take_length, List.drop_zero] at whole
  exact ⟨_, Scan.of_only opens alone firstAlone length, by simp [tagAt, between], whole⟩

theorem Scanned.detached {source : List Char} {cursor : Nat} {tags : List Tag}
    (scanned : Scanned source cursor tags none) (bound : cursor ≤ source.length) :
    (∀ tag ∈ tags, Detached tag) ∧
      ∃ text, tags.flatMap Tag.portion ++ text = source.drop cursor ∧ Unopened text := by
  generalize closed : (none : Option Nat) = line at scanned
  induction scanned with
  | plain none =>
      have unopened := unopened_between bound (Nat.le_refl _) fun index early _ braces =>
        (exists_opens early braces).elim none
      rw [between, List.take_length] at unopened
      exact ⟨by simp, source.drop _, rfl, unopened⟩
  | unclosed _ _ => cases closed
  | @tag cursor start close tags line opens closes first rest ih =>
      obtain ⟨others, text, whole, unopened⟩ := ih closes.end_le closed
      have within := Nat.le_trans closes.start_le closes.end_le
      have reached : (source.take start).length = start := List.length_take_of_le within
      have written := source_tagAt opens closes
      have shape : source = source.take start ++ ((tagAt source cursor start close).source ++
          source.drop (tagEnd source start close)) := by
        rw [written, ← List.append_assoc, take_append_between closes.start_le,
          List.take_append_drop]
      have ended : tagEnd source start close =
          start + (tagAt source cursor start close).source.length := by
        have late := closes.start_le
        have last := closes.end_le
        rw [written, between, List.length_drop, List.length_take]
        omega
      refine ⟨List.forall_mem_cons.mpr ⟨⟨rfl, ?_, ?_⟩, others⟩, text, ?_, unopened⟩
      · exact unopened_between opens.later within opens.first
      · exact scan_cut shape reached opens.braces closes first ended
      · rw [List.flatMap_cons, List.append_assoc, whole, portion_append_drop opens closes]

theorem backslashes_replicate {text : List Char} (solid : text.getLast? ≠ some '\\') (count : Nat) :
    backslashes (text ++ List.replicate count '\\') = count := by
  rw [backslashes_behind solid, backslashes, List.reverse_replicate]
  simp

theorem exists_solid (text : List Char) :
    ∃ solid, text = solid ++ List.replicate (backslashes text) '\\' ∧
      solid.getLast? ≠ some '\\' := by
  have run : text.reverse.takeWhile (· == '\\') = List.replicate (backslashes text) '\\' := by
    refine List.eq_replicate_iff.mpr ⟨rfl, fun c member => ?_⟩
    exact eq_of_beq (List.all_eq_true.mp List.all_takeWhile c member)
  refine ⟨(text.reverse.dropWhile (· == '\\')).reverse, ?_, ?_⟩
  · rw [← List.reverse_replicate, ← run, ← List.reverse_append, List.takeWhile_append_dropWhile,
      List.reverse_reverse]
  · have other := List.head?_dropWhile_not (· == '\\') text.reverse
    rw [List.getLast?_reverse]
    intro same
    rw [same] at other
    simp at other

end Leftmost

def Tag.stem (tag : Tag) : List Char := tag.before.take (tag.before.length - tag.backslashes)

/-- A tag and the text in front of it, with one more than twice the backslashes between them. -/
def Tag.quoted (tag : Tag) : List Char :=
  tag.stem ++ List.replicate (2 * tag.backslashes + 1) '\\' ++ tag.source

def Scan.quoted (scan : Scan) : List Char := scan.tags.flatMap Tag.quoted ++ scan.trailing

def quote (source : String) : String := String.ofList (Scan.of source.toList).quoted

theorem Tag.stem_append {tag : Tag}
    (counted : tag.backslashes = Leftmost.backslashes tag.before) :
    tag.stem ++ List.replicate tag.backslashes '\\' = tag.before ∧
      tag.stem.getLast? ≠ some '\\' := by
  obtain ⟨solid, whole, last⟩ := exists_solid tag.before
  rw [← counted] at whole
  have length := congrArg List.length whole
  rw [List.length_append, List.length_replicate] at length
  have stem : tag.stem = solid := by
    rw [stem, Nat.sub_eq_of_eq_add length, whole, List.take_left]
  rw [stem]
  exact ⟨whole.symm, last⟩

theorem Scan.of_unopened {text : List Char} (unopened : Unopened text) :
    Scan.of text = ⟨[], text, none⟩ :=
  Scan.of_eq unopened.scanned rfl

theorem Leftmost.Detached.scan {tag : Tag} (detached : Detached tag) {text : List Char}
    (unopened : Unopened text) (brace : text.getLast? ≠ some '\x7b') :
    ∃ only, Scan.of (text ++ tag.source) = ⟨[only], [], none⟩ ∧ only.before = text ∧
      only.backslashes = backslashes text ∧ only.source = tag.source := by
  obtain ⟨other, alone, before, source⟩ := detached.alone
  have front := Scan.of_unopened unopened
  have closed : (Scan.of text).unclosed = none := by rw [front]
  obtain ⟨tags, unclosed⟩ := Scan.of_append closed brace tag.source
  have scanned := Scan.of_scanned (text ++ tag.source)
  rw [tags, unclosed, front, alone] at scanned
  refine ⟨(other.behind text).after text, Scan.of_eq scanned ?_, ?_, ?_, source⟩
  · have portion : ((other.behind text).after text).portion = text ++ tag.source := by
      rw [Tag.portion_after, Tag.portion_behind, Tag.portion, before, source, List.nil_append]
    simp [portion]
  · rw [Tag.after, Tag.behind, before, List.append_nil]
  · rw [Tag.after, Tag.behind, before, List.append_nil]

section
variable (data : Value)

theorem Leftmost.Detached.shows {tag : Tag} (detached : Detached tag) :
    (Scan.of tag.quoted).Shows data tag.portion := by
  obtain ⟨whole, solid⟩ := Tag.stem_append detached.counted
  have front : Unopened tag.stem := by
    have unopened := detached.unopened
    rw [← whole] at unopened
    exact unopened.front
  obtain ⟨only, scan, before, backslashes, source⟩ :=
    detached.scan (front.append (2 * tag.backslashes + 1)) (by simp [List.replicate_succ'])
  rw [backslashes_replicate solid] at backslashes
  have escaped : only.isEscaped = true := by
    rw [Tag.isEscaped, backslashes, beq_iff_eq]
    omega
  -- half of the longer run, rounded down, is the run that stood there
  have text : Template.textBefore only = tag.before := by
    have half : (2 * tag.backslashes + 1) / 2 = tag.backslashes := by omega
    rw [Template.textBefore, before, backslashes, half, List.length_append,
      List.length_replicate, Nat.add_sub_cancel, List.take_left, whole]
  have shows : ShowsAll data [only] tag.portion := by
    have all : ShowsAll data [only] _ := .cons (.literal escaped) .nil
    rwa [text, source, List.append_nil] at all
  rw [Tag.quoted, scan]
  exact ⟨rfl, tag.portion, shows, (List.append_nil _).symm⟩

theorem Tag.getLast?_quoted (tag : Tag) : tag.quoted.getLast? = some '\x7d' := by
  obtain ⟨front, source⟩ := (braces_source tag).2
  rw [quoted, ← source]
  simp [List.getLast?_append]

theorem shows_quoted {tags : List Tag} {text : List Char} (detached : ∀ tag ∈ tags, Detached tag)
    (unopened : Unopened text) :
    (Scan.of (tags.flatMap Tag.quoted ++ text)).Shows data (tags.flatMap Tag.portion ++ text) := by
  induction tags with
  | nil =>
      rw [List.flatMap_nil, List.flatMap_nil, List.nil_append, Scan.of_unopened unopened]
      exact ⟨rfl, [], .nil, rfl⟩
  | cons tag rest ih =>
      obtain ⟨first, others⟩ := List.forall_mem_cons.mp detached
      have shows := first.shows data
      have last := tag.getLast?_quoted
      rw [List.flatMap_cons, List.flatMap_cons, List.append_assoc, List.append_assoc]
      refine (Scan.shows_append shows.1 ?_ ?_).mpr ⟨_, _, shows, ih others, rfl⟩
      · simp [last]
      · simp [last]

end

/-- A text in which all tags are closed renders to itself when each is escaped, whatever they ask
for. -/
theorem render_quote {source : String} (closed : (Scan.of source.toList).unclosed = none)
    (data : Value) : render (quote source) data = .ok source := by
  have scanned := Scan.of_scanned source.toList
  rw [closed] at scanned
  obtain ⟨detached, text, whole, unopened⟩ := scanned.detached (Nat.zero_le _)
  have together := Scan.flatMap_portion_append_trailing closed
  rw [List.drop_zero] at whole
  have trailing : text = (Scan.of source.toList).trailing :=
    List.append_cancel_left (whole.trans together.symm)
  subst trailing
  rw [render_eq_ok_iff, quote, String.toList_ofList, Scan.quoted]
  have shows := shows_quoted data detached unopened
  rwa [whole] at shows

theorem sections_quoted :
    let source := "\\\x7b\x7b#each x\x7d\x7d\x7b\x7b> y\x7d\x7d\n" ++
      "\x7b\x7b!-- \x7d\x7d --\x7d\x7d \\\\\x7b\x7b\x7b'a\x7d\x7d\x7d\x7b"
    let quoted := "\\\\\\\x7b\x7b#each x\x7d\x7d\\\x7b\x7b> y\x7d\x7d\n" ++
      "\\\x7b\x7b!-- \x7d\x7d --\x7d\x7d \\\\\\\\\\\x7b\x7b\x7b'a\x7d\x7d\x7d\x7b"
    (Scan.of source.toList).unclosed = none ∧ quote source = quoted ∧
      render (quote source) .null = .ok source := by
  intro source quoted
  have closed : (Scan.of source.toList).unclosed = none := by decide +kernel
  have same : quote source = quoted := by decide +kernel
  exact ⟨closed, same, render_quote closed .null⟩

end TagTemplate
