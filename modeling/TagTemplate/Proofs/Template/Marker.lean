import TagTemplate.Proofs.Template.Asking
import TagTemplate.Proofs.Template.Lone
import TagTemplate.Proofs.Text

/-! Markers for white space at the ends of a tag change neither where it ends nor what it asks
for. -/

namespace TagTemplate

open Leftmost

def Tag.marked (front back : Bool) (content : List Char) : List Char :=
  (if front then ['~'] else []) ++ content ++ (if back then ['~'] else [])

namespace Leftmost

section
variable {content front : List Char}

theorem OpenComment.of_marker (comment : OpenComment ('~' :: content)) : OpenComment content := by
  obtain ⟨text, shape | shape, ends⟩ := comment
  · simp at shape
  · exact ⟨text, .inl (List.cons.inj shape).2, ends⟩

theorem OpenComment.marker (comment : OpenComment content) (unmarked : '~' ∉ content) :
    OpenComment ('~' :: content) := by
  obtain ⟨text, rfl | rfl, ends⟩ := comment
  · exact ⟨text, .inr rfl, ends⟩
  · simp at unmarked

theorem exists_concat_of_beginning {beginning text : List Char}
    (last : beginning.getLast? ≠ some '~') (whole : content ++ ['~'] = beginning ++ text) :
    ∃ inner, text = inner ++ ['~'] ∧ content = beginning ++ inner := by
  rcases List.eq_nil_or_concat text with rfl | ⟨inner, c, rfl⟩
  · rw [List.append_nil] at whole
    rw [← whole] at last
    simp at last
  · rw [List.concat_eq_append, ← List.append_assoc] at whole
    obtain ⟨rfl, same⟩ := List.append_inj' whole rfl
    exact ⟨inner, by rw [List.concat_eq_append, same], rfl⟩

theorem OpenComment.of_concat (comment : OpenComment (content ++ ['~']))
    (single : ¬ ['-', '-', '~'] <:+ content) : OpenComment content := by
  obtain ⟨text, whole, -, marked⟩ := comment
  obtain ⟨inner, rfl, shape⟩ : ∃ inner, text = inner ++ ['~'] ∧
      (content = ['!', '-', '-'] ++ inner ∨ content = ['~', '!', '-', '-'] ++ inner) := by
    rcases whole with whole | whole
    · obtain ⟨inner, last, rest⟩ := exists_concat_of_beginning (by simp) whole
      exact ⟨inner, last, .inl rest⟩
    · obtain ⟨inner, last, rest⟩ := exists_concat_of_beginning (by simp) whole
      exact ⟨inner, last, .inr rest⟩
  refine ⟨inner, shape, ?_, fun ends => single (ends.trans ?_)⟩
  · rintro ⟨more, rfl⟩
    exact marked ⟨more, by simp⟩
  · rcases shape with rfl | rfl <;> exact List.suffix_append _ _

theorem closing_false : Tag.closing false = ['\x7d', '\x7d'] := rfl

theorem Standalone.marker (standalone : Standalone false content) (unmarked : '~' ∉ content) :
    Standalone false ('~' :: content) where
  double := by simp
  finished double comment := standalone.finished double comment.of_marker
  commented front closing other := by
    cases front with
    | nil => simp [closing_false, List.cons_prefix_cons] at closing
    | cons c front =>
        obtain ⟨rfl, behind⟩ := List.cons_prefix_cons.mp closing
        have within : front <+: content := prefix_of_closing behind
        have comment := (standalone.commented front behind fun same => other (same ▸ rfl)).2
        exact ⟨rfl, comment.marker fun member => unmarked (within.subset member)⟩

theorem prefix_of_closing_concat
    (closing : front ++ Tag.closing false <+: content ++ ['~'] ++ Tag.closing false)
    (other : front ≠ content ++ ['~']) : front ++ Tag.closing false <+: content := by
  obtain ⟨more, rfl⟩ :=
    (List.prefix_concat_iff.mp (prefix_of_closing closing)).resolve_left other
  rw [List.append_assoc, List.append_assoc, List.prefix_append_right_inj, closing_false] at closing
  rw [List.prefix_append_right_inj, closing_false]
  -- the marker is no brace, so both braces come before it
  cases more with
  | nil => simp at closing
  | cons c rest =>
      cases rest with
      | nil => simp at closing
      | cons d rest => simpa using closing

theorem Standalone.concat (standalone : Standalone false content)
    (single : ¬ ['-', '-', '~'] <:+ content) : Standalone false (content ++ ['~']) where
  double := by
    cases content with
    | nil => simp
    | cons c rest => exact standalone.double
  finished double comment := standalone.finished double (comment.of_concat single)
  commented front closing other := by
    have behind := prefix_of_closing_concat closing other
    refine standalone.commented front (behind.trans (List.prefix_append _ _)) ?_
    rintro rfl
    have shorter := behind.length_le
    rw [List.length_append] at shorter
    exact Nat.not_succ_le_self _ (Nat.le_of_succ_le shorter)

theorem Standalone.marked (standalone : Standalone false content) (unmarked : '~' ∉ content)
    (front back : Bool) : Standalone false (Tag.marked front back content) := by
  have single : ¬ ['-', '-', '~'] <:+ content := fun ends => unmarked (ends.subset (by simp))
  have singleToo : ¬ ['-', '-', '~'] <:+ '~' :: content := by
    rw [List.suffix_cons_iff, not_or]
    exact ⟨by simp, single⟩
  cases front with
  | false =>
      cases back with
      | false => simpa [Tag.marked] using standalone
      | true => exact standalone.concat single
  | true =>
      cases back with
      | false => simpa [Tag.marked] using standalone.marker unmarked
      | true => exact (standalone.marker unmarked).concat singleToo

end

end Leftmost

namespace Tag

theorem isBlank_marker : Unicode.isBlank '~' = false := by decide

section
variable (front back : Bool) (content : List Char)

theorem exists_dropWhile_marked : ∃ body,
    (marked front back content).dropWhile Unicode.isBlank = marked front back body ∧
      body ⊆ content ∧ Text.trim body = Text.trim content := by
  cases front with
  | false =>
      have stops : ∀ c ∈ (if back then ['~'] else []).head?, Unicode.isBlank c = false := by
        cases back <;> simp [isBlank_marker]
      exact ⟨content.dropWhile Unicode.isBlank, Text.dropWhile_append_stopped stops content,
        List.dropWhile_subset _, Text.trim_dropWhile content⟩
  | true => exact ⟨content, rfl, List.Subset.refl _, rfl⟩

theorem exists_dropEndWhile_marked : ∃ body,
    Text.dropEndWhile Unicode.isBlank (marked front back content) = marked front back body ∧
      body ⊆ content ∧ Text.trim body = Text.trim content := by
  cases back with
  | false =>
      have stops : ∀ c ∈ (if front then ['~'] else []).getLast?, Unicode.isBlank c = false := by
        cases front <;> simp [isBlank_marker]
      obtain ⟨blank, whole, -⟩ := Text.exists_dropEndWhile Unicode.isBlank content
      refine ⟨Text.dropEndWhile Unicode.isBlank content, ?_, ?_, Text.trim_dropEndWhile content⟩
      · simpa [marked] using Text.dropEndWhile_append_stopped stops content
      · intro c member
        rw [whole]
        exact List.mem_append_left blank member
  | true =>
      have stops : ∀ c ∈ (marked front true content).getLast?, Unicode.isBlank c = false := by
        simp [marked, isBlank_marker]
      have all := Text.dropEndWhile_append_stopped stops []
      rw [List.append_nil] at all
      exact ⟨content, all.trans (List.append_nil _), List.Subset.refl _, rfl⟩

end

section
variable {content : List Char} (unmarked : '~' ∉ content) (front back : Bool)
include unmarked

theorem strip_marked :
    Text.dropEndWhile (· == '~') ((marked front back content).dropWhile (· == '~')) = content := by
  have marker : ∀ (set : Bool), ∀ c ∈ (if set then ['~'] else []), (c == '~') = true := by
    intro set
    cases set <;> simp
  exact Text.dropEndWhile_dropWhile_surrounded (marker front) (marker back)
    (Text.beq_eq_false_of_notMem unmarked)

theorem meaning_marked : meaning (marked front back content) = Text.trim content := by
  obtain ⟨inner, started, part, same⟩ := exists_dropWhile_marked front back content
  obtain ⟨body, ended, partToo, sameToo⟩ := exists_dropEndWhile_marked front back inner
  have plain : '~' ∉ body := fun member => unmarked (part (partToo member))
  have trimmed : Text.trim (marked front back content) = marked front back body := by
    rw [Text.trim, started, ended]
  rw [meaning, trimmed, strip_marked plain, sameToo, same]

end

theorem kind_lone (content : List Char) :
    (lone false content).kind = kindOfMeaning (meaning content) := by
  rw [kind, kindOf]
  exact if_neg Bool.false_ne_true

end Tag

/-- Markers for white space at the ends of a tag in double braces leave it whole, and change nothing
in what it asks for: that is still what the text between the markers says. -/
theorem scan_marked {content : List Char} {tag : Tag} (unmarked : '~' ∉ content)
    (scan : Scan.of (Tag.lone false content).source = ⟨[tag], [], none⟩) (double : tag.raw = false)
    (front back : Bool) :
    let other := Tag.lone false (Tag.marked front back content)
    Scan.of other.source = ⟨[other], [], none⟩ ∧ other.kind = tag.kind ∧
      Tag.AsksIn false content other.kind := by
  intro other
  obtain ⟨standalone, rfl⟩ := standalone_of_scan scan double
  have plain : Tag.meaning content = Text.trim content := by
    simpa [Tag.marked] using Tag.meaning_marked unmarked false false
  have same : other.kind = (Tag.lone false content).kind := by
    rw [Tag.kind_lone, Tag.kind_lone, plain, Tag.meaning_marked unmarked]
  exact ⟨(standalone.marked unmarked front back).scan, same, Tag.kind_eq_iff.mp same.symm⟩

theorem scan_marked_comment :
    let tag := Tag.lone false "!-- a \x7d\x7d b --".toList
    let other := Tag.lone false "~!-- a \x7d\x7d b --~".toList
    '~' ∉ tag.content ∧ Scan.of tag.source = ⟨[tag], [], none⟩ ∧ tag.raw = false ∧
      Scan.of other.source = ⟨[other], [], none⟩ ∧ other.kind = .comment := by
  intro tag other
  have unmarked : '~' ∉ "!-- a \x7d\x7d b --".toList := by decide
  have scan : Scan.of tag.source = ⟨[tag], [], none⟩ := by decide +kernel
  obtain ⟨whole, same, -⟩ := scan_marked unmarked scan rfl true true
  exact ⟨unmarked, scan, rfl, whole, same.trans (by decide +kernel)⟩

end TagTemplate
