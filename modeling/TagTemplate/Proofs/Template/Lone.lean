import TagTemplate.Proofs.Template.Seam

/-! A text that is all one tag: which contents make one, and that the tag is as it is written. -/

namespace TagTemplate

open Leftmost

def Tag.lone (raw : Bool) (content : List Char) : Tag := ⟨[], 0, 0, 1, raw, content⟩

def Tag.closing (raw : Bool) : List Char := List.replicate (Tag.braces raw) '\x7d'

theorem Tag.source_lone_inj {raw : Bool} {content other : List Char}
    (same : (Tag.lone raw content).source = (Tag.lone raw other).source) : content = other :=
  List.append_cancel_left (List.append_cancel_right same)

namespace Leftmost

/-- Content that ends at the first closing braces behind it: those in front of them stand in a
comment. -/
structure Standalone (raw : Bool) (content : List Char) : Prop where
  double : raw = false → content.head? ≠ some '\x7b'
  finished : raw = false → ¬ OpenComment content
  commented : ∀ front, front ++ Tag.closing raw <+: content ++ Tag.closing raw → front ≠ content →
    raw = false ∧ OpenComment front

theorem bracesAt_zero {source : List Char} {brace : Char} {count : Nat} :
    BracesAt source brace count 0 ↔ List.replicate count brace <+: source := by
  constructor
  · intro braces
    exact ⟨source.drop (0 + count), braces.source_eq.symm⟩
  · rintro ⟨rest, rfl⟩ offset below
    rw [Nat.zero_add, List.getElem?_append_left (by simpa using below), List.getElem?_replicate,
      if_pos below]

theorem bracesAt_length {source front : List Char} {brace : Char} {count : Nat}
    (within : front <+: source) :
    BracesAt source brace count front.length ↔ front ++ List.replicate count brace <+: source := by
  obtain ⟨rest, rfl⟩ := within
  rw [← Nat.add_zero front.length, bracesAt_behind, bracesAt_zero, List.prefix_append_right_inj]

section
variable {raw : Bool} {content front : List Char} {tag : Tag}

theorem prefix_of_closing (closing : front ++ Tag.closing raw <+: content ++ Tag.closing raw) :
    front <+: content := by
  have shorter := closing.length_le
  rw [List.length_append, List.length_append] at shorter
  exact List.prefix_of_prefix_length_le ((List.prefix_append _ _).trans closing)
    (List.prefix_append _ _) (Nat.le_of_add_le_add_right shorter)

theorem opens_lone (raw : Bool) (content : List Char) :
    Opens (Tag.lone raw content).source 0 0 := by
  refine BracesAt.opens fun offset below => ?_
  obtain rfl | rfl : offset = 0 ∨ offset = 1 := by omega
  · cases raw <;> rfl
  · cases raw <;> rfl

theorem isRaw_lone (raw : Bool) (content : List Char) :
    isRaw (Tag.lone raw content).source 0 = (raw || content.head? == some '\x7b') := by
  cases raw with
  | true => rfl
  | false => cases content <;> rfl

theorem isRaw_lone_iff :
    isRaw (Tag.lone raw content).source 0 = raw ↔ (raw = false → content.head? ≠ some '\x7b') := by
  rw [isRaw_lone]
  cases raw <;> simp

theorem tagAt_lone (source : List Char) (close : Nat) : tagAt source 0 0 close =
    Tag.lone (isRaw source 0) (between source (contentStart source 0) close) := rfl

section
variable (kind : isRaw (Tag.lone raw content).source 0 = raw)
include kind

theorem tagEnd_lone : tagEnd (Tag.lone raw content).source 0 (Tag.braces raw + content.length) =
    (Tag.lone raw content).source.length := by
  rw [tagEnd, kind]
  simp [Tag.lone, Tag.source, Nat.add_assoc]

theorem contentStart_lone : contentStart (Tag.lone raw content).source 0 = Tag.braces raw := by
  rw [contentStart, kind, Nat.zero_add]

theorem exists_front_of_closes {index : Nat}
    (closes : Closes (Tag.lone raw content).source 0 index)
    (before : index ≤ Tag.braces raw + content.length) :
    ∃ front, front <+: content ∧ index = Tag.braces raw + front.length := by
  have later := closes.later
  rw [contentStart_lone kind] at later
  obtain ⟨place, rfl⟩ := Nat.exists_eq_add_of_le later
  refine ⟨content.take place, List.take_prefix _ _, ?_⟩
  rw [List.length_take_of_le (Nat.le_of_add_le_add_left before)]

theorem closes_lone (within : front <+: content) :
    Closes (Tag.lone raw content).source 0 (Tag.braces raw + front.length) ↔
      front ++ Tag.closing raw <+: content ++ Tag.closing raw ∧
        (raw = false → ¬ OpenComment front) := by
  have opening : (List.replicate (Tag.braces raw) '\x7b').length = Tag.braces raw :=
    List.length_replicate
  have shape : (Tag.lone raw content).source =
      List.replicate (Tag.braces raw) '\x7b' ++ (content ++ Tag.closing raw) :=
    List.append_assoc _ _ _
  have reached : front <+: content ++ Tag.closing raw := within.trans (List.prefix_append _ _)
  have braces : BracesAt (Tag.lone raw content).source '\x7d' (Tag.braces raw)
      (Tag.braces raw + front.length) ↔
        front ++ Tag.closing raw <+: content ++ Tag.closing raw := by
    have behind := bracesAt_behind (List.replicate (Tag.braces raw) '\x7b')
      (content ++ Tag.closing raw) '\x7d' (Tag.braces raw) front.length
    rw [opening, ← shape] at behind
    exact behind.trans (bracesAt_length reached)
  have inner : between (Tag.lone raw content).source (Tag.braces raw)
      (Tag.braces raw + front.length) = front := by
    have behind := between_behind (List.replicate (Tag.braces raw) '\x7b')
      (content ++ Tag.closing raw) 0 front.length
    rw [opening, ← shape] at behind
    exact behind.trans (List.prefix_iff_eq_take.mp reached).symm
  constructor
  · rintro ⟨-, closing, finished⟩
    rw [contentStart_lone kind, inner, kind] at finished
    rw [kind] at closing
    exact ⟨braces.mp closing, finished⟩
  · rintro ⟨closing, finished⟩
    refine ⟨?_, ?_, ?_⟩
    · rw [contentStart_lone kind]
      exact Nat.le_add_right _ _
    · rw [kind]
      exact braces.mpr closing
    · rwa [contentStart_lone kind, inner, kind]

theorem standalone_of_closes
    (closes : Closes (Tag.lone raw content).source 0 (Tag.braces raw + content.length))
    (first : ∀ index < Tag.braces raw + content.length,
      ¬ Closes (Tag.lone raw content).source 0 index) : Standalone raw content := by
  refine ⟨isRaw_lone_iff.mp kind, ((closes_lone kind List.prefix_rfl).mp closes).2,
    fun front closing other => ?_⟩
  have within := prefix_of_closing closing
  have shorter : front.length < content.length :=
    Nat.lt_of_not_le fun late => other (within.eq_of_length_le late)
  have never := first _ (Nat.add_lt_add_left shorter _)
  rw [closes_lone kind within, not_and] at never
  simpa using never closing

end

theorem Standalone.scan (standalone : Standalone raw content) :
    Scan.of (Tag.lone raw content).source = ⟨[Tag.lone raw content], [], none⟩ := by
  have kind : isRaw (Tag.lone raw content).source 0 = raw := isRaw_lone_iff.mpr standalone.double
  have opens := opens_lone raw content
  have closes := (closes_lone kind List.prefix_rfl).mpr ⟨List.prefix_rfl, standalone.finished⟩
  have first : ∀ index < Tag.braces raw + content.length,
      ¬ Closes (Tag.lone raw content).source 0 index := by
    intro index before closesToo
    obtain ⟨front, within, rfl⟩ := exists_front_of_closes kind closesToo (Nat.le_of_lt before)
    obtain ⟨closing, finished⟩ := (closes_lone kind within).mp closesToo
    have other : front ≠ content := by
      rintro rfl
      exact Nat.lt_irrefl _ before
    obtain ⟨double, comment⟩ := standalone.commented front closing other
    exact finished double comment
  have ended := tagEnd_lone kind
  have whole := source_tagAt opens closes
  rw [ended, between, List.take_length, List.drop_zero, tagAt_lone, kind] at whole
  have inner := Tag.source_lone_inj whole
  rw [Scan.of_only opens closes first ended, tagAt_lone, kind, inner]

theorem standalone_of_scan
    (scan : Scan.of (Tag.lone raw content).source = ⟨[tag], [], none⟩) (same : tag.raw = raw) :
    Standalone raw content ∧ tag = Tag.lone raw content := by
  have closed : (Scan.of (Tag.lone raw content).source).unclosed = none := by rw [scan]
  have scanned := Scan.of_scanned (Tag.lone raw content).source
  have whole := Scan.flatMap_portion_append_trailing closed
  rw [scan] at scanned whole
  cases scanned with
  | @tag _ start close _ _ opens closes first _ =>
      cases opens.unique (opens_lone raw content)
      have kind : isRaw (Tag.lone raw content).source 0 = raw := same
      rw [tagAt_lone, kind] at whole ⊢
      simp only [List.flatMap_cons, List.flatMap_nil, List.append_nil] at whole
      have inner := Tag.source_lone_inj whole
      have ended : close = Tag.braces raw + content.length := by
        have later := closes.later
        have last := closes.end_le
        have length := congrArg List.length inner
        rw [between, List.length_drop, List.length_take,
          Nat.min_eq_left (Nat.le_of_add_right_le last)] at length
        rw [contentStart_lone kind] at later length
        exact (Nat.sub_eq_iff_eq_add' later).mp length
      subst ended
      exact ⟨standalone_of_closes kind closes first, congrArg (Tag.lone raw) inner⟩

end

end Leftmost

end TagTemplate
