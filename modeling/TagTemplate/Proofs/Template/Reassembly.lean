import TagTemplate.Proofs.Template.Scanning

/-! A scan loses nothing: its tags and the text around them make up the text that was scanned. -/

namespace TagTemplate

open Leftmost

def Tag.portion (tag : Tag) : List Char := tag.before ++ tag.source

/-- The text of a phase that belongs to no tag and to no text yet. -/
def Phase.pending : Phase → List Char
  | .text _ => []
  | .brace _ => ['\x7b']
  | .inside opening content =>
      List.replicate (Tag.braces opening.raw) '\x7b' ++ content.reverse
  | .closing opening content braces =>
      List.replicate (Tag.braces opening.raw) '\x7b' ++ content.reverse ++
        List.replicate braces '\x7d'

def Phase.Short : Phase → Prop
  | .closing opening _ braces => braces < Tag.braces opening.raw
  | _ => True

namespace Scanner

def seen (scanner : Scanner) : List Char :=
  scanner.tags.reverse.flatMap Tag.portion ++ scanner.before.reverse ++ scanner.phase.pending

section
variable {scanner : Scanner} {c : Char} {rest : List Char}

theorem step_short (scanner : Scanner) (c : Char) (rest : List Char) :
    (scanner.step c rest).1.phase.Short := by
  unfold step
  split
  · split <;> trivial
  · split <;> trivial
  · next opening content _ =>
      split
      · show 1 < Tag.braces opening.raw
        cases opening.raw <;> decide
      · trivial
  · split
    · trivial
    · split
      · next more => exact more
      · split <;> trivial

theorem step_seen (short : scanner.phase.Short) :
    (scanner.step c rest).1.seen ++ (scanner.step c rest).2 = scanner.seen ++ c :: rest := by
  unfold step
  split
  · next count phase =>
      split
      · next brace => simp [seen, pass, phase, Phase.pending, brace]
      · simp [seen, pass, phase, Phase.pending]
  · next count phase =>
      split
      · next brace =>
          cases rest with
          | nil => simp [seen, phase, Phase.pending, brace, Tag.braces]
          | cons next others =>
              by_cases third : next = '\x7b'
              · simp [seen, phase, Phase.pending, brace, third, Tag.braces, List.replicate]
              · simp [seen, phase, Phase.pending, brace, third, Tag.braces, List.replicate]
      · simp [seen, phase, Phase.pending]
  · next opening content phase =>
      split
      · next brace => simp [seen, pass, phase, Phase.pending, brace]
      · simp [seen, pass, phase, Phase.pending]
  · next opening content braces phase =>
      have few : braces < Tag.braces opening.raw := by
        rw [phase] at short
        exact short
      split
      · simp [seen, phase, Phase.pending]
      next brace =>
      have brace : c = '\x7d' := Decidable.not_not.mp brace
      subst brace
      split
      · simp [seen, pass, phase, Phase.pending, List.replicate_succ']
      next last =>
      have all : Tag.braces opening.raw = braces + 1 := by omega
      split
      · next comment =>
          have double : opening.raw = false := by
            simp only [Bool.and_eq_true, Bool.not_eq_true'] at comment
            exact comment.1
          have one : braces = 1 := by
            simp only [double, Tag.braces, Bool.false_eq_true, ↓reduceIte] at all
            omega
          simp [seen, pass, phase, Phase.pending, one, double]
      · simp [seen, pass, phase, Phase.pending, Tag.portion, Tag.source, all,
          List.replicate_succ']

theorem run_seen (budget : Nat) (input : List Char) (short : scanner.phase.Short) :
    (run budget scanner input).1.seen ++ (run budget scanner input).2 = scanner.seen ++ input := by
  fun_induction run budget scanner input with
  | case1 scanner => rfl
  | case2 scanner c rest within ih => rw [ih (step_short scanner c rest), step_seen short]
  | case3 scanner c rest spent => rfl

theorem trailing_eq (outside : scanner.openLine? = none) :
    scanner.trailing = scanner.before.reverse ++ scanner.phase.pending := by
  unfold trailing
  unfold openLine? at outside
  split
  · next phase => simp [phase, Phase.pending]
  · next other =>
      split at outside
      · simp at outside
      · simp at outside
      · next inside closing =>
          cases phase : scanner.phase with
          | text count => simp [Phase.pending]
          | brace count => exact absurd phase (other count)
          | inside opening content => exact absurd phase (inside opening content)
          | closing opening content braces => exact absurd phase (closing opening content braces)

end

end Scanner

theorem Scan.flatMap_portion_append_trailing {source : List Char}
    (closed : (Scan.of source).unclosed = none) :
    (Scan.of source).tags.flatMap Tag.portion ++ (Scan.of source).trailing = source := by
  obtain ⟨whole, -⟩ := Scanner.run_follows Scanner.start source
    ⟨0, 0, Scanner.start_follows source, rfl⟩
  have short : Scanner.start.phase.Short := trivial
  have kept := Scanner.run_seen (Scanner.budget source) source short
  simp only [Scan.of, whole, ↓reduceIte] at closed ⊢
  rw [Scanner.trailing_eq closed, List.append_nil, ← List.append_assoc]
  rw [whole, List.append_nil] at kept
  exact kept

theorem Leftmost.portion_append_drop {source : List Char} {cursor start close : Nat}
    (opens : Opens source cursor start) (closes : Closes source start close) :
    (tagAt source cursor start close).portion ++ source.drop (tagEnd source start close) =
      source.drop cursor := by
  have portion : (tagAt source cursor start close).portion =
      between source cursor (tagEnd source start close) := by
    rw [Tag.portion, source_tagAt opens closes]
    exact between_append opens.later closes.start_le (Nat.le_trans closes.start_le closes.end_le)
  have whole := between_append (Nat.le_trans opens.later closes.start_le) closes.end_le
    closes.end_le
  rw [portion]
  rwa [between, between, between, List.take_length] at whole

theorem Scan.of_eq {source trailing : List Char} {tags : List Tag}
    (scanned : Scanned source 0 tags none)
    (whole : tags.flatMap Tag.portion ++ trailing = source) :
    Scan.of source = ⟨tags, trailing, none⟩ := by
  obtain ⟨same, closed⟩ := (Scan.of_scanned source).unique scanned
  have together := flatMap_portion_append_trailing closed
  rw [same] at together
  have behind := List.append_cancel_left (together.trans whole.symm)
  rcases scan : Scan.of source with ⟨found, rest, line⟩
  rw [scan] at same closed behind
  cases same
  cases closed
  cases behind
  rfl

theorem Scan.of_only {source : List Char} {close : Nat} (opens : Opens source 0 0)
    (closes : Closes source 0 close) (first : ∀ index < close, ¬ Closes source 0 index)
    (ended : tagEnd source 0 close = source.length) :
    Scan.of source = ⟨[tagAt source 0 0 close], [], none⟩ := by
  have rest : Scanned source (tagEnd source 0 close) [] none := .at_end (Nat.le_of_eq ended.symm)
  have whole := portion_append_drop opens closes
  rw [ended, List.drop_length, List.drop_zero] at whole
  refine of_eq (.tag opens closes first rest) ?_
  rwa [List.flatMap_singleton]

end TagTemplate
