import TagTemplate.Proofs.Template.Leftmost

/-! The scanner finds the tags of a leftmost scan, and never runs out of steps. -/

namespace TagTemplate

open Leftmost

theorem isOpen_iff (text : List Char) :
    (match text.reverse with
      | '~' :: '-' :: '-' :: _ => false
      | '-' :: '-' :: _ => false
      | _ => true) = true ↔ ¬ ['-', '-'] <:+ text ∧ ¬ ['-', '-', '~'] <:+ text := by
  have marked : ['-', '-', '~'] <:+ text ↔ ['~', '-', '-'] <+: text.reverse :=
    List.reverse_prefix.symm
  have plain : ['-', '-'] <:+ text ↔ ['-', '-'] <+: text.reverse := List.reverse_prefix.symm
  rw [marked, plain]
  split
  · next shape => simp [shape]
  · next shape => simp [shape]
  · next marked plain =>
      simp only [true_iff]
      constructor
      · rintro ⟨more, shape⟩
        exact plain more shape.symm
      · rintro ⟨more, shape⟩
        exact marked more shape.symm

theorem isOpenComment_iff (content : List Char) :
    Tag.isOpenComment content = true ↔ OpenComment content := by
  unfold Tag.isOpenComment OpenComment
  simp only
  split
  · next closed =>
      simp only [Bool.false_eq_true, false_iff, not_exists, not_and]
      rintro text (plain | marked)
      · simp [plain, Text.stripStart?] at closed
      · simp [marked, Text.stripStart?] at closed
  · next text found =>
      rw [Text.stripStart?_eq_some_iff] at found
      refine (isOpen_iff text).trans ?_
      split at found
      · subst found
        constructor
        · intro ends
          exact ⟨text, Or.inr rfl, ends⟩
        · rintro ⟨other, plain | marked, ends⟩
          · simp at plain
          · rwa [List.append_cancel_left (List.cons.inj marked).2]
      · next unmarked =>
          subst found
          constructor
          · intro ends
            exact ⟨text, Or.inl rfl, ends⟩
          · rintro ⟨other, plain | marked, ends⟩
            · rwa [List.append_cancel_left plain]
            · simp at marked

theorem Leftmost.OpenComment.brace {content : List Char} (comment : OpenComment content) :
    OpenComment (content ++ ['\x7d']) := by
  obtain ⟨text, shape, plain, marked⟩ := comment
  refine ⟨text ++ ['\x7d'], ?_, ?_, ?_⟩
  · rcases shape with rfl | rfl
    · exact Or.inl (by simp)
    · exact Or.inr (by simp)
  · rw [← List.reverse_prefix]
    simp
  · rw [← List.reverse_prefix]
    simp

namespace Phase

/-- The steps that a phase may still cost without a character being passed. -/
def slack : Phase → Nat
  | .text _ | .inside _ _ => 0
  | .brace _ | .closing _ _ _ => 1

theorem slack_le (phase : Phase) : phase.slack ≤ 1 := by
  cases phase <;> simp [slack]

structure Remembers (source : List Char) (cursor start : Nat) (before : List Char)
    (opening : Opening) : Prop where
  opens : Opens source cursor start
  before_eq : before = (between source cursor start).reverse
  opening_eq : opening = ⟨offsetAt source start, lineAt source start,
    backslashes (between source cursor start), isRaw source start⟩

def Follows (source : List Char) (cursor index : Nat) (before : List Char) : Phase → Prop
  | .text count =>
      cursor ≤ index ∧ before = (between source cursor index).reverse ∧
        count = backslashes (between source cursor index) ∧
        ∀ earlier, cursor ≤ earlier → earlier < index → ¬ BracesAt source '\x7b' 2 earlier
  | .brace count =>
      ∃ last, index = last + 1 ∧ source[last]? = some '\x7b' ∧ cursor ≤ last ∧
        before = (between source cursor last).reverse ∧
        count = backslashes (between source cursor last) ∧
        ∀ earlier, cursor ≤ earlier → earlier < last → ¬ BracesAt source '\x7b' 2 earlier
  | .inside opening content =>
      ∃ start, Remembers source cursor start before opening ∧ contentStart source start ≤ index ∧
        content = (between source (contentStart source start) index).reverse ∧
        ∀ earlier < index, ¬ Closes source start earlier
  | .closing opening content braces =>
      ∃ start last, index = last + braces ∧ 0 < braces ∧
        braces < Tag.braces (isRaw source start) ∧ BracesAt source '\x7d' braces last ∧
        Remembers source cursor start before opening ∧ contentStart source start ≤ last ∧
        content = (between source (contentStart source start) last).reverse ∧
        ∀ earlier < last, ¬ Closes source start earlier

end Phase

namespace Scanner

structure Follows (source : List Char) (cursor index : Nat) (scanner : Scanner) : Prop where
  bound : index ≤ source.length
  position : scanner.position = offsetAt source index
  line : scanner.line = lineAt source index
  spent : scanner.spent + scanner.phase.slack ≤ 2 * scanner.position
  tags : ∀ {tags unclosed}, Scanned source cursor tags unclosed →
    Scanned source 0 (scanner.tags.reverse ++ tags) unclosed
  phase : scanner.phase.Follows source cursor index scanner.before

section
variable {α : Type} {items rest : List α} {item : α} {index : Nat}

theorem getElem?_of_drop (ahead : items.drop index = item :: rest) :
    items[index]? = some item := by
  have first := congrArg List.head? ahead
  rwa [List.head?_drop] at first

theorem drop_add_one (ahead : items.drop index = item :: rest) :
    items.drop (index + 1) = rest := by
  rw [← List.drop_drop, ahead]
  rfl

end

section
variable {source : List Char} {cursor index : Nat} {scanner : Scanner} {c : Char}
  {rest : List Char}

theorem start_follows (source : List Char) : start.Follows source 0 0 where
  bound := Nat.zero_le _
  position := rfl
  line := rfl
  spent := Nat.le_refl _
  tags := id
  phase := ⟨Nat.le_refl _, by simp [start, between], by simp [backslashes, between], by simp⟩

theorem Follows.pass {next : Scanner} {later : Nat} (follows : Follows source cursor index scanner)
    (here : source[index]? = some c)
    (position : next.position = scanner.position + c.utf8Size)
    (line : next.line = if c = '\n' then scanner.line + 1 else scanner.line)
    (spent : next.spent = scanner.spent + c.utf8Size)
    (tags : ∀ {tags unclosed}, Scanned source later tags unclosed →
      Scanned source 0 (next.tags.reverse ++ tags) unclosed)
    (phase : next.phase.Follows source later (index + 1) next.before) :
    Follows source later (index + 1) next where
  bound := (List.getElem?_eq_some_iff.mp here).1
  position := by rw [position, follows.position, offsetAt_add_one here]
  line := by rw [line, follows.line, lineAt_add_one here]
  spent := by
    have before := follows.spent
    have size := c.utf8Size_pos
    have after := next.phase.slack_le
    omega
  tags := tags
  phase := phase

def Leads (source : List Char) (reached : Scanner × List Char) : Prop :=
  ∃ cursor index, Follows source cursor index reached.1 ∧ reached.2 = source.drop index

theorem backslashes_append (text : List Char) (c : Char) :
    backslashes (text ++ [c]) = if c = '\\' then backslashes text + 1 else 0 := by
  by_cases slash : c = '\\' <;> simp [backslashes, slash]

theorem text_step {count : Nat} (follows : Follows source cursor index scanner)
    (phase : scanner.phase = .text count) (ahead : source.drop index = c :: rest) :
    Leads source (scanner.step c rest) := by
  have here := getElem?_of_drop ahead
  have said := follows.phase
  rw [phase] at said
  obtain ⟨order, before, counted, none⟩ := said
  unfold step
  rw [phase]
  simp only
  split
  · next brace =>
      refine ⟨cursor, index + 1, follows.pass here rfl rfl rfl follows.tags ?_,
        (drop_add_one ahead).symm⟩
      exact ⟨index, rfl, brace ▸ here, order, before, counted, none⟩
  · next other =>
      refine ⟨cursor, index + 1, follows.pass here rfl rfl rfl follows.tags ?_,
        (drop_add_one ahead).symm⟩
      have longer := between_add_one order here
      refine ⟨Nat.le_succ_of_le order, ?_, ?_, ?_⟩
      · rw [longer, List.reverse_append, before]
        rfl
      · rw [longer, backslashes_append, counted]
      · intro earlier later less braces
        rcases Nat.lt_succ_iff_lt_or_eq.mp less with less | same
        · exact none earlier later less braces
        · rw [same] at braces
          exact other (Option.some.inj (here.symm.trans (braces 0 (by omega))))

theorem brace_opens {count last : Nat} (follows : Follows source cursor (last + 1) scanner)
    (opens : Opens source cursor last)
    (before : scanner.before = (between source cursor last).reverse)
    (counted : count = backslashes (between source cursor last)) :
    Follows source cursor (contentStart source last)
      { scanner with
        position := scanner.position + (if isRaw source last then 2 else 1)
        spent := scanner.spent + 1
        phase := .inside ⟨scanner.position - 1, scanner.line, count, isRaw source last⟩ [] } := by
  have braces := opens.all
  have first : BracesAt source '\x7b' 1 last := opens.braces.fewer (by omega)
  have position := follows.position
  rw [first.offsetAt_eq rfl] at position
  have line := follows.line
  rw [first.lineAt_eq (by decide)] at line
  have spent := follows.spent
  have remembered : (⟨scanner.position - 1, scanner.line, count, isRaw source last⟩ : Opening) =
      ⟨offsetAt source last, lineAt source last, backslashes (between source cursor last),
        isRaw source last⟩ := by
    rw [position, line, counted]
    rfl
  refine ⟨contentStart_le opens, ?_, ?_, ?_, follows.tags,
    last, ⟨opens, before, remembered⟩, Nat.le_refl _, ?_, ?_⟩
  · rw [contentStart, braces.offsetAt_eq rfl]
    simp only [position]
    cases isRaw source last <;> rfl
  · rw [contentStart, braces.lineAt_eq (by decide)]
    exact line
  · change scanner.spent + 1 + 0 ≤ 2 * (scanner.position + _)
    split <;> omega
  · simp [between]
  · intro earlier less closes
    exact absurd closes.later (by omega)

theorem brace_step {count : Nat} (follows : Follows source cursor index scanner)
    (phase : scanner.phase = .brace count) (ahead : source.drop index = c :: rest) :
    Leads source (scanner.step c rest) := by
  have here := getElem?_of_drop ahead
  have said := follows.phase
  rw [phase] at said
  obtain ⟨last, rfl, first, order, before, counted, none⟩ := said
  unfold step
  rw [phase]
  simp only
  split
  · next brace =>
      have opens : Opens source cursor last := by
        refine ⟨order, ?_, none⟩
        intro offset below
        rcases Nat.lt_succ_iff_lt_or_eq.mp below with early | late
        · have zero : offset = 0 := by omega
          rw [zero]
          exact first
        · rw [late]
          exact brace ▸ here
      have third : (rest.head? == some '\x7b') = isRaw source last := by
        rw [isRaw, ← drop_add_one ahead, List.head?_drop]
      rw [third]
      refine ⟨cursor, contentStart source last, brace_opens follows opens before counted, ?_⟩
      cases raw : isRaw source last with
      | false =>
          rw [contentStart, raw]
          exact (drop_add_one ahead).symm
      | true =>
          rw [contentStart, raw]
          simp only [if_true, ← drop_add_one ahead, List.drop_drop]
          rfl
  · next other =>
      have spent := follows.spent
      rw [phase] at spent
      refine ⟨cursor, last + 1, ⟨follows.bound, follows.position, follows.line, spent, follows.tags,
        Nat.le_succ_of_le order, ?_, ?_, ?_⟩, ahead.symm⟩
      · rw [between_add_one order first, List.reverse_append, before]
        rfl
      · rw [between_add_one order first, backslashes_append, if_neg (by decide)]
      · intro earlier later less braces
        rcases Nat.lt_succ_iff_lt_or_eq.mp less with less | same
        · exact none earlier later less braces
        · rw [same] at braces
          exact other (Option.some.inj (here.symm.trans (braces 1 (by omega))))

theorem inside_step {opening : Opening} {content : List Char}
    (follows : Follows source cursor index scanner)
    (phase : scanner.phase = .inside opening content) (ahead : source.drop index = c :: rest) :
    Leads source (scanner.step c rest) := by
  have here := getElem?_of_drop ahead
  have said := follows.phase
  rw [phase] at said
  obtain ⟨start, remembers, order, inside, never⟩ := said
  unfold step
  rw [phase]
  simp only
  split
  · next brace =>
      refine ⟨cursor, index + 1, follows.pass here rfl rfl rfl follows.tags ?_,
        (drop_add_one ahead).symm⟩
      refine ⟨start, index, rfl, by omega, ?_, ?_, remembers, order, inside, never⟩
      · cases isRaw source start <;> decide
      · intro offset below
        have zero : offset = 0 := by omega
        rw [zero]
        exact brace ▸ here
  · next other =>
      refine ⟨cursor, index + 1, follows.pass here rfl rfl rfl follows.tags ?_,
        (drop_add_one ahead).symm⟩
      refine ⟨start, remembers, Nat.le_succ_of_le order, ?_, ?_⟩
      · rw [between_add_one order here, List.reverse_append, inside]
        rfl
      · intro earlier less closes
        rcases Nat.lt_succ_iff_lt_or_eq.mp less with less | same
        · exact never earlier less closes
        · rw [same] at closes
          obtain ⟨more, count⟩ := braces_pos (isRaw source start)
          exact other (Option.some.inj (here.symm.trans (closes.braces 0 (by omega))))

theorem closing_falls {start last braces : Nat} {opening : Opening} {content : List Char}
    (follows : Follows source cursor (last + braces) scanner)
    (remembers : Phase.Remembers source cursor start scanner.before opening)
    (few : braces < Tag.braces (isRaw source start))
    (some : BracesAt source '\x7d' braces last) (order : contentStart source start ≤ last)
    (inside : content = (between source (contentStart source start) last).reverse)
    (never : ∀ earlier < last, ¬ Closes source start earlier)
    (spent : scanner.spent + 1 ≤ 2 * scanner.position)
    (other : source[last + braces]? ≠ .some '\x7d') :
    Follows source cursor (last + braces)
      { scanner with
        spent := scanner.spent + 1
        phase := .inside opening (List.replicate braces '\x7d' ++ content) } := by
  refine ⟨follows.bound, follows.position, follows.line, spent, follows.tags, start, remembers,
    by omega, ?_, ?_⟩
  · have split := between_append order (Nat.le_add_right last braces)
      (Nat.le_trans (Nat.le_add_right _ _) follows.bound)
    rw [← split, some.between_eq, List.reverse_append, List.reverse_replicate, inside]
  -- A closing that begins among these braces would need the character after them.
  · intro earlier less closes
    rcases Nat.lt_or_ge earlier last with early | late
    · exact never earlier early closes
    · have stands := closes.braces (last + braces - earlier) (by omega)
      rw [Nat.add_sub_cancel' (Nat.le_of_lt less)] at stands
      exact other stands

theorem never_closes_comment {start last : Nat} (plain : isRaw source start = false)
    (order : contentStart source start ≤ last) (brace : source[last]? = some '\x7d')
    (comment : OpenComment (between source (contentStart source start) last))
    (never : ∀ earlier < last, ¬ Closes source start earlier) :
    ∀ earlier < last + 2, ¬ Closes source start earlier := by
  intro earlier less closes
  rcases Nat.lt_or_ge earlier last with early | late
  · exact never earlier early closes
  -- Content that ends in a brace of its own is still that of an open comment.
  · rcases Nat.lt_or_ge last earlier with after | before
    · have next : earlier = last + 1 := by omega
      rw [next] at closes
      have longer := comment.brace
      rw [← between_add_one order brace] at longer
      exact closes.content plain longer
    · have same : earlier = last := by omega
      rw [same] at closes
      exact closes.content plain comment

theorem closing_step {opening : Opening} {content : List Char} {braces : Nat}
    (follows : Follows source cursor index scanner)
    (phase : scanner.phase = .closing opening content braces)
    (ahead : source.drop index = c :: rest) : Leads source (scanner.step c rest) := by
  have here := getElem?_of_drop ahead
  have said := follows.phase
  rw [phase] at said
  obtain ⟨start, last, rfl, positive, few, some, remembers, order, inside, never⟩ := said
  have raw : opening.raw = isRaw source start := by rw [remembers.opening_eq]
  have contained : content.reverse = between source (contentStart source start) last := by
    rw [inside, List.reverse_reverse]
  unfold step
  rw [phase]
  simp only
  split
  · next other =>
      have spent := follows.spent
      rw [phase] at spent
      refine ⟨cursor, last + braces, ?_, ahead.symm⟩
      refine closing_falls follows remembers few some order inside never spent ?_
      rw [here]
      simpa using other
  next brace =>
  have brace : c = '\x7d' := by simpa using brace
  subst brace
  have more : BracesAt source '\x7d' (braces + 1) last := by
    intro offset below
    rcases Nat.lt_succ_iff_lt_or_eq.mp below with early | late
    · exact some offset early
    · rw [late]
      exact here
  split
  · next fewer =>
      refine ⟨cursor, last + braces + 1, follows.pass here rfl rfl rfl follows.tags ?_,
        (drop_add_one ahead).symm⟩
      exact ⟨start, last, rfl, Nat.succ_pos _, raw ▸ fewer, more, remembers, order, inside, never⟩
  next enough =>
  have count : braces + 1 = Tag.braces (isRaw source start) := by
    rw [raw] at enough
    omega
  split
  · next comment =>
      simp only [Bool.and_eq_true, Bool.not_eq_true', contained, isOpenComment_iff] at comment
      have plain : isRaw source start = false := raw ▸ comment.1
      have single : braces = 1 := by
        rw [plain] at count
        exact Nat.succ.inj count
      subst single
      have first : source[last]? = .some '\x7d' := more 0 (by omega)
      refine ⟨cursor, last + 1 + 1, follows.pass here rfl rfl rfl follows.tags ?_,
        (drop_add_one ahead).symm⟩
      refine ⟨start, remembers, by omega, ?_,
        never_closes_comment plain order first comment.2 never⟩
      rw [between_add_one (by omega) here, between_add_one order first, inside]
      simp
  · next closed =>
      have closes : Closes source start last := by
        refine ⟨order, count ▸ more, ?_⟩
        intro plain comment
        rw [← contained, ← isOpenComment_iff] at comment
        exact closed (by simp [raw, plain, comment])
      have ended : tagEnd source start last = last + braces + 1 := by rw [tagEnd, ← count]; rfl
      refine ⟨last + braces + 1, last + braces + 1, follows.pass here rfl rfl rfl ?_ ?_,
        (drop_add_one ahead).symm⟩
      · intro tags unclosed scanned
        have tag := follows.tags (.tag remembers.opens closes never (ended ▸ scanned))
        simpa [tagAt, remembers.before_eq, remembers.opening_eq, contained] using tag
      · refine ⟨Nat.le_refl _, by simp [between], by simp [between, backslashes], ?_⟩
        intro earlier later less
        omega

theorem step_leads (follows : Follows source cursor index scanner)
    (ahead : source.drop index = c :: rest) : Leads source (scanner.step c rest) := by
  cases phase : scanner.phase with
  | text count => exact text_step follows phase ahead
  | brace count => exact brace_step follows phase ahead
  | inside opening content => exact inside_step follows phase ahead
  | closing opening content braces => exact closing_step follows phase ahead

end

theorem offsetAt_le (source : List Char) (index : Nat) :
    offsetAt source index ≤ Text.byteLength source := by
  have split := congrArg Text.byteLength (List.take_append_drop index source)
  rw [Text.byteLength_append] at split
  rw [offsetAt]
  omega

theorem Follows.spent_add_le {source : List Char} {cursor index : Nat} {scanner : Scanner}
    {c : Char} {rest : List Char} (follows : Follows source cursor index scanner)
    (ahead : source.drop index = c :: rest) : scanner.spent + c.utf8Size ≤ budget source := by
  have spent := follows.spent
  have position := follows.position
  have more := offsetAt_add_one (getElem?_of_drop ahead)
  have total := offsetAt_le source (index + 1)
  unfold budget
  omega

/-- With three steps for each byte a scanner comes to the end of its text. -/
theorem run_follows {source : List Char} (scanner : Scanner) (input : List Char)
    (leads : Leads source (scanner, input)) :
    (run (budget source) scanner input).2 = [] ∧
      ∃ cursor, Follows source cursor source.length (run (budget source) scanner input).1 := by
  fun_induction run (budget source) scanner input with
  | case1 scanner =>
      obtain ⟨cursor, index, follows, ahead⟩ := leads
      have ended : source.length ≤ index := List.drop_eq_nil_iff.mp ahead.symm
      exact ⟨rfl, cursor, Nat.le_antisymm follows.bound ended ▸ follows⟩
  | case2 scanner c rest within ih =>
      obtain ⟨cursor, index, follows, ahead⟩ := leads
      exact ih (step_leads follows ahead.symm)
  | case3 scanner c rest used =>
      obtain ⟨cursor, index, follows, ahead⟩ := leads
      have within : scanner.spent + c.utf8Size ≤ budget source := follows.spent_add_le ahead.symm
      have size := c.utf8Size_pos
      omega

theorem Follows.ended {source : List Char} {cursor : Nat} {scanner : Scanner}
    (follows : Follows source cursor source.length scanner) :
    Scanned source cursor [] scanner.openLine? := by
  have said := follows.phase
  unfold openLine?
  cases phase : scanner.phase with
  | text count =>
      rw [phase] at said
      obtain ⟨_, _, _, none⟩ := said
      refine .plain fun start opens => ?_
      have bound := opens.braces.before_end
      exact none start opens.later (by omega) opens.braces
  | brace count =>
      rw [phase] at said
      obtain ⟨last, ended, _, _, _, _, none⟩ := said
      refine .plain fun start opens => ?_
      have bound := opens.braces.before_end
      exact none start opens.later (by omega) opens.braces
  | inside opening content =>
      rw [phase] at said
      obtain ⟨start, remembers, _, _, never⟩ := said
      simp only [remembers.opening_eq]
      refine .unclosed remembers.opens fun index closes => ?_
      have bound := closes.end_le
      obtain ⟨more, count⟩ := braces_pos (isRaw source start)
      exact never index (by rw [tagEnd] at bound; omega) closes
  | closing opening content braces =>
      rw [phase] at said
      obtain ⟨start, last, ended, _, few, _, remembers, _, _, never⟩ := said
      simp only [remembers.opening_eq]
      refine .unclosed remembers.opens fun index closes => ?_
      have bound := closes.end_le
      exact never index (by rw [tagEnd] at bound; omega) closes

end Scanner

theorem Scan.of_scanned (source : List Char) :
    Scanned source 0 (Scan.of source).tags (Scan.of source).unclosed := by
  obtain ⟨whole, cursor, follows⟩ := Scanner.run_follows Scanner.start source
    ⟨0, 0, Scanner.start_follows source, rfl⟩
  have scanned := follows.tags follows.ended
  rw [List.append_nil] at scanned
  simpa [Scan.of, whole] using scanned

/-- The scan of a text is its leftmost scan, the only one there is, and its tags stand in the text
one behind the other. -/
theorem scan_leftmost (source : List Char) :
    (∀ tags unclosed, Scanned source 0 tags unclosed ↔
      tags = (Scan.of source).tags ∧ unclosed = (Scan.of source).unclosed) ∧
    (Scan.of source).tags.Pairwise
      (fun earlier later => earlier.start + earlier.length ≤ later.start) ∧
    ∀ tag ∈ (Scan.of source).tags, Stands source tag := by
  have scanned := Scan.of_scanned source
  obtain ⟨ordered, standing⟩ := scanned.layout
  refine ⟨fun tags unclosed => ⟨fun other => other.unique scanned, ?_⟩, ordered,
    fun tag member => (standing tag member).2⟩
  rintro ⟨rfl, rfl⟩
  exact scanned

end TagTemplate
