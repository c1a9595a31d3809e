import TagTemplate.Proofs.Template.Scanning
import TagTemplate.Proofs.Text.Encoding

/-! A stream goes through the bytes of a text as a scanner goes through its characters: it reports
the same tags at the same cost, and the steps always last to the end of the text. -/

namespace TagTemplate

open Leftmost
open TagStream (byteOf)

section
variable (source : List Char)

theorem encode_take_append_drop (index : Nat) :
    Text.encode (source.take index) ++ Text.encode (source.drop index) = Text.encode source := by
  rw [← Text.encode_append, List.take_append_drop]

theorem take_offsetAt (index : Nat) :
    (Text.encode source).take (offsetAt source index) = Text.encode (source.take index) := by
  rw [← encode_take_append_drop source index, offsetAt, ← Text.length_encode, List.take_left]

theorem drop_offsetAt (index : Nat) :
    (Text.encode source).drop (offsetAt source index) = Text.encode (source.drop index) := by
  rw [← encode_take_append_drop source index, offsetAt, ← Text.length_encode, List.drop_left]

variable {source}

theorem offsetAt_add_between {first last : Nat} (order : first ≤ last) :
    offsetAt source first + Text.byteLength (between source first last) = offsetAt source last := by
  rw [offsetAt, offsetAt, ← take_append_between order, Text.byteLength_append]

theorem encode_between {first last : Nat} (order : first ≤ last) :
    ((Text.encode source).take (offsetAt source last)).drop (offsetAt source first) =
      Text.encode (between source first last) := by
  rw [take_offsetAt, ← take_append_between order, Text.encode_append, offsetAt,
    ← Text.length_encode, List.drop_left]

end

namespace TagStream

/-! ### Comments -/

theorem mark_narrow : '~'.toNat < 128 := by decide

theorem withoutFirst_encode (text : List Char) :
    (if (Text.encode text).head? = some (byteOf '~') then (Text.encode text).tail
      else Text.encode text) = Text.encode (if text.head? = some '~' then text.tail else text) := by
  by_cases marked : text.head? = some '~'
  · rw [if_pos ((Text.head?_encode_iff mark_narrow text).mpr marked), if_pos marked]
    obtain ⟨rest, rfl⟩ := List.head?_eq_some_iff.mp marked
    rw [Text.encode_cons_narrow mark_narrow]
    rfl
  · rw [if_neg (mt (Text.head?_encode_iff mark_narrow text).mp marked), if_neg marked]

theorem withoutLast_encode (text : List Char) :
    (if (Text.encode text).getLast? = some (byteOf '~') then (Text.encode text).dropLast
      else Text.encode text) =
      Text.encode (if text.getLast? = some '~' then text.dropLast else text) := by
  by_cases marked : text.getLast? = some '~'
  · rw [if_pos ((Text.getLast?_encode_iff mark_narrow text).mpr marked), if_pos marked]
    obtain ⟨front, rfl⟩ := List.getLast?_eq_some_iff.mp marked
    rw [Text.encode_concat_narrow mark_narrow, List.dropLast_concat, List.dropLast_concat]
  · rw [if_neg (mt (Text.getLast?_encode_iff mark_narrow text).mp marked), if_neg marked]

theorem suffix_withoutLast_iff {word : List Char} (unmarked : word.getLast? ≠ some '~')
    (some : word ≠ []) (text : List Char) :
    word <:+ (if text.getLast? = .some '~' then text.dropLast else text) ↔
      word <:+ text ∨ word ++ ['~'] <:+ text := by
  by_cases marked : text.getLast? = .some '~'
  · rw [if_pos marked]
    obtain ⟨front, rfl⟩ := List.getLast?_eq_some_iff.mp marked
    rw [List.dropLast_concat, List.suffix_append_self_iff]
    constructor
    · exact Or.inr
    · rintro (ends | ends)
      · obtain ⟨before, whole⟩ := ends
        have last := congrArg List.getLast? whole
        rw [List.getLast?_append_of_ne_nil _ some, List.getLast?_concat] at last
        exact absurd last unmarked
      · exact ends
  · rw [if_neg marked]
    constructor
    · exact Or.inl
    · rintro (ends | ends)
      · exact ends
      · obtain ⟨before, rfl⟩ := ends
        rw [← List.append_assoc, List.getLast?_concat] at marked
        exact absurd rfl marked

theorem withoutFirst_eq_iff {other : List Char} (unmarked : other.head? ≠ some '~')
    (text : List Char) :
    (if text.head? = some '~' then text.tail else text) = other ↔
      text = other ∨ text = '~' :: other := by
  by_cases marked : text.head? = some '~'
  · rw [if_pos marked]
    obtain ⟨rest, rfl⟩ := List.head?_eq_some_iff.mp marked
    rw [List.tail_cons, List.cons.injEq]
    constructor
    · exact fun same => Or.inr ⟨rfl, same⟩
    · rintro (rfl | ⟨-, same⟩)
      · exact absurd marked unmarked
      · exact same
  · rw [if_neg marked]
    constructor
    · exact Or.inl
    · rintro (same | rfl)
      · exact same
      · exact absurd rfl marked

theorem isOpenComment_encode_iff (content : List Char) :
    isOpenComment (Text.encode content) = true ↔ OpenComment content := by
  have opener : ∀ a ∈ ['!', '-', '-'], a.toNat < 128 := by simp
  have dashes : ∀ a ∈ ['-', '-'], a.toNat < 128 := by simp
  have begins (text : List Char) :=
    withoutFirst_eq_iff (by simp : (['!', '-', '-'] ++ text).head? ≠ some '~') content
  unfold isOpenComment
  simp only [withoutFirst_encode, Text.isPrefix_encode_iff opener]
  generalize (if content.head? = some '~' then content.tail else content) = inner at *
  split
  · next found =>
      obtain ⟨text, whole⟩ := found
      have behind : (Text.encode (['!', '-', '-'] ++ text)).drop 3 = Text.encode text := by
        rw [Text.encode_append, Text.encode_narrow opener]
        rfl
      rw [← whole, behind, withoutLast_encode, Bool.not_eq_true', decide_eq_false_iff_not,
        Text.isSuffix_encode_iff dashes, suffix_withoutLast_iff (by decide) (by decide), not_or]
      constructor
      · exact fun ends => ⟨text, (begins text).mp whole.symm, ends⟩
      · rintro ⟨other, shape, ends⟩
        have same := whole.trans ((begins other).mpr shape)
        rwa [List.append_cancel_left same]
  · next closed =>
      constructor
      · intro impossible
        exact absurd impossible Bool.false_ne_true
      · rintro ⟨text, shape, -⟩
        exact absurd ⟨text, ((begins text).mpr shape).symm⟩ closed

theorem isOpenComment_encode (content : List Char) :
    isOpenComment (Text.encode content) = Tag.isOpenComment content := by
  rw [Bool.eq_iff_iff, isOpenComment_encode_iff, isOpenComment_iff]

/-! ### Turns -/

section
variable {bytes : List UInt8} {stream after : TagStream} {byte : UInt8} {state : StreamState}

theorem next_eq (within : stream.steps < budget bytes)
    (here : bytes[stream.position]? = some byte) :
    next bytes stream =
      match stream.begun.turn bytes byte with
      | (some report, after) => (some report, after)
      | (none, after) => next bytes after := by
  obtain ⟨bound, rfl⟩ := List.getElem?_eq_some_iff.mp here
  rw [next, dif_pos ⟨within, bound⟩]
  simp only
  split
  · next turned => rw [turned]
  · next turned => rw [turned]

theorem next_of_turn (within : stream.steps < budget bytes)
    (here : bytes[stream.position]? = some byte)
    (turned : stream.begun.turn bytes byte = (none, after)) :
    next bytes stream = next bytes after := by
  rw [next_eq within here, turned]

theorem next_at_end (ended : bytes.length ≤ stream.position) :
    next bytes stream = (none, { stream with steps := stream.steps + 1 }.finish bytes) := by
  rw [next, dif_neg fun more => absurd more.2 (Nat.not_lt.mpr ended)]

theorem drain_eq (bytes : List UInt8) (stream : TagStream) :
    drain bytes stream =
      match next bytes stream with
      | (none, after) => ([], after)
      | (some report, after) => (report :: (drain bytes after).1, (drain bytes after).2) := by
  rw [drain]
  split
  · next found => rw [found]
  · next found => simp only [found]

theorem drain_congr (same : next bytes stream = next bytes after) :
    drain bytes stream = drain bytes after := by
  rw [drain_eq, same, ← drain_eq]

/-- States that only a narrow character can end. -/
def Rests : StreamState → Prop
  | .text backslashes => backslashes = 0
  | .inside _ _ => True
  | _ => False

theorem turn_wide (rests : Rests stream.state)
    (wide : ∀ {a : Char}, a.toNat < 128 → byte ≠ byteOf a) :
    stream.turn bytes byte =
      (none, { stream with position := stream.position + 1 }) := by
  obtain ⟨position, line, steps, processed, state, unclosed⟩ := stream
  have line : byte ≠ byteOf '\n' := wide (by decide)
  cases state with
  | text backslashes =>
      obtain rfl : backslashes = 0 := rests
      have slash : byte ≠ byteOf '\\' := wide (by decide)
      have brace : byte ≠ byteOf '\x7b' := wide (by decide)
      simp only [turn, if_neg slash, if_neg brace, pass, if_neg line]
  | inside opening content =>
      have brace : byte ≠ byteOf '\x7d' := wide (by decide)
      simp only [turn, if_neg brace, pass, if_neg line]
  | brace => exact rests.elim
  | closing => exact rests.elim

def skip (stream : TagStream) (count : Nat) : TagStream :=
  { stream with
    position := stream.position + count
    steps := stream.steps + count
    processed := stream.processed + count }

theorem next_skip {others : List UInt8} (rests : others = [] ∨ Rests stream.state)
    (ahead : others <+: bytes.drop stream.position)
    (within : stream.steps + others.length ≤ budget bytes)
    (wide : ∀ {a : Char}, a.toNat < 128 → byteOf a ∉ others) :
    next bytes stream = next bytes (stream.skip others.length) := by
  induction others generalizing stream with
  | nil => rfl
  | cons byte others ih =>
      obtain ⟨more, ahead⟩ := ahead
      have rests : Rests stream.state := rests.resolve_left (List.cons_ne_nil _ _)
      have here : bytes[stream.position]? = some byte := Scanner.getElem?_of_drop ahead.symm
      have further : others <+: bytes.drop (stream.position + 1) :=
        ⟨more, (Scanner.drop_add_one ahead.symm).symm⟩
      rw [List.length_cons] at within ⊢
      calc next bytes stream = next bytes (stream.skip 1) :=
            next_of_turn (by omega) here
              (turn_wide rests fun narrow same => wide narrow (same ▸ List.mem_cons_self))
        _ = next bytes ((stream.skip 1).skip others.length) :=
            ih (Or.inr rests) further (by change stream.steps + 1 + _ ≤ _; omega)
              fun narrow member => wide narrow (List.mem_cons_of_mem _ member)
        _ = next bytes (stream.skip (others.length + 1)) := by
            simp only [skip, Nat.add_assoc, Nat.add_comm 1]

theorem next_pass {c : Char} {text : List Char} (rests : c.utf8Size = 1 ∨ Rests state)
    (ahead : bytes.drop stream.position = Text.encode (c :: text))
    (within : stream.steps + c.utf8Size ≤ budget bytes)
    (turned : ∀ {lead : UInt8}, (∀ {a : Char}, a.toNat < 128 → (lead = byteOf a ↔ c = a)) →
      stream.begun.turn bytes lead = (none, stream.begun.pass lead state)) :
    next bytes stream = next bytes
      { stream.skip c.utf8Size with
        line := if c = '\n' then stream.line + 1 else stream.line
        state } := by
  obtain ⟨lead, others, spelt⟩ := Text.exists_spelt c
  rw [Text.encode_cons, spelt.bytes, List.cons_append] at ahead
  have here : bytes[stream.position]? = some lead := Scanner.getElem?_of_drop ahead
  have behind : others <+: bytes.drop (stream.position + 1) :=
    ⟨_, (Scanner.drop_add_one ahead).symm⟩
  have size := spelt.size
  -- The first byte changes the state; the others, if there are any, find it as it then is.
  rw [next_of_turn (by omega) here (turned spelt.lead_iff), next_skip _ behind _ spelt.not_mem]
  · simp only [skip, pass, begun, spelt.lead_iff (by decide : '\n'.toNat < 128), ← size,
      Nat.add_assoc, Nat.add_comm 1]
  · rcases rests with narrow | rests
    · exact Or.inl (List.eq_nil_of_length_eq_zero (by omega))
    · exact Or.inr rests
  · change stream.steps + 1 + _ ≤ _
    omega

end

end TagStream

/-! ### Scanners -/

def Phase.inBytes (position : Nat) : Phase → StreamState
  | .text backslashes => .text backslashes
  | .brace backslashes => .brace (position - 1) backslashes
  | .inside opening _ => .inside opening (opening.start + Tag.braces opening.raw)
  | .closing opening _ braces =>
      .closing opening (opening.start + Tag.braces opening.raw) (position - braces) braces

theorem Tag.length_eq (tag : Tag) :
    tag.length = Tag.braces tag.raw + Text.byteLength tag.content + Tag.braces tag.raw := by
  rw [Tag.length, Tag.source, Text.byteLength_append, Text.byteLength_append]
  cases tag.raw <;> rfl

namespace Scanner

open TagStream (next drain Rests next_eq next_of_turn next_pass drain_eq drain_congr
  isOpenComment_encode)

def stream (scanner : Scanner) : TagStream where
  position := scanner.position
  line := scanner.line
  steps := scanner.spent
  processed := scanner.spent
  state := scanner.phase.inBytes scanner.position
  unclosed := none

/-- What a step of a scanner is to a stream: a stretch of bytes in the same call, or the end of a
tag and with it of the call. -/
def Simulated (source : List Char) (scanner after : Scanner) : Prop :=
  after.tags = scanner.tags ∧
      next (Text.encode source) scanner.stream = next (Text.encode source) after.stream ∨
    ∃ tag, after.tags = tag :: scanner.tags ∧
      next (Text.encode source) scanner.stream = (some (TagReport.ofTag tag), after.stream)

section
variable {source : List Char} {cursor index : Nat} {scanner : Scanner} {c : Char}
  {rest : List Char}

theorem Follows.encode_ahead (follows : Follows source cursor index scanner)
    (ahead : source.drop index = c :: rest) :
    (Text.encode source).drop scanner.position = Text.encode (c :: rest) := by
  rw [follows.position, drop_offsetAt, ahead]

theorem budget_encode (source : List Char) :
    TagStream.budget (Text.encode source) = budget source := by
  rw [TagStream.budget, Text.length_encode]
  rfl

theorem next_stream_pass {phase : Phase} (follows : Follows source cursor index scanner)
    (ahead : source.drop index = c :: rest)
    (rests : c.utf8Size = 1 ∨ Rests (phase.inBytes (scanner.position + c.utf8Size)))
    (turned : ∀ {lead : UInt8}, (∀ {a : Char}, a.toNat < 128 → (lead = byteOf a ↔ c = a)) →
      scanner.stream.begun.turn (Text.encode source) lead =
        (none, scanner.stream.begun.pass lead (phase.inBytes (scanner.position + c.utf8Size)))) :
    next (Text.encode source) scanner.stream =
      next (Text.encode source) (scanner.pass c phase).stream := by
  have within : scanner.spent + c.utf8Size ≤ TagStream.budget (Text.encode source) := by
    rw [budget_encode]
    exact follows.spent_add_le ahead
  exact next_pass rests (follows.encode_ahead ahead) within turned

theorem state_begun {phase : Phase} (same : scanner.phase = phase) :
    scanner.stream.begun.state = phase.inBytes scanner.position := by
  rw [← same]
  rfl

theorem Follows.exists_lead (follows : Follows source cursor index scanner)
    (ahead : source.drop index = c :: rest) :
    ∃ lead, scanner.stream.steps < TagStream.budget (Text.encode source) ∧
      (Text.encode source)[scanner.stream.position]? = some lead ∧
      ∀ {a : Char}, a.toNat < 128 → (lead = byteOf a ↔ c = a) := by
  obtain ⟨lead, others, spelt⟩ := Text.exists_spelt c
  refine ⟨lead, ?_, ?_, spelt.lead_iff⟩
  · have within := follows.spent_add_le ahead
    have size := c.utf8Size_pos
    rw [budget_encode]
    change scanner.spent < _
    omega
  · have bytes := follows.encode_ahead ahead
    rw [Text.encode_cons, spelt.bytes] at bytes
    exact getElem?_of_drop bytes

theorem text_simulated {count : Nat} (follows : Follows source cursor index scanner)
    (phase : scanner.phase = .text count) (ahead : source.drop index = c :: rest) :
    Simulated source scanner (scanner.step c rest).1 := by
  have state : scanner.stream.begun.state = .text count := state_begun phase
  unfold step
  rw [phase]
  simp only
  split
  · next brace =>
      subst brace
      refine Or.inl ⟨rfl, next_stream_pass follows ahead (Or.inl rfl) fun lead_iff => ?_⟩
      obtain rfl := (lead_iff (by decide)).mpr rfl
      simp only [TagStream.turn, state]
      rfl
  · next other =>
      refine Or.inl ⟨rfl, next_stream_pass follows ahead ?_ fun lead_iff => ?_⟩
      · by_cases slash : c = '\\'
        · rw [slash]
          exact Or.inl rfl
        · rw [if_neg slash]
          exact Or.inr rfl
      · simp only [TagStream.turn, state, lead_iff (by decide : '\\'.toNat < 128),
          lead_iff (by decide : '\x7b'.toNat < 128), if_neg other]
        split <;> rfl

theorem brace_simulated {count : Nat} (follows : Follows source cursor index scanner)
    (phase : scanner.phase = .brace count) (ahead : source.drop index = c :: rest) :
    Simulated source scanner (scanner.step c rest).1 := by
  have state : scanner.stream.begun.state = .brace (scanner.position - 1) count :=
    state_begun phase
  obtain ⟨lead, within, here, lead_iff⟩ := follows.exists_lead ahead
  unfold step
  rw [phase]
  simp only
  split
  · next brace =>
      subst brace
      obtain rfl := (lead_iff (by decide)).mpr rfl
      have third : ((Text.encode source)[scanner.position + 1]? == some (byteOf '\x7b')) =
          (rest.head? == some '\x7b') := by
        have behind := follows.encode_ahead ahead
        rw [Text.encode_cons_narrow (by decide)] at behind
        rw [← List.head?_drop, drop_add_one behind, Bool.eq_iff_iff, beq_iff_eq, beq_iff_eq,
          Text.head?_encode_iff (by decide)]
      have positive : 0 < scanner.position := by
        have said := follows.phase
        rw [phase] at said
        obtain ⟨last, rfl, first, -⟩ := said
        rw [follows.position, offsetAt_add_one first]
        exact Nat.add_pos_right _ (Char.utf8Size_pos _)
      have content : scanner.position - 1 + Tag.braces (rest.head? == some '\x7b') =
          scanner.position + if rest.head? == some '\x7b' then 2 else 1 := by
        unfold Tag.braces
        split <;> omega
      refine Or.inl ⟨rfl, next_of_turn within here ?_⟩
      simp only [TagStream.turn, state, if_true]
      simp only [stream, TagStream.begun, Phase.inBytes, third, content]
  · next other =>
      refine Or.inl ⟨rfl, next_of_turn within here ?_⟩
      simp only [TagStream.turn, state, lead_iff (by decide : '\x7b'.toNat < 128), if_neg other]
      rfl

theorem inside_simulated {opening : Opening} {content : List Char}
    (follows : Follows source cursor index scanner)
    (phase : scanner.phase = .inside opening content) (ahead : source.drop index = c :: rest) :
    Simulated source scanner (scanner.step c rest).1 := by
  have state : scanner.stream.begun.state =
      .inside opening (opening.start + Tag.braces opening.raw) := state_begun phase
  unfold step
  rw [phase]
  simp only
  split
  · next brace =>
      subst brace
      refine Or.inl ⟨rfl, next_stream_pass follows ahead (Or.inl rfl) fun lead_iff => ?_⟩
      obtain rfl := (lead_iff (by decide)).mpr rfl
      simp only [TagStream.turn, state]
      rfl
  · next other =>
      refine Or.inl ⟨rfl, next_stream_pass follows ahead (Or.inr trivial) fun lead_iff => ?_⟩
      simp only [TagStream.turn, state, lead_iff (by decide : '\x7d'.toNat < 128), if_neg other]
      rfl

theorem Follows.content {opening : Opening} {content : List Char} {braces : Nat}
    (follows : Follows source cursor index scanner)
    (phase : scanner.phase = .closing opening content braces) :
    ∃ first, scanner.position = first + braces ∧ braces < Tag.braces opening.raw ∧
      opening.start + Tag.braces opening.raw + Text.byteLength content.reverse = first ∧
      ((Text.encode source).take first).drop (opening.start + Tag.braces opening.raw) =
        Text.encode content.reverse := by
  have said := follows.phase
  rw [phase] at said
  obtain ⟨start, last, rfl, -, few, braces, remembers, order, inside, -⟩ := said
  have begins : opening.start + Tag.braces opening.raw =
      offsetAt source (contentStart source start) := by
    rw [contentStart, remembers.opens.all.offsetAt_eq rfl, remembers.opening_eq]
  refine ⟨offsetAt source last, ?_, ?_, ?_, ?_⟩
  · rw [follows.position, braces.offsetAt_eq rfl]
  · rw [remembers.opening_eq]
    exact few
  · rw [begins, inside, List.reverse_reverse, offsetAt_add_between order]
  · rw [begins, inside, List.reverse_reverse, encode_between order]

theorem closing_simulated {opening : Opening} {content : List Char} {braces : Nat}
    (follows : Follows source cursor index scanner)
    (phase : scanner.phase = .closing opening content braces)
    (ahead : source.drop index = c :: rest) :
    Simulated source scanner (scanner.step c rest).1 := by
  obtain ⟨first, position, few, begins, inner⟩ := follows.content phase
  have state : scanner.stream.begun.state =
      .closing opening (opening.start + Tag.braces opening.raw) first braces := by
    rw [state_begun phase, Phase.inBytes, position, Nat.add_sub_cancel]
  obtain ⟨lead, within, here, lead_iff⟩ := follows.exists_lead ahead
  unfold step
  rw [phase]
  simp only
  split
  · next other =>
      refine Or.inl ⟨rfl, next_of_turn within here ?_⟩
      simp only [TagStream.turn, state, ne_eq, lead_iff (by decide : '\x7d'.toNat < 128)]
      rw [if_pos other]
      rfl
  next brace =>
  obtain rfl : c = '\x7d' := by simpa using brace
  obtain rfl := (lead_iff (by decide)).mpr rfl
  split
  · next fewer =>
      refine Or.inl ⟨rfl, next_stream_pass follows ahead (Or.inl rfl) fun lead_iff => ?_⟩
      obtain rfl := (lead_iff (by decide)).mpr rfl
      have place : scanner.position + '\x7d'.utf8Size - (braces + 1) = first := by
        rw [position]
        exact Nat.add_sub_cancel first (braces + 1)
      simp only [TagStream.turn, state, ne_eq, not_true_eq_false, if_false, if_pos fewer,
        Phase.inBytes, place]
  next enough =>
  split
  · next comment =>
      refine Or.inl ⟨rfl, next_stream_pass follows ahead (Or.inl rfl) fun lead_iff => ?_⟩
      obtain rfl := (lead_iff (by decide)).mpr rfl
      simp only [TagStream.turn, state, ne_eq, not_true_eq_false, if_false, if_neg enough, inner,
        isOpenComment_encode, if_pos comment]
      rfl
  · next closed =>
      refine Or.inr ⟨_, rfl, ?_⟩
      -- The stream counts from the opening braces to the byte it is at, the tag its three parts.
      have length : scanner.position + 1 - opening.start =
          Tag.braces opening.raw + Text.byteLength content.reverse + Tag.braces opening.raw := by
        omega
      rw [next_eq within here]
      simp only [TagStream.turn, state, ne_eq, not_true_eq_false, if_false, if_neg enough, inner,
        isOpenComment_encode, if_neg closed, Text.ofBytes_encode]
      refine Prod.ext (congrArg some ?_) rfl
      simp only [TagReport.ofTag, Tag.kind, Tag.length_eq, ← length]
      rfl

theorem step_simulated (follows : Follows source cursor index scanner)
    (ahead : source.drop index = c :: rest) :
    Simulated source scanner (scanner.step c rest).1 := by
  cases phase : scanner.phase with
  | text count => exact text_simulated follows phase ahead
  | brace count => exact brace_simulated follows phase ahead
  | inside opening content => exact inside_simulated follows phase ahead
  | closing opening content braces => exact closing_simulated follows phase ahead

end

def exhausted (scanner : Scanner) : TagStream :=
  { scanner.stream with
    steps := scanner.spent + 1
    unclosed := scanner.openLine? }

theorem next_exhausted {bytes : List UInt8} {scanner : Scanner}
    (ended : bytes.length ≤ scanner.position) :
    next bytes scanner.stream = (none, scanner.exhausted) := by
  have passed : ¬ scanner.position < bytes.length := Nat.not_lt.mpr ended
  rw [TagStream.next_at_end ended]
  simp only [TagStream.finish, stream, passed, if_false, exhausted, openLine?]
  cases scanner.phase <;> rfl

theorem drain_stream {source : List Char} (scanner : Scanner) (input : List Char)
    (leads : Leads source (scanner, input)) :
    ∃ tags : List Tag,
      (run (budget source) scanner input).1.tags = tags.reverse ++ scanner.tags ∧
      drain (Text.encode source) scanner.stream =
        (tags.map TagReport.ofTag, (run (budget source) scanner input).1.exhausted) := by
  -- One step of the scanner goes on with the call for the next tag, or begins a new one.
  fun_induction run (budget source) scanner input with
  | case1 scanner =>
      obtain ⟨cursor, index, follows, ahead⟩ := leads
      have ended : source.length ≤ index := List.drop_eq_nil_iff.mp ahead.symm
      have position : (Text.encode source).length ≤ scanner.position := by
        rw [Text.length_encode, follows.position, offsetAt, List.take_of_length_le ended]
      exact ⟨[], rfl, by rw [drain_eq, next_exhausted position]; rfl⟩
  | case2 scanner c rest within ih =>
      obtain ⟨cursor, index, follows, ahead⟩ := leads
      obtain ⟨tags, found, drained⟩ := ih (step_leads follows ahead.symm)
      rcases step_simulated follows ahead.symm with ⟨same, on⟩ | ⟨tag, more, reported⟩
      · exact ⟨tags, by rw [found, same], by rw [drain_congr on, drained]⟩
      · refine ⟨tag :: tags, ?_, ?_⟩
        · rw [found, more, List.reverse_cons, List.append_assoc]
          rfl
        · rw [drain_eq, reported]
          simp only [drained]
          rfl
  | case3 scanner c rest used =>
      obtain ⟨cursor, index, follows, ahead⟩ := leads
      have within : scanner.spent + c.utf8Size ≤ budget source := follows.spent_add_le ahead.symm
      have size := c.utf8Size_pos
      omega

end Scanner

/-- A drained stream takes up at most two bytes for each byte of the text, just as many as the steps
of a scanner, and so comes to the end of the text before its own steps run out. It reports every tag
of the leftmost scan, and the line of a last one that does not close. -/
theorem TagStream.drain_exact (source : List Char) :
    let bytes := Text.encode source
    let reports := (drain bytes start).1
    let stream := (drain bytes start).2
    let scanner := (Scanner.run (Scanner.budget source) Scanner.start source).1
    stream.processed = scanner.spent ∧ stream.processed ≤ 2 * bytes.length ∧
      stream.steps = stream.processed + 1 ∧ (bytes = [] ∨ stream.steps ≤ budget bytes) ∧
      stream.position = bytes.length ∧
      reports = (Scan.of source).tags.map TagReport.ofTag ∧
      stream.unclosed = (Scan.of source).unclosed ∧
      Scanned source 0 (Scan.of source).tags (Scan.of source).unclosed := by
  intro bytes reports stream scanner
  have leads : Scanner.Leads source (Scanner.start, source) :=
    ⟨0, 0, Scanner.start_follows source, rfl⟩
  obtain ⟨whole, cursor, follows⟩ := Scanner.run_follows Scanner.start source leads
  obtain ⟨tags, found, drained⟩ := Scanner.drain_stream Scanner.start source leads
  have ended : stream = scanner.exhausted := congrArg Prod.snd drained
  have reported : reports = tags.map TagReport.ofTag := congrArg Prod.fst drained
  have scanned : (Scan.of source).tags = tags := by
    change (Scanner.run (Scanner.budget source) Scanner.start source).1.tags.reverse = tags
    rw [found, List.reverse_append, List.reverse_reverse]
    rfl
  have unclosed : (Scan.of source).unclosed = scanner.openLine? := if_pos whole
  have position : scanner.position = bytes.length := by
    rw [Text.length_encode, follows.position, offsetAt, List.take_length]
  have spent : scanner.spent ≤ 2 * bytes.length := by
    have bound : scanner.spent + scanner.phase.slack ≤ 2 * scanner.position := follows.spent
    omega
  rw [ended, scanned, unclosed]
  refine ⟨rfl, spent, rfl, ?_, position, reported, rfl, ?_⟩
  · by_cases none : bytes.length = 0
    · exact Or.inl (List.eq_nil_of_length_eq_zero none)
    · right
      change scanner.spent + 1 ≤ 3 * bytes.length
      omega
  · rw [← scanned, ← unclosed]
    exact Scan.of_scanned source

end TagTemplate
