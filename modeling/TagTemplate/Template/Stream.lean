import TagTemplate.Template.Scan

/-! The tags of a text one after the other: a stream goes through the bytes of the text, and stops
at each tag it finds. A bound on the steps keeps it from going on for ever. -/

namespace TagTemplate

def Text.encode (text : List Char) : List UInt8 := text.flatMap String.utf8EncodeChar

def Text.ofBytes (bytes : List UInt8) : List Char :=
  ((String.fromUTF8? ⟨bytes.toArray⟩).getD "").toList

inductive StreamState where
  | text (backslashes : Nat)
  | brace (position backslashes : Nat)
  | inside (opening : Opening) (content : Nat)
  | closing (opening : Opening) (content first braces : Nat)
deriving DecidableEq, Repr

structure TagReport where
  kind : TagKind
  start : Nat
  length : Nat
  backslashes : Nat
  line : Nat
deriving DecidableEq, Repr

def TagReport.ofTag (tag : Tag) : TagReport where
  kind := tag.kind
  start := tag.start
  length := tag.length
  backslashes := tag.backslashes
  line := tag.line

/-- A stream: its place in the bytes, the steps begun and the bytes taken up, and the line of a tag
that is known not to close. -/
structure TagStream where
  position : Nat
  line : Nat
  steps : Nat
  processed : Nat
  state : StreamState
  unclosed : Option Nat
deriving DecidableEq, Repr

namespace TagStream

def byteOf (c : Char) : UInt8 := UInt8.ofNat c.toNat

def start : TagStream := ⟨0, 1, 0, 0, .text 0, none⟩

def isOpenComment (content : List UInt8) : Bool :=
  let content := if content.head? = some (byteOf '~') then content.tail else content
  if ['!', '-', '-'].map byteOf <+: content then
    let rest := content.drop 3
    let rest := if rest.getLast? = some (byteOf '~') then rest.dropLast else rest
    !decide (['-', '-'].map byteOf <:+ rest)
  else false

def pass (stream : TagStream) (byte : UInt8) (state : StreamState) : TagStream :=
  { stream with
    position := stream.position + 1
    line := if byte = byteOf '\n' then stream.line + 1 else stream.line
    state }

/-- Takes up the byte that the stream is at. A byte that only ends the state stays where it is. -/
def turn (bytes : List UInt8) (stream : TagStream) (byte : UInt8) : Option TagReport × TagStream :=
  match stream.state with
  | .text backslashes =>
      if byte = byteOf '\\' then (none, stream.pass byte (.text (backslashes + 1)))
      else if byte = byteOf '\x7b' then
        (none, stream.pass byte (.brace stream.position backslashes))
      else (none, stream.pass byte (.text 0))
  | .brace position backslashes =>
      if byte = byteOf '\x7b' then
        let raw := bytes[stream.position + 1]? == some (byteOf '\x7b')
        let content := stream.position + if raw then 2 else 1
        (none,
          { stream with
            position := content
            state := .inside ⟨position, stream.line, backslashes, raw⟩ content })
      else (none, { stream with state := .text 0 })
  | .inside opening content =>
      if byte = byteOf '\x7d' then
        (none, stream.pass byte (.closing opening content stream.position 1))
      else (none, stream.pass byte (.inside opening content))
  | .closing opening content first braces =>
      let inner := (bytes.take first).drop content
      if byte ≠ byteOf '\x7d' then (none, { stream with state := .inside opening content })
      else if braces + 1 < Tag.braces opening.raw then
        (none, stream.pass byte (.closing opening content first (braces + 1)))
      else if !opening.raw && isOpenComment inner then
        (none, stream.pass byte (.inside opening content))
      else
        (some
          { kind := Tag.kindOf opening.raw (Text.ofBytes inner)
            start := opening.start
            length := stream.position + 1 - opening.start
            backslashes := opening.backslashes
            line := opening.line },
          stream.pass byte (.text 0))

def finish (bytes : List UInt8) (stream : TagStream) : TagStream :=
  if stream.position < bytes.length then stream
  else
    match stream.state with
    | .inside opening _ | .closing opening _ _ _ =>
        { stream with unclosed := some (stream.unclosed.getD opening.line) }
    | _ => stream

def budget (bytes : List UInt8) : Nat := 3 * bytes.length

theorem steps_turn (bytes : List UInt8) (stream : TagStream) (byte : UInt8) :
    (stream.turn bytes byte).2.steps = stream.steps := by
  unfold turn
  split
  · split
    · rfl
    · split <;> rfl
  · split <;> rfl
  · split <;> rfl
  · simp only
    split
    · rfl
    · split
      · rfl
      · split <;> rfl

def begun (stream : TagStream) : TagStream :=
  { stream with steps := stream.steps + 1, processed := stream.processed + 1 }

def next (bytes : List UInt8) (stream : TagStream) : Option TagReport × TagStream :=
  if more : stream.steps < budget bytes ∧ stream.position < bytes.length then
    have within := more.2
    match turned : stream.begun.turn bytes bytes[stream.position] with
    | (some report, after) => (some report, after)
    | (none, after) => next bytes after
  else (none, { stream with steps := stream.steps + 1 }.finish bytes)
termination_by budget bytes - stream.steps
decreasing_by
  have later := steps_turn bytes stream.begun bytes[stream.position]
  rw [turned] at later
  simp only [begun] at later
  omega

theorem steps_next {bytes : List UInt8} {stream after : TagStream} {report : TagReport}
    (found : next bytes stream = (some report, after)) :
    stream.steps < after.steps ∧ after.steps ≤ budget bytes := by
  fun_induction next bytes stream with
  | case1 stream more _ reportToo afterToo turned =>
      have same := steps_turn bytes stream.begun bytes[stream.position]
      rw [turned, (Prod.mk.inj found).2] at same
      have counted : after.steps = stream.steps + 1 := same
      omega
  | case2 stream more _ between turned ih =>
      have same := steps_turn bytes stream.begun bytes[stream.position]
      rw [turned] at same
      have counted : between.steps = stream.steps + 1 := same
      have further := ih found
      omega
  | case3 => simp at found

def drain (bytes : List UInt8) (stream : TagStream) : List TagReport × TagStream :=
  match found : next bytes stream with
  | (none, after) => ([], after)
  | (some report, after) =>
      have := steps_next found
      let rest := drain bytes after
      (report :: rest.1, rest.2)
termination_by budget bytes - stream.steps

end TagStream

end TagTemplate
