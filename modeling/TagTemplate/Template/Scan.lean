import TagTemplate.Template.Tag

/-! Finding the tags of a text in one pass, with a bound on the work done. -/

namespace TagTemplate

structure Opening where
  start : Nat
  line : Nat
  backslashes : Nat
  raw : Bool
deriving DecidableEq, Repr

/-- Where a scanner is. Contents are kept with the last character first. -/
inductive Phase where
  | text (backslashes : Nat)
  | brace (backslashes : Nat)
  | inside (opening : Opening) (content : List Char)
  | closing (opening : Opening) (content : List Char) (braces : Nat)
deriving DecidableEq, Repr

/-- A scanner: its place in the input, the work it has done, the text since the last tag (last
character first), its phase, and the tags it has found, the last first. -/
structure Scanner where
  position : Nat
  line : Nat
  spent : Nat
  before : List Char
  phase : Phase
  tags : List Tag
deriving DecidableEq, Repr

namespace Scanner

def start : Scanner := ⟨0, 1, 0, [], .text 0, []⟩

/-- Moves past a character into a phase. A character costs as many steps as it has bytes. -/
def pass (scanner : Scanner) (c : Char) (phase : Phase) : Scanner :=
  { scanner with
    position := scanner.position + c.utf8Size
    line := if c = '\n' then scanner.line + 1 else scanner.line
    spent := scanner.spent + c.utf8Size
    phase := phase }

/-- Takes the next character of the input. A character that only ends the current phase stays in the
input, at the cost of one step. -/
def step (scanner : Scanner) (c : Char) (rest : List Char) : Scanner × List Char :=
  match scanner.phase with
  | .text backslashes =>
      if c = '\x7b' then (scanner.pass c (.brace backslashes), rest)
      else
        ({ scanner.pass c (.text (if c = '\\' then backslashes + 1 else 0)) with
            before := c :: scanner.before }, rest)
  | .brace backslashes =>
      if c = '\x7b' then
        let raw := rest.head? == some '\x7b'
        ({ scanner with
            position := scanner.position + (if raw then 2 else 1)
            spent := scanner.spent + 1
            phase := .inside ⟨scanner.position - 1, scanner.line, backslashes, raw⟩ [] },
          if raw then rest.drop 1 else rest)
      else
        ({ scanner with
            spent := scanner.spent + 1
            before := '\x7b' :: scanner.before
            phase := .text 0 }, c :: rest)
  | .inside opening content =>
      if c = '\x7d' then (scanner.pass c (.closing opening content 1), rest)
      else (scanner.pass c (.inside opening (c :: content)), rest)
  | .closing opening content braces =>
      if c ≠ '\x7d' then
        ({ scanner with
            spent := scanner.spent + 1
            phase := .inside opening (List.replicate braces '\x7d' ++ content) }, c :: rest)
      else if braces + 1 < Tag.braces opening.raw then
        (scanner.pass c (.closing opening content (braces + 1)), rest)
      else if !opening.raw && Tag.isOpenComment content.reverse then
        (scanner.pass c (.inside opening ('\x7d' :: '\x7d' :: content)), rest)
      else
        ({ scanner.pass c (.text 0) with
            before := []
            tags :=
              { before := scanner.before.reverse
                backslashes := opening.backslashes
                start := opening.start
                line := opening.line
                raw := opening.raw
                content := content.reverse } :: scanner.tags }, rest)

theorem spent_lt_step (scanner : Scanner) (c : Char) (rest : List Char) :
    scanner.spent < (scanner.step c rest).1.spent := by
  have positive := c.utf8Size_pos
  unfold step
  split
  · split <;> simp [pass, positive]
  · split <;> simp
  · split <;> simp [pass, positive]
  · split
    · simp
    · split
      · simp [pass, positive]
      · split <;> simp [pass, positive]

def run (budget : Nat) (scanner : Scanner) (input : List Char) : Scanner × List Char :=
  match input with
  | [] => (scanner, [])
  | c :: rest =>
      if scanner.spent < budget then
        run budget (scanner.step c rest).1 (scanner.step c rest).2
      else (scanner, c :: rest)
termination_by budget - scanner.spent
decreasing_by
  have := scanner.spent_lt_step c rest
  omega

def budget (source : List Char) : Nat := 3 * Text.byteLength source

def openLine? (scanner : Scanner) : Option Nat :=
  match scanner.phase with
  | .inside opening _ => some opening.line
  | .closing opening _ _ => some opening.line
  | _ => none

def trailing (scanner : Scanner) : List Char :=
  match scanner.phase with
  | .brace _ => ('\x7b' :: scanner.before).reverse
  | _ => scanner.before.reverse

end Scanner

structure Scan where
  tags : List Tag
  trailing : List Char
  unclosed : Option Nat
deriving DecidableEq, Repr

/-- Scans a text. A tag left open is reported only where the input was read to its end. -/
def Scan.of (source : List Char) : Scan :=
  let (scanner, unread) := Scanner.run (Scanner.budget source) Scanner.start source
  { tags := scanner.tags.reverse
    trailing := scanner.trailing ++ unread
    unclosed := if unread = [] then scanner.openLine? else none }

end TagTemplate
