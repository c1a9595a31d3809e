import TagTemplate.Program.Octets

/-! Regular expressions, and the longest of the first stretches of a text that they describe. -/

namespace TagTemplate

inductive Regex where
  | empty
  | one (accepts : Char → Bool)
  | place (holds : Option Char → Option Char → Bool)
  | group (number : Nat) (inner : Regex)
  | again (number : Nat)
  | both (first second : Regex)
  | either (first second : Regex)
  | repeated (inner : Regex) (least : Nat) (most : Option Nat)

namespace Regex

structure Cursor where
  before : Option Char
  rest : Octets
  groups : List (Nat × Octets)
deriving DecidableEq, Repr

namespace Cursor

def forward (cursor : Cursor) (count : Nat) : Cursor :=
  { cursor with
    before := ((cursor.rest.take count).getLast?).or cursor.before
    rest := cursor.rest.drop count }

def textTo (cursor later : Cursor) : Octets :=
  cursor.rest.take (cursor.rest.length - later.rest.length)

def group? (cursor : Cursor) (number : Nat) : Option Octets :=
  (cursor.groups.find? fun entry => entry.1 == number).map (·.2)

def isAsFar (first second : Cursor) : Bool := decide (first.rest.length ≤ second.rest.length)

def isSame (first second : Cursor) : Bool :=
  first.rest.length == second.rest.length && decide (first.groups = second.groups)

end Cursor

def distinct (cursors : List Cursor) : List Cursor :=
  cursors.foldr (fun cursor kept => cursor :: kept.filter fun other => !cursor.isSame other) []

def farthestFirst (cursors : List Cursor) : List Cursor :=
  distinct (cursors.mergeSort Cursor.isAsFar)

/-- The places that steps lead to from some places, at least some number of steps and at most
another. Steps that go nowhere count only as far as they are needed. -/
def rounds (step : Cursor → List Cursor) : (most least : Nat) → List Cursor → List Cursor
  | 0, least, reached => if least = 0 then reached else []
  | most + 1, least, reached =>
      let next := distinct (reached.flatMap fun cursor =>
        (step cursor).filter fun later =>
          decide (0 < least) || decide (later.rest.length < cursor.rest.length))
      (if least = 0 then reached else []) ++
        if next.isEmpty then [] else rounds step most (least - 1) next

def ends : Regex → Cursor → List Cursor
  | .empty, cursor => [cursor]
  | .one accepts, cursor =>
      match cursor.rest with
      | c :: _ => if accepts c then [cursor.forward 1] else []
      | [] => []
  | .place holds, cursor => if holds cursor.before cursor.rest.head? then [cursor] else []
  | .group number inner, cursor =>
      (ends inner cursor).map fun later =>
        { later with
          groups :=
            (number, cursor.textTo later) :: later.groups.filter fun entry => entry.1 != number }
  | .again number, cursor =>
      match cursor.group? number with
      | some text => if text.isPrefixOf cursor.rest then [cursor.forward text.length] else []
      | none => []
  | .both first second, cursor => farthestFirst ((ends first cursor).flatMap (ends second))
  | .either first second, cursor => farthestFirst (ends first cursor ++ ends second cursor)
  | .repeated inner least most, cursor =>
      farthestFirst (rounds (ends inner) (most.getD (cursor.rest.length + least)) least [cursor])

structure Found where
  skipped : Octets
  text : Octets
  groups : List (Nat × Octets)
  rest : Octets

def Found.group (found : Found) (number : Nat) : Octets :=
  if number = 0 then found.text
  else ((found.groups.find? fun entry => entry.1 == number).map (·.2)).getD []

/-- The first stretch that an expression describes, and of those that begin there the longest. The
text may have a character before it. -/
def find? (regex : Regex) (before : Option Char) (text : Octets) : Option Found :=
  let cursor : Cursor := ⟨before, text, []⟩
  match regex.ends cursor with
  | later :: _ => some ⟨[], cursor.textTo later, later.groups, later.rest⟩
  | [] =>
      match text with
      | [] => none
      | c :: rest =>
          (regex.find? (some c) rest).map fun found =>
            { found with skipped := c :: found.skipped }

def isIn (regex : Regex) (text : Octets) : Bool := (regex.find? none text).isSome

end Regex

end TagTemplate
