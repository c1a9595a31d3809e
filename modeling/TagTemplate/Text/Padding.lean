import TagTemplate.Text.Pieces

/-! Bringing texts to a width: padding, cutting out, shortening, filling lines with words. Widths
count characters. -/

namespace TagTemplate.Text

/-- A unit repeated and cut to a width; an empty unit counts as one space. -/
def padRun (unit : List Char) (width : Nat) : List Char :=
  let unit := if unit = [] then [' '] else unit
  (List.range width).map fun k => unit.getD (k % unit.length) ' '

def padLeft (width : Nat) (unit text : List Char) : List Char :=
  padRun unit (width - text.length) ++ text

def padRight (width : Nat) (unit text : List Char) : List Char :=
  text ++ padRun unit (width - text.length)

/-- A text with padding on both sides up to a width, the odd character of it on the right. -/
def center (width : Nat) (unit text : List Char) : List Char :=
  let missing := width - text.length
  padRun unit (missing / 2) ++ text ++ padRun unit (missing - missing / 2)

def clampIndex (length : Nat) (position : Int) : Nat := min position.toNat length

/-- The characters from one position up to before another, positions beyond the ends standing for
the ends. -/
def slice (start stop : Int) (text : List Char) : List Char :=
  let start := clampIndex text.length start
  let stop := clampIndex text.length stop
  (text.drop start).take (stop - start)

def ellipsis : List Char := ['.', '.', '.']

def abbreviate (width : Nat) (text : List Char) : List Char :=
  if text.length ≤ width then text else text.take (width - ellipsis.length) ++ ellipsis

theorem length_padRun (unit : List Char) (width : Nat) : (padRun unit width).length = width := by
  simp [padRun]

def lineLength (line : List (List Char)) : Nat :=
  line.foldr (fun word length => word.length + length) (line.length - 1)

/-- Words distributed over lines: each line takes words as long as they fit, but at least one. The
first argument is the line being filled. -/
def fill (width : Nat) (line : List (List Char)) : List (List Char) → List (List (List Char))
  | [] => [line]
  | word :: rest =>
      if lineLength (line ++ [word]) ≤ width then fill width (line ++ [word]) rest
      else line :: fill width [word] rest

def fillLine (width : Nat) : List (List Char) → List (List (List Char))
  | [] => [[]]
  | word :: rest => fill width [word] rest

def joinWords (line : List (List Char)) : List Char := List.intercalate [' '] line

/-- A text with every line broken at white space to a width. Words longer than the width stay
whole. -/
def wrap (width : Nat) (text : List Char) : List Char :=
  List.intercalate ['\n']
    ((lines text).flatMap fun line => (fillLine width (words line)).map joinWords)

end TagTemplate.Text
