import TagTemplate.Numeral.Reading
import TagTemplate.Unicode.Ranges

/-! Format strings: literal text with specifiers `%[index$][flags][width][.precision]conversion`. -/

namespace TagTemplate.Format

inductive Conversion where
  | text
  | truth
  | character
  | integer
  | hexadecimal
  | octal
  | fixed
  | scientific
deriving DecidableEq, Repr

/-- The conversion of a letter; the upper-case letter has the same conversion as the lower-case
one. -/
def Conversion.ofLetter? (c : Char) : Option Conversion :=
  if c = 's' ∨ c = 'S' then some .text
  else if c = 'b' ∨ c = 'B' then some .truth
  else if c = 'c' ∨ c = 'C' then some .character
  else if c = 'd' ∨ c = 'D' then some .integer
  else if c = 'x' ∨ c = 'X' then some .hexadecimal
  else if c = 'o' ∨ c = 'O' then some .octal
  else if c = 'f' ∨ c = 'F' then some .fixed
  else if c = 'e' ∨ c = 'E' then some .scientific
  else none

structure Flags where
  left : Bool
  zero : Bool
  plus : Bool
  space : Bool
  group : Bool
  alternate : Bool
  parenthesize : Bool
deriving DecidableEq, Repr

def isFlag (c : Char) : Bool :=
  c == '-' || c == '#' || c == '+' || c == ' ' || c == '0' || c == ',' || c == '('

def Flags.ofList (flags : List Char) : Flags where
  left := flags.contains '-'
  zero := flags.contains '0'
  plus := flags.contains '+'
  space := flags.contains ' '
  group := flags.contains ','
  alternate := flags.contains '#'
  parenthesize := flags.contains '('

structure Specifier where
  source : List Char
  index : Option Nat
  flags : Flags
  width : Option Nat
  precision : Option Nat
  letter : Char
deriving DecidableEq, Repr

def spanNumber (text : List Char) : List Char × List Char :=
  (text.takeWhile Unicode.isDecimalDigit, text.dropWhile Unicode.isDecimalDigit)

def splitIndex (text : List Char) : Option (List Char) × List Char :=
  match spanNumber text with
  | (d :: ds, '$' :: rest) => (some (d :: ds), rest)
  | _ => (none, text)

def splitPrecision (text : List Char) : Option (List Char) × List Char :=
  match text with
  | '.' :: after =>
      match spanNumber after with
      | (d :: ds, rest) => (some (d :: ds), rest)
      | _ => (none, text)
  | _ => (none, text)

/-- The specifier at the front of a text that follows a percent sign, and what follows it. A number
that cannot be read counts as absent. -/
def specifier? (text : List Char) : Option (Specifier × List Char) :=
  let (index, afterIndex) := splitIndex text
  let flags := afterIndex.takeWhile isFlag
  let (width, afterWidth) := spanNumber (afterIndex.dropWhile isFlag)
  let (precision, afterPrecision) := splitPrecision afterWidth
  match afterPrecision with
  | letter :: rest =>
      if letter.isAlpha || letter == '%' then
        some ({ source := '%' :: text.take (text.length - rest.length)
                index := index.bind Numeral.readSize?
                flags := Flags.ofList flags
                width := Numeral.readSize? width
                precision := precision.bind Numeral.readSize?
                letter := letter }, rest)
      else none
  | [] => none

inductive Segment where
  | literal (c : Char)
  | specifier (specifier : Specifier)
deriving DecidableEq, Repr

theorem length_spanNumber (text : List Char) : (spanNumber text).2.length ≤ text.length :=
  (List.dropWhile_sublist _).length_le

theorem length_splitIndex (text : List Char) : (splitIndex text).2.length ≤ text.length := by
  unfold splitIndex
  split
  next d ds rest shape =>
    have := length_spanNumber text
    rw [shape] at this
    simp only [List.length_cons] at this ⊢
    omega
  · exact Nat.le_refl _

theorem length_splitPrecision (text : List Char) :
    (splitPrecision text).2.length ≤ text.length := by
  unfold splitPrecision
  split
  next after =>
    split
    next d ds rest shape =>
      have := length_spanNumber after
      rw [shape] at this
      simp only [List.length_cons] at this ⊢
      omega
    · exact Nat.le_refl _
  · exact Nat.le_refl _

theorem specifier?_length {text rest : List Char} {specifier : Specifier}
    (found : specifier? text = some (specifier, rest)) : rest.length < text.length := by
  have first := length_splitIndex text
  have second : ((splitIndex text).2.dropWhile isFlag).length ≤ (splitIndex text).2.length :=
    (List.dropWhile_sublist _).length_le
  have third := length_spanNumber ((splitIndex text).2.dropWhile isFlag)
  have fourth := length_splitPrecision (spanNumber ((splitIndex text).2.dropWhile isFlag)).2
  simp only [specifier?] at found
  split at found
  next letter after shape =>
    split at found
    · simp only [Option.some.injEq, Prod.mk.injEq] at found
      rw [shape, found.2] at fourth
      simp only [List.length_cons] at fourth
      omega
    · simp at found
  · simp at found

/-- The segments of a format string: specifiers are taken from left to right, and a percent sign
that begins none is literal. -/
def segments (format : List Char) : List Segment :=
  match format with
  | [] => []
  | c :: rest =>
      if c = '%' then
        match _found : specifier? rest with
        | some (specifier, after) => .specifier specifier :: segments after
        | none => .literal c :: segments rest
      else .literal c :: segments rest
termination_by format.length
decreasing_by
  · have := specifier?_length (by assumption)
    simp only [List.length_cons]
    omega
  · simp
  · simp

end TagTemplate.Format
