import TagTemplate.Proofs.Format.Selection

/-! Which arguments fill a format string, and how the others are refused. -/

namespace TagTemplate

inductive Value.IsA : Value → ArgumentKind → Prop
  | integer {n : Numeral.Integer64} (signed : n.value ≤ Numeral.int64Max) :
      IsA (.number (.integer n)) .integer
  | number (n : Number) : IsA (.number n) .number
  | character (c : Char) : IsA (.string (String.singleton c)) .character
  | code {n : Numeral.Integer64} {code : Nat} (same : n.value = code) (valid : code.isValidChar) :
      IsA (.number (.integer n)) .character

namespace Format

def conversionLetters : List Char :=
  ['s', 'S', 'd', 'f', 'e', 'E', 'x', 'X', 'o', 'c', 'b', 'B', '%', 'n']

/-- The letters that are none of the conversions and are read like their lower case. -/
def looseLetters : List Char := ['D', 'F', 'C', 'O']

def parenthesisLetters : List Char := ['d', 'f', 'e', 'E']

def neededKind? (letter : Char) : Option ArgumentKind :=
  if letter ∈ ['d', 'x', 'X', 'o'] then some .integer
  else if letter ∈ ['f', 'e', 'E'] then some .number
  else if letter = 'c' then some .character
  else none

namespace Specifier

def Served (specifier : Specifier) (given : Option Value) : Prop :=
  specifier.consumes = true →
    ∃ value, given = some value ∧ ∀ kind, neededKind? specifier.letter = some kind → value.IsA kind

structure Accepts (specifier : Specifier) (given : Option Value) : Prop where
  known : specifier.letter ∈ conversionLetters
  parenthesis : specifier.flags.parenthesize = true → specifier.letter ∈ parenthesisLetters
  served : specifier.Served given

inductive Refused (specifier : Specifier) (helper : Helper) : Option Value → HelperError → Prop
  | missing (consumes : specifier.consumes = true) :
      Refused specifier helper none
        (.invalidArgument helper (.unmatchedSpecifier (String.ofList specifier.source)))
  | misplaced (value : Value) (flag : specifier.flags.parenthesize = true)
      (other : specifier.letter ∉ parenthesisLetters) :
      Refused specifier helper (some value)
        (.invalidArgument helper (.misplacedParenthesis (String.ofList specifier.source)))
  | unknown (value : Value) (other : specifier.letter ∉ conversionLetters) :
      Refused specifier helper (some value)
        (.invalidArgument helper (.unknownConversion (String.ofList specifier.source)))
  | mismatch {value : Value} {kind : ArgumentKind} (known : specifier.letter ∈ conversionLetters)
      (parenthesis : specifier.flags.parenthesize = true → specifier.letter ∈ parenthesisLetters)
      (needed : neededKind? specifier.letter = some kind) (other : ¬ value.IsA kind) :
      Refused specifier helper (some value)
        (.argumentType helper (String.ofList specifier.source) kind value.describe)

section Readers
variable {value : Value}

end Readers

end Specifier

def letterTable : List (Char × Conversion) :=
  [('s', .text), ('S', .text), ('b', .truth), ('B', .truth), ('c', .character), ('d', .integer),
    ('x', .hexadecimal), ('X', .hexadecimal), ('o', .octal), ('f', .fixed), ('e', .scientific),
    ('E', .scientific)]

theorem mem_letterTable {letter : Char} {conversion : Conversion}
    (found : Conversion.ofLetter? letter = some conversion)
    (usual : letter ∉ looseLetters) : (letter, conversion) ∈ letterTable := by
  simp only [looseLetters, List.mem_cons, List.not_mem_nil, or_false, not_or] at usual
  simp only [letterTable, List.mem_cons, Prod.mk.injEq, List.not_mem_nil, or_false]
  unfold Conversion.ofLetter? at found
  repeat' split at found
  all_goals grind

namespace Specifier

section
variable {specifier : Specifier} {helper : Helper} {conversion : Conversion} {value : Value}

theorem Accepts.not_loose {given : Option Value} (accepts : specifier.Accepts given) :
    specifier.letter ∉ looseLetters := by
  have apart : ∀ letter ∈ conversionLetters, letter ∉ looseLetters := by
    simp [conversionLetters, looseLetters]
  exact apart _ accepts.known

end

end Specifier

end Format

end TagTemplate
