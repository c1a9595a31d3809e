import TagTemplate.Program.Printing
import TagTemplate.Regex.Search
import TagTemplate.Shell.Pattern

/-! Regular expressions as they are written, in the basic way and in the extended one. -/

namespace TagTemplate.Regex

structure Dialect where
  extended : Bool
  foldsCase : Bool
deriving DecidableEq, Repr

inductive Token where
  | leaf (regex : Regex)
  | opening
  | closing
  | bar
  | times (least : Nat) (most : Option Nat)

def folded (written : Dialect) (accepts : Char → Bool) : Char → Bool :=
  if written.foldsCase then fun c => accepts c || accepts c.toLower || accepts c.toUpper
  else accepts

def literal (written : Dialect) (c : Char) : Regex := .one (folded written (· == c))

def isWordChar (c : Char) : Bool := c.isAlphanum || c == '_'

def isWordChar? (c : Option Char) : Bool := c.any isWordChar

def start : Regex := .place fun before _ => before.isNone

def finish : Regex := .place fun _ after => after.isNone

def lettered? : Char → Option Regex
  | 'w' => some (.one isWordChar)
  | 'W' => some (.one fun c => !isWordChar c)
  | 's' => some (.one (Shell.Pattern.isInClass "space".toList))
  | 'S' => some (.one fun c => !Shell.Pattern.isInClass "space".toList c)
  | 'b' => some (.place fun before after => isWordChar? before != isWordChar? after)
  | 'B' => some (.place fun before after => isWordChar? before == isWordChar? after)
  | '<' => some (.place fun before after => !isWordChar? before && isWordChar? after)
  | '>' => some (.place fun before after => isWordChar? before && !isWordChar? after)
  | '\x60' => some start
  | '\'' => some finish
  | c =>
      if "afnrtv".contains c then
        (Printing.escapedByte? c).map fun byte => .one (· == byte)
      else none

def bounds? (written : Dialect) (text : Octets) : Option (Nat × Option Nat × Octets) :=
  let low : Octets := text.takeWhile Char.isDigit
  let closed (rest : Octets) : Option Octets :=
    match written.extended, rest with
    | true, '\x7d' :: rest => some rest
    | false, '\\' :: '\x7d' :: rest => some rest
    | _, _ => none
  match text.dropWhile Char.isDigit with
  | ',' :: after =>
      let high : Octets := after.takeWhile Char.isDigit
      (closed (after.dropWhile Char.isDigit)).map fun rest =>
        (Numeral.ofDigits 10 low,
          if high.isEmpty then none else some (Numeral.ofDigits 10 high), rest)
  | rest =>
      if low.isEmpty then none
      else
        (closed rest).map fun rest =>
          (Numeral.ofDigits 10 low, some (Numeral.ofDigits 10 low), rest)

/-- Whether an expression, or a part of it, begins after some parts, the last of which comes first.
There a star stands for itself. -/
def begins : List Token → Bool
  | [] | .opening :: _ | .bar :: _ => true
  | _ => false

def endsBasic (text : Octets) : Bool :=
  text.isEmpty || "\\)".toList.isPrefixOf text || "\\|".toList.isPrefixOf text

def tokens (written : Dialect) : Nat → List Token → Octets → Except String (List Token)
  | 0, before, _ => .ok before.reverse
  | _, before, [] => .ok before.reverse
  | fuel + 1, before, c :: rest =>
      let add (token : Token) (rest : Octets) : Except String (List Token) :=
        tokens written fuel (token :: before) rest
      let repetition (rest : Octets) : Except String (List Token) :=
        match bounds? written rest with
        | some (least, most, rest) => add (.times least most) rest
        | none => .error "Invalid content of \\\x7b\\\x7d"
      let sign (c : Char) (rest : Octets) : Except String (List Token) :=
        match c with
        | '(' => add .opening rest
        | ')' => add .closing rest
        | '|' => add .bar rest
        | '+' => add (.times 1 none) rest
        | '?' => add (.times 0 (some 1)) rest
        | '\x7b' => repetition rest
        | c => add (.leaf (literal written c)) rest
      let isSign (c : Char) : Bool := "()|+?\x7b".contains c
      let atStart := begins before
      match c, rest with
      | '\\', [] => .error "Trailing backslash"
      | '\\', next :: rest =>
          if isSign next && !written.extended then
            if atStart && "+?".contains next then add (.leaf (literal written next)) rest
            else sign next rest
          else if '1' ≤ next && next ≤ '9' then
            add (.leaf (.again (Numeral.digitValue next))) rest
          else
            match lettered? next with
            | some regex => add (.leaf regex) rest
            | none => add (.leaf (literal written next)) rest
      | '[', rest =>
          match Shell.Pattern.set? ['^'] rest with
          | some (members, after) => add (.leaf (.one (folded written members))) after
          | none => .error "Unmatched [, [^, [:, [., or [="
      | '.', rest => add (.leaf (.one fun _ => true)) rest
      | '*', rest =>
          if atStart then add (.leaf (literal written '*')) rest else add (.times 0 none) rest
      | '^', rest =>
          if written.extended then add (.leaf start) rest
          else if atStart then
            match rest with
            | '*' :: rest =>
                tokens written fuel (.leaf (literal written '*') :: .leaf start :: before) rest
            | rest => add (.leaf start) rest
          else add (.leaf (literal written '^')) rest
      | '$', rest =>
          if written.extended || endsBasic rest then add (.leaf finish) rest
          else add (.leaf (literal written '$')) rest
      | c, rest =>
          if written.extended && isSign c then sign c rest
          else add (.leaf (literal written c)) rest

abbrev Reading := Regex × List Token × Nat

def withTimes (regex : Regex) : List Token → Regex × List Token
  | .times least most :: rest => withTimes (.repeated regex least most) rest
  | rest => (regex, rest)

def alternatives : Nat → List Token → (groups : Nat) → Except String Reading
  | 0, rest, groups => .ok (.empty, rest, groups)
  | fuel + 1, parts, groups => do
      let (first, rest, groups) ← sequence fuel parts groups
      match rest with
      | .bar :: rest => do
          let (second, rest, groups) ← alternatives fuel rest groups
          return (.either first second, rest, groups)
      | rest => return (first, rest, groups)
where
  sequence : Nat → List Token → (groups : Nat) → Except String Reading
    | 0, rest, groups => .ok (.empty, rest, groups)
    | _, [], groups => .ok (.empty, [], groups)
    | fuel + 1, part :: rest, groups => do
        match part with
        | .bar | .closing => return (.empty, part :: rest, groups)
        | .times _ _ => sequence fuel rest groups
        | .leaf (.again number) =>
            if groups < number then .error "Invalid back reference"
            else follow fuel (.again number) rest groups
        | .leaf regex => follow fuel regex rest groups
        | .opening => do
            let number := groups + 1
            match ← alternatives fuel rest number with
            | (inner, .closing :: rest, groups) => follow fuel (.group number inner) rest groups
            | _ => .error "Unmatched ( or \\("
  follow : Nat → Regex → List Token → (groups : Nat) → Except String Reading
    | 0, regex, rest, groups => .ok (regex, rest, groups)
    | fuel + 1, regex, rest, groups => do
        let (regex, rest) := withTimes regex rest
        let (more, rest, groups) ← sequence fuel rest groups
        return (.both regex more, rest, groups)

def read (written : Dialect) (text : Octets) : Except String Regex := do
  let parts ← tokens written (text.length + 1) [] text
  match ← alternatives (3 * parts.length + 3) parts 0 with
  | (regex, [], _) => return regex
  | _ => .error "Unmatched ) or \\)"

def groupCount : Regex → Nat
  | .group _ inner => groupCount inner + 1
  | .both first second | .either first second => groupCount first + groupCount second
  | .repeated inner _ _ => groupCount inner
  | _ => 0

end TagTemplate.Regex
