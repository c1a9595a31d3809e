import TagTemplate.Format.Specifier
import TagTemplate.Helper.Arguments
import TagTemplate.Numeral.Rounded
import TagTemplate.Unicode.Casing

/-! Filling the specifiers of a format string with arguments. The result depends on nothing but the
format and the arguments. -/

namespace TagTemplate.Format

def groupThousands : List Char → List Char
  | [] => []
  | c :: rest =>
      if rest ≠ [] ∧ rest.length % 3 = 0 then c :: ',' :: groupThousands rest
      else c :: groupThousands rest

def groupWhole (number : List Char) : List Char :=
  groupThousands (number.takeWhile (· != '.')) ++ number.dropWhile (· != '.')

namespace Specifier

def pad (specifier : Specifier) (body : List Char) : List Char :=
  let fill := List.replicate (specifier.width.getD 0 - body.length) ' '
  if specifier.flags.left then body ++ fill else fill ++ body

/-- A sign and digits filled up to the width: with the flag `0` and without `-` by zeros between
the two, else by spaces. -/
def padNumber (specifier : Specifier) (sign digits : List Char) : List Char :=
  if specifier.flags.zero && !specifier.flags.left then
    sign ++ List.replicate (specifier.width.getD 0 - (sign.length + digits.length)) '0' ++ digits
  else specifier.pad (sign ++ digits)

def sign (specifier : Specifier) (negative : Bool) : List Char :=
  if negative then ['-']
  else if specifier.flags.plus then ['+']
  else if specifier.flags.space then [' ']
  else []

/-- The digits of a number with its sign, or in parentheses when it is negative and the flag `(`
is set, up to the width. -/
def padSigned (specifier : Specifier) (negative : Bool) (digits : List Char) : List Char :=
  if negative && specifier.flags.parenthesize then specifier.padNumber ['('] (digits ++ [')'])
  else specifier.padNumber (specifier.sign negative) digits

def mismatch (specifier : Specifier) (helper : Helper) (expected : ArgumentKind) (value : Value) :
    HelperError :=
  .argumentType helper (String.ofList specifier.source) expected value.describe

def integer? : Value → Option Int
  | .number n => n.toInt64?
  | _ => none

def number? : Value → Option Binary64
  | .number n => some n.toBinary64
  | _ => none

def character? : Value → Option Char
  | .string text =>
      match text.toList with
      | [c] => some c
      | _ => none
  | .number n =>
      match n.toWord64? with
      | some code => if code.isValidChar then some (Char.ofNat code) else none
      | none => none
  | _ => none

def truth : Value → Bool
  | .null => false
  | .boolean b => b
  | _ => true

/-- A signed integer of 64 bits as the unsigned number with the same bits. -/
def unsigned (n : Int) : Nat := (n % 18446744073709551616).toNat

def basePrefix (specifier : Specifier) (text : List Char) : List Char :=
  if specifier.flags.alternate then text else []

def fill (specifier : Specifier) (helper : Helper) (conversion : Conversion) (value : Value) :
    Except HelperError (List Char) :=
  match conversion with
  | .text =>
      let text := value.display.toList
      .ok (specifier.pad (match specifier.precision with
        | some most => text.take most
        | none => text))
  | .truth => .ok (specifier.pad (if truth value then "true".toList else "false".toList))
  | .character =>
      match character? value with
      | some c => .ok (specifier.pad [c])
      | none => .error (specifier.mismatch helper .character value)
  | .integer =>
      match integer? value with
      | some n =>
          let digits := Numeral.decimal n.natAbs
          .ok (specifier.padSigned (n < 0)
            (if specifier.flags.group then groupThousands digits else digits))
      | none => .error (specifier.mismatch helper .integer value)
  | .hexadecimal =>
      match integer? value with
      | some n =>
          .ok (specifier.padNumber (specifier.basePrefix ['0', 'x'])
            (Numeral.digits 16 (unsigned n)))
      | none => .error (specifier.mismatch helper .integer value)
  | .octal =>
      match integer? value with
      | some n =>
          .ok (specifier.padNumber (specifier.basePrefix ['0']) (Numeral.digits 8 (unsigned n)))
      | none => .error (specifier.mismatch helper .integer value)
  | .fixed =>
      match number? value with
      | some x =>
          let digits := x.fixed (specifier.precision.getD 6)
          .ok (specifier.padSigned (x.negative && !x.isZero)
            (if specifier.flags.group then groupWhole digits else digits))
      | none => .error (specifier.mismatch helper .number value)
  | .scientific =>
      match number? value with
      | some x =>
          .ok (specifier.padSigned (x.negative && !x.isZero)
            (x.exponential (specifier.precision.getD 6)))
      | none => .error (specifier.mismatch helper .number value)

def allowsParenthesis (letter : Char) : Bool :=
  letter == 'd' || letter == 'f' || letter == 'e' || letter == 'E'

/-- A specifier filled with its argument. An upper-case letter puts the whole into upper case. -/
def render (specifier : Specifier) (helper : Helper) (value : Value) :
    Except HelperError (List Char) :=
  if specifier.flags.parenthesize && !allowsParenthesis specifier.letter then
    .error (.invalidArgument helper (.misplacedParenthesis (String.ofList specifier.source)))
  else
    match Conversion.ofLetter? specifier.letter with
    | none => .error (.invalidArgument helper (.unknownConversion (String.ofList specifier.source)))
    | some conversion =>
        match specifier.fill helper conversion value with
        | .error fault => .error fault
        | .ok text => .ok (if specifier.letter.isUpper then Unicode.toUpper text else text)

def consumes (specifier : Specifier) : Bool := specifier.letter != '%' && specifier.letter != 'n'

end Specifier

/-- The segments of a format filled with arguments. Specifiers without an index take the arguments
in turn, the next of which has the number `next`. -/
def fillSegments (helper : Helper) (arguments : List Value) (next : Nat) :
    List Segment → Except HelperError (List Char)
  | [] => .ok []
  | .literal c :: rest =>
      match fillSegments helper arguments next rest with
      | .error fault => .error fault
      | .ok text => .ok (c :: text)
  | .specifier specifier :: rest =>
      if specifier.consumes then
        let (position, following) :=
          match specifier.index with
          | some index => (index - 1, next)
          | none => (next, next + 1)
        match arguments[position]? with
        | none =>
            .error (.invalidArgument helper (.unmatchedSpecifier (String.ofList specifier.source)))
        | some value =>
            match specifier.render helper value with
            | .error fault => .error fault
            | .ok filled =>
                match fillSegments helper arguments following rest with
                | .error fault => .error fault
                | .ok text => .ok (filled ++ text)
      else
        match fillSegments helper arguments next rest with
        | .error fault => .error fault
        | .ok text => .ok ((if specifier.letter = '%' then specifier.pad ['%'] else ['\n']) ++ text)

def format (helper : Helper) (format : List Char) (arguments : List Value) :
    Except HelperError (List Char) :=
  fillSegments helper arguments 0 (segments format)

end TagTemplate.Format
