import TagTemplate.Numeral.Reading
import TagTemplate.Numeral.Rounded
import TagTemplate.Program.Octets
import TagTemplate.Text.Pieces

/-! What `echo` and `printf` write: words, escape sequences and formats. -/

namespace TagTemplate.Printing

def isOctal (c : Char) : Bool := '0' ≤ c && c ≤ '7'

def octalByte (digits : Octets) : Char := Char.ofNat (Numeral.ofDigits 8 digits % 256)

def escapedByte? : Char → Option Char
  | 'a' => some '\x07'
  | 'b' => some '\x08'
  | 'e' => some '\x1b'
  | 'f' => some '\x0c'
  | 'n' => some '\n'
  | 'r' => some '\r'
  | 't' => some '\t'
  | 'v' => some '\x0b'
  | '\\' => some '\\'
  | _ => none

/-- The meaning of the escape sequence that begins after a backslash, and what follows it. At most
three octal digits count, after a leading zero or not. -/
def escape (zeroFirst : Bool) (text : Octets) : Octets × Octets :=
  match text with
  | [] => (['\\'], [])
  | c :: rest =>
      match escapedByte? c with
      | some byte => ([byte], rest)
      | none =>
          if isOctal c && (!zeroFirst || c == '0') then
            let given := if zeroFirst then rest else c :: rest
            let digits := (given.take 3).takeWhile isOctal
            ([octalByte digits], given.drop digits.length)
          else (['\\', c], rest)

def unescaped (zeroFirst : Bool) : Nat → Octets → Octets × Bool
  | 0, _ => ([], true)
  | _, [] => ([], true)
  | _, '\\' :: 'c' :: _ => ([], false)
  | fuel + 1, '\\' :: rest =>
      let (first, rest) := escape zeroFirst rest
      let (more, goesOn) := unescaped zeroFirst fuel rest
      (first ++ more, goesOn)
  | fuel + 1, c :: rest =>
      let (more, goesOn) := unescaped zeroFirst fuel rest
      (c :: more, goesOn)

def spaced (words : List Octets) : Octets := List.intercalate [' '] words

def line (escapes ending : Bool) (words : List Octets) : Octets :=
  let text := spaced words
  let (content, goesOn) := if escapes then unescaped true text.length text else (text, true)
  content ++ if ending && goesOn then ['\n'] else []

def shellEcho (arguments : List Octets) : Octets :=
  match arguments with
  | ['-', 'n'] :: words => line true false words
  | words => line true true words

def echoFrom (escapes ending : Bool) : List Octets → Octets
  | [] => line escapes ending []
  | word :: words =>
      match word with
      | '-' :: letter :: letters =>
          if (letter :: letters).all fun c => c == 'n' || c == 'e' || c == 'E' then
            let last := ((letter :: letters).filter (· != 'n')).getLast?
            echoFrom ((last.map (· == 'e')).getD escapes)
              (ending && !(letter :: letters).contains 'n') words
          else line escapes ending (word :: words)
      | _ => line escapes ending (word :: words)

def programEcho (arguments : List Octets) : Octets := echoFrom false true arguments

structure Form where
  left : Bool
  zero : Bool
  plus : Bool
  space : Bool
  alternate : Bool
  width : Nat
  precision : Option Nat
deriving DecidableEq, Repr

def padded (form : Form) (sign digits : Octets) (zeros : Bool) : Octets :=
  let missing := form.width - (sign.length + digits.length)
  if form.left then sign ++ digits ++ List.replicate missing ' '
  else if zeros then sign ++ List.replicate missing '0' ++ digits
  else List.replicate missing ' ' ++ sign ++ digits

def integerOf (argument : Octets) : Int × Option String :=
  match argument with
  | '\'' :: c :: _ | '"' :: c :: _ => (c.toNat, none)
  | _ =>
      let trimmed := argument.dropWhile fun c => c == ' ' || c == '\t' || c == '\n'
      let (negative, body) :=
        match trimmed with
        | '-' :: rest => (true, rest)
        | '+' :: rest => (false, rest)
        | other => (false, other)
      let (base, body, isDigit) : Nat × Octets × (Char → Bool) :=
        match body with
        | '0' :: 'x' :: rest | '0' :: 'X' :: rest =>
            (16, rest, fun c => c.isDigit || "abcdefABCDEF".contains c)
        | '0' :: rest => (8, '0' :: rest, isOctal)
        | other => (10, other, Char.isDigit)
      let digits := body.takeWhile isDigit
      let magnitude : Int := (Numeral.ofDigits base digits : Nat)
      let complaint :=
        if argument.isEmpty then none
        else if digits.isEmpty then
          some (Octets.display argument ++ ": expected numeric value")
        else if digits.length < body.length then
          some (Octets.display argument ++ ": not completely converted")
        else none
      (if negative then -magnitude else magnitude, complaint)

def integerText (form : Form) (kind : Char) (n : Int) : Octets :=
  let unsigned : Nat := if n < 0 then (n + 18446744073709551616).toNat else n.toNat
  let digits :=
    match kind with
    | 'o' => Numeral.digits 8 unsigned
    | 'x' => Numeral.digits 16 unsigned
    | 'X' => (Numeral.digits 16 unsigned).map Char.toUpper
    | 'u' => Numeral.decimal unsigned
    | _ => Numeral.decimal n.natAbs
  let digits := if form.precision = some 0 && n == 0 then [] else digits
  let digits := Numeral.padZeros (form.precision.getD 0) digits
  let sign :=
    if kind = 'd' ∨ kind = 'i' then
      if n < 0 then ['-'] else if form.plus then ['+'] else if form.space then [' '] else []
    else if form.alternate && kind == 'o' && digits.head? != some '0' then ['0']
    else if form.alternate && n != 0 && (kind == 'x' || kind == 'X') then ['0', kind]
    else []
  padded form sign digits (form.zero && form.precision.isNone)

def fractionText (form : Form) (kind : Char) (argument : Octets) : Octets × Option String :=
  let places := form.precision.getD 6
  let trimmed := Text.trim argument
  let number :=
    if trimmed.isEmpty then some (Binary64.zero false) else Numeral.readBinary64? trimmed
  let x := number.getD (Binary64.zero false)
  let digits :=
    if kind = 'e' then x.exponential places
    else if kind = 'E' then (x.exponential places).map Char.toUpper
    else x.fixed places
  let sign :=
    if x.negative then ['-'] else if form.plus then ['+'] else if form.space then [' '] else []
  (padded form sign digits form.zero,
    if number.isNone then some (Octets.display argument ++ ": expected numeric value")
    else none)

def flags (form : Form) : Octets → Form × Octets
  | '-' :: rest => flags { form with left := true } rest
  | '0' :: rest => flags { form with zero := true } rest
  | '+' :: rest => flags { form with plus := true } rest
  | ' ' :: rest => flags { form with space := true } rest
  | '#' :: rest => flags { form with alternate := true } rest
  | rest => (form, rest)

def size (text : Octets) (arguments : List Octets) : Int × Octets × List Octets :=
  match text with
  | '*' :: rest => ((integerOf (arguments.head?.getD [])).1, rest, arguments.tail)
  | text =>
      ((Numeral.ofDigits 10 (text.takeWhile Char.isDigit) : Nat), text.dropWhile Char.isDigit,
        arguments)

def sizes (form : Form) (text : Octets) (arguments : List Octets) : Form × Octets × List Octets :=
  let (width, text, arguments) := size text arguments
  let form := { form with left := form.left || decide (width < 0), width := width.natAbs }
  match text with
  | '.' :: rest =>
      let (precision, text, arguments) := size rest arguments
      ({ form with precision := if precision < 0 then none else some precision.toNat }, text,
        arguments)
  | text => (form, text, arguments)

structure Printed where
  text : Octets
  complaints : List String
  left : List Octets
  goesOn : Bool

def Printed.after (printed : Printed) (text : Octets) (complaint : Option String) : Printed :=
  { printed with
    text := text ++ printed.text
    complaints := complaint.toList ++ printed.complaints }

def formatted : Nat → Octets → List Octets → Printed
  | 0, _, arguments => ⟨[], [], arguments, true⟩
  | _, [], arguments => ⟨[], [], arguments, true⟩
  | _, '\\' :: 'c' :: _, arguments => ⟨[], [], arguments, false⟩
  | fuel + 1, '\\' :: rest, arguments =>
      let (first, rest) := escape false rest
      (formatted fuel rest arguments).after first none
  | fuel + 1, '%' :: '%' :: rest, arguments => (formatted fuel rest arguments).after ['%'] none
  | fuel + 1, '%' :: rest, arguments =>
      let (form, rest) := flags ⟨false, false, false, false, false, 0, none⟩ rest
      let (form, rest, arguments) := sizes form rest arguments
      let argument := arguments.head?.getD []
      let cut (text : Octets) : Octets :=
        match form.precision with
        | some length => text.take length
        | none => text
      match rest with
      | [] => ⟨[], ["%: missing conversion character"], arguments, false⟩
      | kind :: rest =>
          let next := formatted fuel rest arguments.tail
          match kind with
          | 's' => next.after (padded form [] (cut argument) false) none
          | 'c' => next.after (padded form [] (argument.take 1) false) none
          | 'b' =>
              let (text, goesOn) := unescaped true argument.length argument
              let text := padded form [] (cut text) false
              if goesOn then next.after text none else ⟨text, [], arguments.tail, false⟩
          | 'd' | 'i' | 'u' | 'o' | 'x' | 'X' =>
              let (n, complaint) := integerOf argument
              next.after (integerText form kind n) complaint
          | 'e' | 'E' | 'f' | 'F' | 'g' | 'G' =>
              let (text, complaint) := fractionText form kind argument
              next.after text complaint
          | kind =>
              ⟨[], ["%" ++ String.ofList [kind] ++ ": invalid directive"], arguments, false⟩
  | fuel + 1, c :: rest, arguments => (formatted fuel rest arguments).after [c] none

/-- What `printf` writes: the format once, and again as long as it takes arguments that are left. -/
def printed (format : Octets) : Nat → List Octets → Printed
  | 0, arguments => formatted format.length format arguments
  | fuel + 1, arguments =>
      let first := formatted format.length format arguments
      if first.left.isEmpty || first.left.length == arguments.length || !first.goesOn then first
      else
        let more := printed format fuel first.left
        { more with
          text := first.text ++ more.text
          complaints := first.complaints ++ more.complaints }

end TagTemplate.Printing
