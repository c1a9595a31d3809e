import TagTemplate.Numeral.Reading
import TagTemplate.Program.Octets
import TagTemplate.Text.Pieces

/-! Arithmetic on signed integers of 64 bits, in which variables can be used and assigned to. -/

namespace TagTemplate.Shell

inductive Atom where
  | number (n : Int)
  | name (chars : Octets)
  | sign (text : String)
deriving DecidableEq, Repr

inductive Expression where
  | number (n : Int)
  | named (name : Octets)
  | unary (sign : String) (operand : Expression)
  | binary (sign : String) (first second : Expression)
  | conditional (condition first second : Expression)
  | assign (name : Octets) (value : Expression)

namespace Expression

def wrapped (n : Int) : Int := Int.bmod n 18446744073709551616

def number? (text : Octets) : Option Int :=
  let inBase (base : Nat) (digits : Octets) (isDigit : Char → Bool) : Option Int :=
    if digits.isEmpty || !digits.all isDigit then none
    else some (wrapped (Numeral.ofDigits base digits : Nat))
  match text with
  | '0' :: 'x' :: digits | '0' :: 'X' :: digits =>
      inBase 16 digits fun c => c.isDigit || "abcdefABCDEF".contains c
  | '0' :: c :: digits => inBase 8 (c :: digits) fun c => '0' ≤ c && c ≤ '7'
  | digits => inBase 10 digits Char.isDigit

def valueOf? (text : Octets) : Option Int :=
  let trimmed := Text.trim text
  match trimmed with
  | [] => some 0
  | '-' :: digits => (number? digits).map fun n => wrapped (-n)
  | '+' :: digits => number? digits
  | digits => number? digits

def signTexts : List String :=
  ["<<=", ">>=", "<<", ">>", "<=", ">=", "==", "!=", "&&", "||", "+=", "-=", "*=", "/=", "%=",
    "&=", "|=", "^=", "+", "-", "*", "/", "%", "<", ">", "=", "!", "~", "&", "|", "^", "?", ":",
    "(", ")"]

def atoms? : Nat → Octets → Option (List Atom)
  | 0, _ => none
  | _, [] => some []
  | fuel + 1, c :: rest =>
      let text := c :: rest
      if c == ' ' || c == '\t' || c == '\n' then atoms? fuel rest
      else if c.isDigit then do
        let n ← number? (text.takeWhile Char.isAlphanum)
        (atoms? fuel (text.dropWhile Char.isAlphanum)).map (.number n :: ·)
      else if c.isAlpha || c == '_' then
        let isPart (c : Char) : Bool := c.isAlphanum || c == '_'
        (atoms? fuel (text.dropWhile isPart)).map (.name (text.takeWhile isPart) :: ·)
      else do
        let sign ← signTexts.find? fun sign => sign.toList.isPrefixOf text
        (atoms? fuel (text.drop sign.length)).map (.sign sign :: ·)

def levels : List (List String) :=
  [["||"], ["&&"], ["|"], ["^"], ["&"], ["==", "!="], ["<=", ">=", "<", ">"], ["<<", ">>"],
    ["+", "-"], ["*", "/", "%"]]

def chain (operand : List Atom → Except String (Expression × List Atom)) (signs : List String) :
    Nat → Expression → List Atom → Except String (Expression × List Atom)
  | 0, first, atoms => .ok (first, atoms)
  | fuel + 1, first, atoms =>
      match atoms with
      | .sign sign :: rest =>
          if signs.contains sign then do
            let (second, rest) ← operand rest
            chain operand signs fuel (.binary sign first second) rest
          else .ok (first, atoms)
      | _ => .ok (first, atoms)

def between (operand : List Atom → Except String (Expression × List Atom)) :
    List (List String) → List Atom → Except String (Expression × List Atom)
  | [], atoms => operand atoms
  | signs :: more, atoms => do
      let (first, rest) ← between operand more atoms
      chain (between operand more) signs rest.length first rest

def read : Nat → List Atom → Except String (Expression × List Atom)
  | 0, _ => .error "expecting primary"
  | fuel + 1, .name name :: .sign sign :: rest =>
      if sign = "=" then do
        let (value, rest) ← read fuel rest
        .ok (.assign name value, rest)
      else if ["+=", "-=", "*=", "/=", "%=", "<<=", ">>=", "&=", "|=", "^="].contains sign then do
        let (value, rest) ← read fuel rest
        let operator := String.ofList sign.toList.dropLast
        .ok (.assign name (.binary operator (.named name) value), rest)
      else operands fuel (.name name :: .sign sign :: rest)
  | fuel + 1, atoms => operands fuel atoms
where
  operands : Nat → List Atom → Except String (Expression × List Atom)
    | 0, _ => .error "expecting primary"
    | fuel + 1, atoms => do
        let (condition, rest) ← between (primary fuel) levels atoms
        match rest with
        | .sign "?" :: rest => do
            let (first, rest) ← read fuel rest
            match rest with
            | .sign ":" :: rest => do
                let (second, rest) ← read fuel rest
                .ok (.conditional condition first second, rest)
            | _ => .error "expecting ':'"
        | rest => .ok (condition, rest)
  primary : Nat → List Atom → Except String (Expression × List Atom)
    | 0, _ => .error "expecting primary"
    | _ + 1, .number n :: rest => .ok (.number n, rest)
    | _ + 1, .name name :: rest => .ok (.named name, rest)
    | fuel + 1, .sign "(" :: rest => do
        let (inside, rest) ← read fuel rest
        match rest with
        | .sign ")" :: rest => .ok (inside, rest)
        | _ => .error "expecting ')'"
    | fuel + 1, .sign sign :: rest =>
        if ["+", "-", "!", "~"].contains sign then do
          let (operand, rest) ← primary fuel rest
          .ok (.unary sign operand, rest)
        else .error "expecting primary"
    | _ + 1, [] => .error "expecting primary"

def ofBool (b : Bool) : Int := if b then 1 else 0

def word (n : Int) : UInt64 := UInt64.ofNat (n % 18446744073709551616).toNat

def ofWord (w : UInt64) : Int := wrapped (w.toNat : Nat)

def operate (sign : String) (a b : Int) : Except String Int :=
  match sign with
  | "+" => .ok (wrapped (a + b))
  | "-" => .ok (wrapped (a - b))
  | "*" => .ok (wrapped (a * b))
  | "/" => if b = 0 then .error "division by zero" else .ok (wrapped (Int.tdiv a b))
  | "%" => if b = 0 then .error "division by zero" else .ok (wrapped (Int.tmod a b))
  | "==" => .ok (ofBool (a == b))
  | "!=" => .ok (ofBool (a != b))
  | "<" => .ok (ofBool (decide (a < b)))
  | ">" => .ok (ofBool (decide (b < a)))
  | "<=" => .ok (ofBool (!decide (b < a)))
  | ">=" => .ok (ofBool (!decide (a < b)))
  | "&" => .ok (ofWord (word a &&& word b))
  | "|" => .ok (ofWord (word a ||| word b))
  | "^" => .ok (ofWord (word a ^^^ word b))
  | "<<" => .ok (ofWord (word a <<< word b))
  | ">>" => .ok (wrapped (Int.shiftRight a (word b % 64).toNat))
  | _ => .error "expecting EOF"

abbrev Assigned := List (Octets × Int)

def value (lookUp : Octets → Option Octets) : Expression → Assigned → Except String (Int × Assigned)
  | .number n, assigned => .ok (n, assigned)
  | .named name, assigned =>
      match assigned.find? (·.1 == name) with
      | some (_, n) => .ok (n, assigned)
      | none =>
          match valueOf? ((lookUp name).getD []) with
          | some n => .ok (n, assigned)
          | none => .error "Illegal number"
  | .unary sign operand, assigned => do
      let (n, assigned) ← value lookUp operand assigned
      match sign with
      | "-" => .ok (wrapped (-n), assigned)
      | "!" => .ok (ofBool (n == 0), assigned)
      | "~" => .ok (-n - 1, assigned)
      | _ => .ok (n, assigned)
  | .binary "&&" first second, assigned => do
      let (a, assigned) ← value lookUp first assigned
      if a = 0 then .ok (0, assigned)
      else do
        let (b, assigned) ← value lookUp second assigned
        .ok (ofBool (b != 0), assigned)
  | .binary "||" first second, assigned => do
      let (a, assigned) ← value lookUp first assigned
      if a ≠ 0 then .ok (1, assigned)
      else do
        let (b, assigned) ← value lookUp second assigned
        .ok (ofBool (b != 0), assigned)
  | .binary sign first second, assigned => do
      let (a, assigned) ← value lookUp first assigned
      let (b, assigned) ← value lookUp second assigned
      (operate sign a b).map fun n => (n, assigned)
  | .conditional condition first second, assigned => do
      let (n, assigned) ← value lookUp condition assigned
      if n ≠ 0 then value lookUp first assigned else value lookUp second assigned
  | .assign name operand, assigned => do
      let (n, assigned) ← value lookUp operand assigned
      .ok (n, (name, n) :: assigned)

def compute (lookUp : Octets → Option Octets) (text : Octets) : Except String (Int × Assigned) :=
  match atoms? (text.length + 1) text with
  | none => .error "expecting EOF"
  | some [] => .ok (0, [])
  | some atoms => do
      let (expression, rest) ← read (4 * atoms.length + 4) atoms
      if rest.isEmpty then expression.value lookUp [] else .error "expecting EOF"

end Expression

end TagTemplate.Shell
