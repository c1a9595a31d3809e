import TagTemplate.Program.Octets

/-! The words of scripts: text, quoted text, and what is put in when a script runs. -/

namespace TagTemplate.Shell

inductive ParameterUse where
  | value
  | length
  | orElse (nonempty : Bool)
  | assign (nonempty : Bool)
  | require (nonempty : Bool)
  | instead (nonempty : Bool)
  | withoutStart (longest : Bool)
  | withoutEnd (longest : Bool)
  | unreadable
deriving DecidableEq, Repr

inductive Part where
  | text (chars : Octets)
  | quoted (chars : Octets)
  | parameter (inQuotes : Bool) (name : Octets) (use : ParameterUse) (argument : List Part)
  | command (inQuotes : Bool) (script : Octets)
  | arithmetic (inQuotes : Bool) (expression : List Part)

abbrev Word := List Part

inductive Surroundings where
  | bare
  | quotes
  | braces (inQuotes : Bool)
  | document
deriving DecidableEq, Repr

def Surroundings.inQuotes : Surroundings → Bool
  | .bare => false
  | .quotes | .document => true
  | .braces inQuotes => inQuotes

def isSpace (c : Char) : Bool := c == ' ' || c == '\t'

def endsWord (c : Char) : Bool := isSpace c || "\n;|&<>()".contains c

def isNameStart (c : Char) : Bool := c.isAlpha || c == '_'

def isNameChar (c : Char) : Bool := c.isAlphanum || c == '_'

def isSpecialParameter (c : Char) : Bool := "@*#?-$!".contains c

def addText (inQuotes : Bool) (chars : Octets) (word : Word) : Word :=
  match inQuotes, word with
  | true, .quoted more :: rest => .quoted (chars ++ more) :: rest
  | false, .text more :: rest => .text (chars ++ more) :: rest
  | true, word => .quoted chars :: word
  | false, word => .text chars :: word

/-- The text up to the parenthesis that closes one opened before, and what follows that. Inside
quotes parentheses do not count. -/
def enclosed? : (depth : Nat) → (quote : Option Char) → Octets → Option (Octets × Octets)
  | _, _, [] => none
  | depth, quote, '\\' :: c :: rest =>
      if quote = some '\'' then
        (enclosed? depth quote (c :: rest)).map fun (inside, after) => ('\\' :: inside, after)
      else
        (enclosed? depth quote rest).map fun (inside, after) => ('\\' :: c :: inside, after)
  | depth, quote, c :: rest =>
      let keep (depth : Nat) (quote : Option Char) : Option (Octets × Octets) :=
        (enclosed? depth quote rest).map fun (inside, after) => (c :: inside, after)
      if quote = some c then keep depth none
      else if quote.isSome then keep depth quote
      else if c = '\'' ∨ c = '"' then keep depth (some c)
      else if c = '(' then keep (depth + 1) none
      else if c = ')' then if depth = 0 then some ([], rest) else keep (depth - 1) none
      else keep depth none

def backquoted? (inQuotes : Bool) : Octets → Option (Octets × Octets)
  | [] => none
  | '\x60' :: rest => some ([], rest)
  | '\\' :: c :: rest =>
      (backquoted? inQuotes rest).map fun (inside, after) =>
        if "$\x60\\".contains c || (inQuotes && c == '"') then (c :: inside, after)
        else ('\\' :: c :: inside, after)
  | c :: rest => (backquoted? inQuotes rest).map fun (inside, after) => (c :: inside, after)

def arithmeticText? (text : Octets) : Option (Octets × Octets) :=
  match enclosed? 0 none text with
  | some (inside, ')' :: after) => some (inside, after)
  | _ => none

def parameterName? : Octets → Option (Octets × Octets)
  | [] => none
  | c :: rest =>
      if isNameStart c then
        some ((c :: rest).takeWhile isNameChar, (c :: rest).dropWhile isNameChar)
      else if c.isDigit then
        some ((c :: rest).takeWhile Char.isDigit, (c :: rest).dropWhile Char.isDigit)
      else if isSpecialParameter c then some ([c], rest)
      else none

def parameterUse : Octets → ParameterUse × Octets
  | '%' :: '%' :: rest => (.withoutEnd true, rest)
  | '%' :: rest => (.withoutEnd false, rest)
  | '#' :: '#' :: rest => (.withoutStart true, rest)
  | '#' :: rest => (.withoutStart false, rest)
  | ':' :: '-' :: rest => (.orElse true, rest)
  | ':' :: '=' :: rest => (.assign true, rest)
  | ':' :: '?' :: rest => (.require true, rest)
  | ':' :: '+' :: rest => (.instead true, rest)
  | '-' :: rest => (.orElse false, rest)
  | '=' :: rest => (.assign false, rest)
  | '?' :: rest => (.require false, rest)
  | '+' :: rest => (.instead false, rest)
  | '}' :: rest => (.value, '}' :: rest)
  | rest => (.unreadable, rest)

def bracedParameter (text : Octets) : Octets × ParameterUse × Octets :=
  match text with
  | '#' :: c :: rest =>
      match (if c = '}' then none else parameterName? (c :: rest)) with
      | some (name, '}' :: after) => (name, .length, '}' :: after)
      | _ =>
          let (use, after) := parameterUse (c :: rest)
          (['#'], use, after)
  | text =>
      match parameterName? text with
      | some (name, after) =>
          let (use, after) := parameterUse after
          (name, use, after)
      | none => ([], .unreadable, text)

def parts : Nat → Surroundings → Octets → Except String (Word × Octets)
  | 0, _, _ => .error "Unterminated quoted string"
  | _, .bare, [] | _, .document, [] => .ok ([], [])
  | _, .quotes, [] => .error "Unterminated quoted string"
  | _, .braces _, [] => .error "Missing '\x7d'"
  | fuel + 1, place, c :: rest =>
      let inQuotes := place.inQuotes
      let put (chars after : Octets) : Except String (Word × Octets) :=
        (parts fuel place after).map fun (word, rest) => (addText inQuotes chars word, rest)
      let add (part : Part) (after : Octets) : Except String (Word × Octets) :=
        (parts fuel place after).map fun (word, rest) => (part :: word, rest)
      match place, c, rest with
      | .quotes, '"', rest => .ok ([], rest)
      | .braces _, '}', rest => .ok ([], rest)
      | _, '\\', '\n' :: after => parts fuel place after
      | _, '\\', next :: after =>
          let escapable :=
            match place with
            | .bare | .braces false => true
            | .quotes => "$\x60\"\\".contains next
            | .braces true => "$\x60\"\\\x7d".contains next
            | .document => "$\x60\\".contains next
          (parts fuel place after).map fun (word, rest) =>
            (addText true (if escapable then [next] else ['\\', next]) word, rest)
      | .bare, '\'', rest | .braces false, '\'', rest =>
          match rest.dropWhile (· != '\'') with
          | [] => .error "Unterminated quoted string"
          | _ :: after => add (.quoted (rest.takeWhile (· != '\''))) after
      | .document, '"', rest => put ['"'] rest
      | _, '"', rest => do
          let (inside, after) ← parts fuel .quotes rest
          let (word, rest) ← parts fuel place after
          .ok (.quoted [] :: inside ++ word, rest)
      | _, '\x60', rest =>
          match backquoted? (place != .document && inQuotes) rest with
          | some (script, after) => add (.command inQuotes script) after
          | none => .error "EOF in backquote substitution"
      | _, '$', '(' :: '(' :: after =>
          match arithmeticText? after with
          | some (text, after) => do
              let (expression, _) ← parts fuel .document text
              add (.arithmetic inQuotes expression) after
          | none => .error "Missing '))'"
      | _, '$', '(' :: after =>
          match enclosed? 0 none after with
          | some (script, after) => add (.command inQuotes script) after
          | none => .error "end of file unexpected (expecting \")\")"
      | _, '$', '{' :: after => do
          let (name, use, after) := bracedParameter after
          let cuts :=
            match use with
            | .withoutStart _ | .withoutEnd _ => true
            | _ => false
          let (argument, after) ← parts fuel (.braces (inQuotes && !cuts)) after
          add (.parameter inQuotes name use argument) after
      | _, '$', next :: after =>
          if isNameStart next then
            let name := (next :: after).takeWhile isNameChar
            add (.parameter inQuotes name .value []) ((next :: after).dropWhile isNameChar)
          else if next.isDigit || isSpecialParameter next then
            add (.parameter inQuotes [next] .value []) after
          else put ['$'] (next :: after)
      | .bare, c, rest => if endsWord c then .ok ([], c :: rest) else put [c] rest
      | _, c, rest => put [c] rest

def readWord (text : Octets) : Except String (Word × Octets) := parts (text.length + 1) .bare text

end TagTemplate.Shell
