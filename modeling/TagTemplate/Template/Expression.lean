import TagTemplate.Template.Error
import TagTemplate.Text.Pieces
import TagTemplate.Unicode.Letter

/-! The expressions of output tags: a head, positional operands, and named operands. -/

namespace TagTemplate

/-- An operand: a literal value, or a path below the data, the empty path being the data itself. -/
inductive Operand where
  | literal (value : Value)
  | path (segments : List String)

structure Expression where
  head : String
  /-- The first word read as an operand, for when it names no helper. -/
  target : Operand
  params : List Operand
  hash : List (String × Operand)

namespace Expression

def isBare (expression : Expression) : Bool :=
  expression.params.isEmpty && expression.hash.isEmpty

def isQuote (c : Char) : Bool := c == '"' || c == '\''

/-- The words of the rest of a text. The word being read is given with its last character first, if
there is one, with the quote it is in and whether a backslash came just before. Nothing comes out
when a quote is left open. -/
def wordsFrom (word : Option (List Char)) (quote : Option Char) (escaped : Bool) :
    List Char → Option (List (List Char))
  | [] =>
      match quote, word with
      | some _, _ => none
      | none, some letters => some [letters.reverse]
      | none, none => some []
  | c :: rest =>
      match quote with
      | some q =>
          let extended := some (c :: word.getD [])
          if escaped then wordsFrom extended quote false rest
          else if c = '\\' then wordsFrom extended quote true rest
          else if c = q then wordsFrom extended none false rest
          else wordsFrom extended quote false rest
      | none =>
          if Unicode.isBlank c then
            match word with
            | some letters => (wordsFrom none none false rest).map (letters.reverse :: ·)
            | none => wordsFrom none none false rest
          else
            wordsFrom (some (c :: word.getD [])) (if isQuote c then some c else none) false rest

def words? (source : List Char) : Option (List (List Char)) := wordsFrom none none false source

def isKeyChar (c : Char) : Bool := Unicode.isAlphanumeric c || c == '_' || c == '-'

def namedPair? (word : List Char) : Option (List Char × List Char) :=
  if word.head?.any isQuote then none
  else
    match Text.splitFirst? (· == '=') word with
    | some (key, value) => if key ≠ [] ∧ key.all isKeyChar then some (key, value) else none
    | none => none

def unescape : List Char → List Char
  | [] => []
  | '\\' :: c :: rest => c :: unescape rest
  | '\\' :: [] => []
  | c :: rest => c :: unescape rest

def unquote? (quote : Char) (body : List Char) : Option (List Char) :=
  match body.reverse with
  | last :: inner => if last = quote then some (unescape inner.reverse) else none
  | [] => none

/-- A word as a number: digits after an optional minus sign, an integer of 64 bits if it can be read
as one and else a floating-point number in range. -/
def number? (word : List Char) : Option Number :=
  let digits :=
    match word with
    | '-' :: rest => rest
    | other => other
  if digits.head?.any Char.isDigit then
    match (Numeral.readInt64? word).bind Numeral.Integer64.ofInt? with
    | some n => some (.integer n)
    | none => (Numeral.readBinary64? word).map .double
  else none

def isPathMark (c : Char) : Bool := c == '.' || c == '/'

def relativePart (word : List Char) : List Char :=
  let rest :=
    match Text.stripStart? "this".toList word with
    | some rest => if rest.isEmpty || rest.head?.any isPathMark then rest else word
    | none => word
  rest.dropWhile isPathMark

def path? (word : List Char) : Except SyntaxFault (List String) :=
  if word = ['.', '.'] ∨ (Text.stripStart? ['.', '.', '/'] word).isSome then
    .error (.parentScope (String.ofList word))
  else
    match relativePart word with
    | [] => .ok []
    | relative =>
        let segments := Text.pieces isPathMark relative
        if segments.any List.isEmpty then .error (.invalidPath (String.ofList word))
        else .ok (segments.map String.ofList)

def operand (word : List Char) : Except SyntaxFault Operand :=
  match word with
  | c :: rest =>
      if isQuote c then
        match unquote? c rest with
        | some text => .ok (.literal (.string (String.ofList text)))
        | none => .error (.afterText (String.ofList word))
      else if c = '(' then .error (.subexpression (String.ofList word))
      else if word = "true".toList then .ok (.literal (.boolean true))
      else if word = "false".toList then .ok (.literal (.boolean false))
      else if word = "null".toList ∨ word = "undefined".toList then .ok (.literal .null)
      else
        match number? word with
        | some n => .ok (.literal (.number n))
        | none => (path? word).map .path
  | [] => (path? word).map .path

def operands (params : List Operand) (hash : List (String × Operand)) :
    List (List Char) → Except SyntaxFault (List Operand × List (String × Operand))
  | [] => .ok (params, hash)
  | word :: rest =>
      match namedPair? word with
      | some (key, value) =>
          match operand value with
          | .error fault => .error fault
          | .ok found => operands params (hash ++ [(String.ofList key, found)]) rest
      | none =>
          if hash.isEmpty then
            match operand word with
            | .error fault => .error fault
            | .ok found => operands (params ++ [found]) hash rest
          else .error (.lateParameter (String.ofList word))

def ofWords : List (List Char) → Except SyntaxFault Expression
  | [] => .error .emptyExpression
  | head :: rest =>
      if (namedPair? head).isSome then .error (.namedHead (String.ofList head))
      else
        match operands [] [] rest with
        | .error fault => .error fault
        | .ok (params, hash) =>
            match operand head with
            | .error fault => .error fault
            | .ok target => .ok ⟨String.ofList head, target, params, hash⟩

def parse (source : List Char) : Except SyntaxFault Expression :=
  match words? source with
  | none => .error .unterminatedText
  | some words => ofWords words

end Expression

end TagTemplate
