import TagTemplate.Text.Pieces

/-! Tags in double or triple braces, and what their content says. -/

namespace TagTemplate

structure Tag where
  /-- The text since the tag before, with the backslashes in front of this tag. -/
  before : List Char
  backslashes : Nat
  /-- The position of the opening braces in bytes. -/
  start : Nat
  line : Nat
  raw : Bool
  content : List Char
deriving DecidableEq, Repr

inductive TagKind where
  | output (expression : List Char)
  | comment
  | sectionStart (keyword arguments : List Char)
  | sectionEnd (keyword : List Char)
  | inclusion (name : List Char)
deriving DecidableEq, Repr

namespace Tag

def braces (raw : Bool) : Nat := if raw then 3 else 2

def source (tag : Tag) : List Char :=
  List.replicate (braces tag.raw) '\x7b' ++ tag.content ++ List.replicate (braces tag.raw) '\x7d'

def length (tag : Tag) : Nat := Text.byteLength tag.source

/-- A tag after an odd number of backslashes is literal text. -/
def isEscaped (tag : Tag) : Bool := tag.backslashes % 2 == 1

def meaning (content : List Char) : List Char :=
  Text.trim (Text.dropEndWhile (· == '~') ((Text.trim content).dropWhile (· == '~')))

def sectionParts (content : List Char) : List Char × List Char :=
  let content := Text.trim (content.dropWhile fun c => c == '>' || c == '*')
  match Text.splitFirst? Unicode.isBlank content with
  | some (keyword, arguments) => (keyword, Text.trim arguments)
  | none => (content, [])

def kindOfMeaning (content : List Char) : TagKind :=
  match content with
  | [] => .output []
  | c :: rest =>
      if c = '!' then .comment
      else if c = '#' ∨ (c = '^' ∧ Text.trim rest ≠ []) then
        .sectionStart (sectionParts rest).1 (sectionParts rest).2
      else if c = '/' then .sectionEnd (Text.trim rest)
      else if c = '>' then .inclusion (Text.trim rest)
      else .output content

def kindOf (raw : Bool) (content : List Char) : TagKind :=
  if raw then .output (Text.trim content) else kindOfMeaning (meaning content)

def kind (tag : Tag) : TagKind := kindOf tag.raw tag.content

/-- Whether content is a block comment without its end: it starts with `!--` and what follows does
not end with `--`, a marker for white space at either end left aside. -/
def isOpenComment (content : List Char) : Bool :=
  let content :=
    match content with
    | '~' :: rest => rest
    | other => other
  match Text.stripStart? ['!', '-', '-'] content with
  | none => false
  | some rest =>
      match rest.reverse with
      | '~' :: '-' :: '-' :: _ => false
      | '-' :: '-' :: _ => false
      | _ => true

end Tag

end TagTemplate
