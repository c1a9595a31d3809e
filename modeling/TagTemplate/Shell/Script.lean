import TagTemplate.Shell.Token

/-! The commands that scripts are made of, read from their tokens one line after another. -/

namespace TagTemplate.Shell

inductive Direction where
  | from
  | toFile
  | replacing
  | appending
  | duplicate
  | document
deriving DecidableEq, Repr

structure Redirection where
  descriptor : Nat
  direction : Direction
  target : Word

inductive Command where
  | simple (line : Nat) (assignments : List (Octets × Word)) (words : List Word)
      (redirections : List Redirection)
  | pipeline (commands : List Command)
  | negation (command : Command)
  | both (first second : Command)
  | either (first second : Command)
  | sequence (commands : List Command)
  | group (body : Command)
  | subshell (body : Command)
  | branch (condition body otherwise : Command)
  | loop (whileTrue : Bool) (condition body : Command)
  | each (variableName : Octets) (words : Option (List Word)) (body : Command)
  | choice (subject : Word) (cases : List (List Word × Command))
  | function (name : Octets) (body : Command)
  | redirected (command : Command) (redirections : List Redirection)

def Command.aside (command : Command) : Command := .either (.subshell command) (.sequence [])

structure ScriptFault where
  line : Nat
  message : String

structure Reading where
  tokens : List Located
  documents : List Word

abbrev Reader (α : Type) := StateT Reading (Except ScriptFault) α

def keywords : List String :=
  ["!", "if", "then", "elif", "else", "fi", "while", "until", "for", "in", "do", "done", "case",
    "esac", "\x7b", "\x7d"]

def keyword? (word : Word) : Option String :=
  match word with
  | [.text chars] => keywords.find? fun keyword => keyword.toList == chars
  | _ => none

def Token.shown : Token → String
  | .word content =>
      match keyword? content with
      | some keyword => "\"" ++ keyword ++ "\""
      | none => "word"
  | .descriptor _ => "redirection"
  | .sign text =>
      if text = "\n" then "newline"
      else if text.toList.any fun c => c == '<' || c == '>' then "redirection"
      else "\"" ++ text ++ "\""
  | .fault message => message
  | .finish => "end of file"

namespace Reader

def peek : Reader Located := do
  return (← get).tokens.head?.getD ⟨1, .finish⟩

def skip : Reader Unit := modify fun reading => { reading with tokens := reading.tokens.tail }

def unexpected {α : Type} (expected : Option String) : Reader α := do
  let next ← peek
  let message :=
    match next.token with
    | .fault message => message
    | token =>
        token.shown ++ " unexpected" ++
          match expected with
          | some text => " (expecting " ++ text ++ ")"
          | none => ""
  throw ⟨next.line, message⟩

def nextSign? : Reader (Option String) := do
  match (← peek).token with
  | .sign text => return some text
  | _ => return none

def nextKeyword? : Reader (Option String) := do
  match (← peek).token with
  | .word word => return keyword? word
  | _ => return none

def takeSign (text : String) : Reader Unit := do
  if (← nextSign?) = some text then skip else unexpected (some ("\"" ++ text ++ "\""))

def takeKeyword (text : String) : Reader Unit := do
  if (← nextKeyword?) = some text then skip else unexpected (some ("\"" ++ text ++ "\""))

def takeWord : Reader Word := do
  match (← peek).token with
  | .word word =>
      skip
      return word
  | _ => unexpected none

def skipLineEnds : Nat → Reader Unit
  | 0 => pure ()
  | fuel + 1 => do
      if (← nextSign?) = some "\n" then
        skip
        skipLineEnds fuel

def isOver : Reader Bool := do
  match (← peek).token with
  | .finish => return true
  | _ => return false

def budget : Reader Nat := return (← get).tokens.length

def anyLineEnds : Reader Unit := do skipLineEnds (← budget)

def nextDocument : Reader Word := do
  let reading ← get
  set { reading with documents := reading.documents.tail }
  return reading.documents.head?.getD []

def directionOf? : String → Option (Direction × Nat)
  | "<" | "<>" => some (.from, 0)
  | ">" => some (.toFile, 1)
  | ">|" => some (.replacing, 1)
  | ">>" => some (.appending, 1)
  | "<&" => some (.duplicate, 0)
  | ">&" => some (.duplicate, 1)
  | "<<" | "<<-" => some (.document, 0)
  | _ => none

def redirection? : Reader (Option Redirection) := do
  let start ← get
  let given : Option Nat :=
    match start.tokens with
    | ⟨_, .descriptor number⟩ :: _ => some number
    | _ => none
  if given.isSome then skip
  match (← nextSign?).bind directionOf? with
  | none =>
      set start
      return none
  | some (direction, descriptor) =>
      skip
      let word ← takeWord
      let target ← if direction = .document then nextDocument else pure word
      return some ⟨given.getD descriptor, direction, target⟩

def redirections : Nat → Reader (List Redirection)
  | 0 => return []
  | fuel + 1 => do
      match ← redirection? with
      | none => return []
      | some first => return first :: (← redirections fuel)

def assignment? (word : Word) : Option (Octets × Word) :=
  match word with
  | .text chars :: rest =>
      let name := chars.takeWhile isNameChar
      match chars.dropWhile isNameChar with
      | '=' :: value =>
          if name.head?.any isNameStart then
            some (name, if value.isEmpty then rest else .text value :: rest)
          else none
      | _ => none
  | _ => none

structure SimpleParts where
  assignments : List (Octets × Word)
  words : List Word
  redirections : List Redirection

def simpleParts : Nat → SimpleParts → Reader SimpleParts
  | 0, parts => return parts
  | fuel + 1, parts => do
      match ← redirection? with
      | some redirection =>
          simpleParts fuel { parts with redirections := parts.redirections ++ [redirection] }
      | none =>
          match (← peek).token with
          | .word word =>
              skip
              match if parts.words.isEmpty then assignment? word else none with
              | some assignment =>
                  simpleParts fuel { parts with assignments := parts.assignments ++ [assignment] }
              | none => simpleParts fuel { parts with words := parts.words ++ [word] }
          | _ => return parts

def simple (command : Reader Command) : Reader Command := do
  let line := (← peek).line
  let parts ← simpleParts (← budget) ⟨[], [], []⟩
  match parts, ← nextSign? with
  | ⟨[], [[.text name]], []⟩, some "(" =>
      skip
      match (← peek).token with
      | .word _ => throw ⟨(← peek).line, "word unexpected (expecting \")\")"⟩
      | _ => takeSign ")"
      anyLineEnds
      if name.all isNameChar && name.head?.any isNameStart then
        return .function name (← command)
      else throw ⟨line, "Bad function name"⟩
  | parts, _ => return .simple line parts.assignments parts.words parts.redirections

def branchRest (list : Reader Command) : Nat → Reader Command
  | 0 => unexpected none
  | fuel + 1 => do
      let condition ← list
      takeKeyword "then"
      let body ← list
      match ← nextKeyword? with
      | some "elif" =>
          skip
          return .branch condition body (← branchRest list fuel)
      | some "else" =>
          skip
          let otherwise ← list
          takeKeyword "fi"
          return .branch condition body otherwise
      | _ =>
          takeKeyword "fi"
          return .branch condition body (.sequence [])

def wordsAhead : Nat → Reader (List Word)
  | 0 => return []
  | fuel + 1 => do
      match (← peek).token with
      | .word word =>
          skip
          return word :: (← wordsAhead fuel)
      | _ => return []

def eachRest (list : Reader Command) : Reader Command := do
  let line := (← peek).line
  let name := (plainText (← takeWord)).1
  unless name.all isNameChar && name.head?.any isNameStart do
    throw ⟨line, "Bad for loop variable"⟩
  anyLineEnds
  let words ← do
    match ← nextKeyword? with
    | some "in" =>
        skip
        let words ← wordsAhead (← budget)
        match ← nextSign? with
        | some ";" | some "\n" => skip
        | _ => unexpected none
        pure (some words)
    | _ =>
        if (← nextSign?) = some ";" then skip
        pure none
  anyLineEnds
  takeKeyword "do"
  let body ← list
  takeKeyword "done"
  return .each name words body

def patterns : Nat → Reader (List Word)
  | 0 => return []
  | fuel + 1 => do
      let first ← takeWord
      if (← nextSign?) = some "|" then
        skip
        return first :: (← patterns fuel)
      else return [first]

def cases (list : Reader Command) : Nat → Reader (List (List Word × Command))
  | 0 => unexpected none
  | fuel + 1 => do
      anyLineEnds
      if (← nextKeyword?) = some "esac" then
        skip
        return []
      if ← isOver then unexpected (some "\")\"")
      if (← nextSign?) = some "(" then skip
      let found ← patterns (← budget)
      takeSign ")"
      anyLineEnds
      let body ← do
        if (← nextSign?) = some ";;" || (← nextKeyword?) = some "esac" then
          pure (Command.sequence [])
        else list
      if (← nextKeyword?) = some "esac" then
        skip
        return [(found, body)]
      takeSign ";;"
      return (found, body) :: (← cases list fuel)

def bareCommand (command list : Reader Command) : Reader Command := do
  match ← nextKeyword? with
  | some "if" =>
      skip
      branchRest list (← budget)
  | some "while" =>
      skip
      let condition ← list
      takeKeyword "do"
      let body ← list
      takeKeyword "done"
      return .loop true condition body
  | some "until" =>
      skip
      let condition ← list
      takeKeyword "do"
      let body ← list
      takeKeyword "done"
      return .loop false condition body
  | some "for" =>
      skip
      eachRest list
  | some "case" =>
      skip
      let subject ← takeWord
      anyLineEnds
      takeKeyword "in"
      return .choice subject (← cases list (← budget))
  | some "\x7b" =>
      skip
      let body ← list
      takeKeyword "\x7d"
      return .group body
  | some _ => unexpected none
  | none =>
      match (← peek).token with
      | .word _ | .descriptor _ => simple command
      | .sign "(" =>
          skip
          let body ← list
          takeSign ")"
          return .subshell body
      | .sign text => if (directionOf? text).isSome then simple command else unexpected none
      | _ => unexpected none

def commandOf (command list : Reader Command) : Reader Command := do
  let body ← bareCommand command list
  match body with
  | .simple _ _ _ _ | .function _ _ => return body
  | body =>
      match ← redirections (← budget) with
      | [] => return body
      | given => return .redirected body given

def pipelineRest (command : Reader Command) : Nat → Reader (List Command)
  | 0 => return []
  | fuel + 1 => do
      if (← nextSign?) = some "|" then
        skip
        anyLineEnds
        let next ← command
        return next :: (← pipelineRest command fuel)
      else return []

def pipeline (command : Reader Command) : Reader Command := do
  let negated := (← nextKeyword?) = some "!"
  if negated then skip
  let first ← command
  let whole :=
    match ← pipelineRest command (← budget) with
    | [] => first
    | more => Command.pipeline (first :: more)
  return if negated then .negation whole else whole

def dependent (command : Reader Command) : Nat → Command → Reader Command
  | 0, first => return first
  | fuel + 1, first => do
      match ← nextSign? with
      | some "&&" =>
          skip
          anyLineEnds
          dependent command fuel (.both first (← pipeline command))
      | some "||" =>
          skip
          anyLineEnds
          dependent command fuel (.either first (← pipeline command))
      | _ => return first

def endsList : Reader Bool := do
  match (← peek).token with
  | .finish | .sign ")" | .sign ";;" => return true
  | .word word =>
      return ["then", "elif", "else", "fi", "do", "done", "esac", "\x7d"].any fun keyword =>
        keyword? word == some keyword
  | _ => return false

def listRest (command : Reader Command) (lines : Bool) : Nat → Reader (List Command)
  | 0 => return []
  | fuel + 1 => do
      let first ← dependent command (← budget) (← pipeline command)
      let first := if (← nextSign?) = some "&" then first.aside else first
      match ← nextSign? with
      | some ";" | some "&" => skip
      | some "\n" => unless lines do return [first]
      | _ => return [first]
      if lines then anyLineEnds
      else if (← nextSign?) = some "\n" then return [first]
      if ← endsList then return [first]
      return first :: (← listRest command lines fuel)

def list (command : Reader Command) : Reader Command := do
  anyLineEnds
  if ← isOver then return .sequence []
  return .sequence (← listRest command true (← budget))

def command : Nat → Reader Command
  | 0 => unexpected none
  | depth + 1 => commandOf (command depth) (list (command depth))

def nextLine : Reader (Option Command) := do
  anyLineEnds
  match (← peek).token with
  | .finish => return none
  | _ =>
      let budget ← budget
      let commands ← listRest (command budget) false budget
      match (← peek).token with
      | .finish => return some (.sequence commands)
      | .sign "\n" =>
          skip
          return some (.sequence commands)
      | _ => unexpected none

end Reader

def Reading.ofText (text : Octets) : Reading :=
  let (found, documents) := Shell.tokens text
  ⟨found, documents⟩

end TagTemplate.Shell
