import TagTemplate.Numeral.Reading
import TagTemplate.Path

/-! The arguments of the command line: options with long and short names, and what else is given. -/

namespace TagTemplate.CommandLine

inductive Usage where
  | help
  | version
  | wrong
deriving DecidableEq, Repr

inductive ValueKind where
  | text
  | path
  | number
deriving DecidableEq, Repr

def ValueKind.accepts : ValueKind → List Char → Bool
  | .text, _ => true
  | .path, value => !value.isEmpty
  | .number, value => (Numeral.readSize? value).isSome

structure OptionSpec where
  long : String
  short : Option Char
  kind : Option ValueKind
  hyphens : Bool
  repeated : Bool
  /-- The information that is asked for with it, so that nothing after it counts. -/
  asks : Option Usage
deriving DecidableEq, Repr

def flag (long : String) (short : Option Char) : OptionSpec :=
  ⟨long, short, none, false, false, none⟩

def valued (long : String) (short : Option Char) (kind : ValueKind) : OptionSpec :=
  ⟨long, short, some kind, false, false, none⟩

def repeatable (long : String) (short : Option Char) (kind : ValueKind) (hyphens : Bool) :
    OptionSpec :=
  ⟨long, short, some kind, hyphens, true, none⟩

def inquiry (long : String) (short : Char) (usage : Usage) : OptionSpec :=
  ⟨long, some short, none, false, false, some usage⟩

structure Arguments where
  given : List (String × List Char)
  rest : List (List Char)
  awaiting : Option OptionSpec
  escaped : Bool
deriving DecidableEq, Repr

namespace Arguments

def none : Arguments := ⟨[], [], Option.none, false⟩

def add (arguments : Arguments) (option : OptionSpec) (value : List Char) :
    Except Usage Arguments :=
  match option.asks with
  | some usage => .error usage
  | Option.none =>
      if !option.repeated && arguments.given.any (·.1 == option.long) then .error .wrong
      else if !option.kind.all (·.accepts value) then .error .wrong
      else
        .ok { arguments with
          given := (option.long, value) :: arguments.given
          awaiting := Option.none }

def readShort (options : List OptionSpec) (arguments : Arguments) :
    List Char → Except Usage Arguments
  | [] => .ok arguments
  | c :: rest =>
      match options.find? (·.short == some c) with
      | Option.none => .error .wrong
      | some option =>
          if option.kind.isSome then
            match rest with
            | [] => .ok { arguments with awaiting := some option }
            | '=' :: value => arguments.add option value
            | value => arguments.add option value
          else do
            let arguments ← arguments.add option []
            readShort options arguments rest

def readLong (options : List OptionSpec) (arguments : Arguments) (text : List Char) :
    Except Usage Arguments :=
  let name := String.ofList (text.takeWhile (· != '='))
  match options.find? (·.long == name) with
  | Option.none => .error .wrong
  | some option =>
      match option.kind.isSome, text.dropWhile (· != '=') with
      | true, [] => .ok { arguments with awaiting := some option }
      | true, _ :: value => arguments.add option value
      | false, [] => arguments.add option []
      | false, _ :: _ => .error .wrong

def isOption (text : List Char) : Bool := text.head? == some '-' && text != ['-']

def addOperand (limit : Nat) (arguments : Arguments) (text : List Char) : Except Usage Arguments :=
  if arguments.rest.length < limit && ValueKind.path.accepts text then
    .ok { arguments with rest := text :: arguments.rest }
  else .error .wrong

def readOne (options : List OptionSpec) (limit : Nat) (arguments : Arguments) (text : List Char) :
    Except Usage Arguments :=
  match arguments.awaiting with
  | some option =>
      if isOption text && !option.hyphens then .error .wrong else arguments.add option text
  | Option.none =>
      if arguments.escaped || !isOption text then arguments.addOperand limit text
      else
        match text with
        | ['-', '-'] => .ok { arguments with escaped := true }
        | '-' :: '-' :: long => readLong options arguments long
        | _ => readShort options arguments text.tail

/-- Reads the arguments of a command that takes so many paths. What is wrong with one of them shows
before the next one is read. -/
def read (options : List OptionSpec) (limit : Nat) (texts : List (List Char)) :
    Except Usage Arguments := do
  let arguments ← texts.foldlM (readOne options limit) none
  if arguments.awaiting.isSome then .error .wrong else .ok arguments

def has (arguments : Arguments) (name : String) : Bool := arguments.given.any (·.1 == name)

def values (arguments : Arguments) (name : String) : List (List Char) :=
  (arguments.given.reverse.filter (·.1 == name)).map (·.2)

def value? (arguments : Arguments) (name : String) : Option (List Char) :=
  (arguments.values name).head?

def text? (arguments : Arguments) (name : String) : Option String :=
  (arguments.value? name).map String.ofList

def path? (arguments : Arguments) (name : String) : Option Path :=
  (arguments.value? name).map Path.ofText

def number? (arguments : Arguments) (name : String) : Option Nat :=
  (arguments.value? name).bind Numeral.readSize?

def texts (arguments : Arguments) (name : String) : List String :=
  (arguments.values name).map String.ofList

end Arguments

end TagTemplate.CommandLine
