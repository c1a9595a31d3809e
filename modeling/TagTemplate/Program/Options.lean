import TagTemplate.Program.Outcome

/-! The options of programs: letters behind a hyphen, some with a value, and long names for them. -/

namespace TagTemplate

structure OptionTable where
  letters : String
  valued : String
  long : List (String × Char)

structure Given where
  options : List (Char × Octets)
  operands : List Octets

namespace Given

def has (given : Given) (letter : Char) : Bool := given.options.any (·.1 == letter)

def value? (given : Given) (letter : Char) : Option Octets :=
  (given.options.reverse.find? (·.1 == letter)).map (·.2)

def values (given : Given) (letter : Char) : List Octets :=
  (given.options.filter (·.1 == letter)).map (·.2)

def addOption (given : Given) (letter : Char) (value : Octets) : Given :=
  { given with options := given.options ++ [(letter, value)] }

def addOperand (given : Given) (operand : Octets) : Given :=
  { given with operands := given.operands ++ [operand] }

end Given

namespace OptionTable

def readLetters (table : OptionTable) : Octets → Given → Except String (Given × Option Char)
  | [], given => .ok (given, none)
  | letter :: rest, given =>
      if table.valued.contains letter then
        if rest.isEmpty then .ok (given, some letter) else .ok (given.addOption letter rest, none)
      else if table.letters.contains letter then
        readLetters table rest (given.addOption letter [])
      else .error ("invalid option -- '" ++ String.ofList [letter] ++ "'")

def longLetter? (table : OptionTable) (name : Octets) : Option Char :=
  match table.long.find? fun entry => entry.1.toList == name with
  | some (_, letter) => some letter
  | none =>
      match table.long.filter fun entry => name.isPrefixOf entry.1.toList with
      | [(_, letter)] => some letter
      | _ => none

def readLong (table : OptionTable) (text : Octets) (given : Given) :
    Except String (Given × Option Char) :=
  let name : Octets := text.takeWhile (· != '=')
  match table.longLetter? name, text.dropWhile (· != '=') with
  | none, _ => .error ("unrecognized option '--" ++ Octets.display text ++ "'")
  | some letter, [] =>
      if table.valued.contains letter then .ok (given, some letter)
      else .ok (given.addOption letter [], none)
  | some letter, _ :: value =>
      if table.valued.contains letter then .ok (given.addOption letter value, none)
      else .error ("option '--" ++ Octets.display name ++ "' doesn't allow an argument")

def readAll (table : OptionTable) : List Octets → Given → Except String Given
  | [], given => .ok given
  | word :: rest, given =>
      let finish (found : Given × Option Char) : Except String Given :=
        match found, rest with
        | (given, none), rest => readAll table rest given
        | (given, some letter), value :: rest =>
            readAll table rest (given.addOption letter value)
        | (_, some letter), [] =>
            .error ("option requires an argument -- '" ++ String.ofList [letter] ++ "'")
      match word with
      | ['-', '-'] => .ok { given with operands := given.operands ++ rest }
      | '-' :: '-' :: text => (table.readLong text given).bind finish
      | '-' :: letter :: letters => (table.readLetters (letter :: letters) given).bind finish
      | word => readAll table rest (given.addOperand word)

end OptionTable

namespace Process

def remark (process : Process) (message : String) : String :=
  Octets.display process.name ++ ": " ++ message

def misused (process : Process) (number : Nat) (message : String) : Outcome :=
  .complained process number
    (process.remark message ++ "\nTry '" ++ Octets.display process.name ++
      " --help' for more information.")

def withOptionsOr (process : Process) (table : OptionTable) (misused : String → Outcome)
    (run : Given → Outcome) : Outcome :=
  match table.readAll process.arguments ⟨[], []⟩ with
  | .ok given => run given
  | .error message => misused message

def withOptions (process : Process) (table : OptionTable) (misuse : Nat)
    (run : Given → Outcome) : Outcome :=
  process.withOptionsOr table (process.misused misuse) run

end Process

end TagTemplate
