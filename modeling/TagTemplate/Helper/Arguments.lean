import TagTemplate.Helper.Error
import TagTemplate.Json.Writer
import TagTemplate.Text.Pieces

/-! The arguments of one helper call and the kinds of values read from them. -/

namespace TagTemplate

structure Arguments where
  params : List Value
  hash : Fields Value
deriving Inhabited

namespace Arguments

def empty : Arguments := ⟨[], []⟩

def param (arguments : Arguments) (value : Value) : Arguments :=
  { arguments with params := arguments.params ++ [value] }

def hashEntry (arguments : Arguments) (name : String) (value : Value) : Arguments :=
  { arguments with hash := Fields.insert name value arguments.hash }

/-- The positional argument at an index, or a default beyond the last. A null that was given stays
null. -/
def positional (arguments : Arguments) (index : Nat) (default : Value) : Value :=
  arguments.params.getD index default

def named (arguments : Arguments) (name : String) (default : Value) : Value :=
  (Fields.get? arguments.hash name).getD default

end Arguments

namespace Helper

/-- The integer that a value stands for: a number without fraction, or a text that holds a signed
integer of 64 bits between white space. -/
def integer? : Value → Option Int
  | .number n => n.toWhole?
  | .string text => Numeral.readInt64? (Text.trim text.toList)
  | _ => none

def expectInteger (helper : Helper) (argument : String) (value : Value) :
    Except HelperError Int :=
  match value with
  | .null => .error (.missingArgument helper argument)
  | other =>
      match integer? other with
      | some n => .ok n
      | none => .error (.argumentType helper argument .integer other.describe)

def expectSize (helper : Helper) (argument : String) (value : Value) : Except HelperError Nat :=
  match expectInteger helper argument value with
  | .error fault => .error fault
  | .ok n =>
      if n < 0 then
        .error (.argumentType helper argument .size (String.ofList (Numeral.signedDecimal n)))
      else .ok n.toNat

def expectBoolean (helper : Helper) (argument : String) (value : Value) (default : Bool) :
    Except HelperError Bool :=
  match value with
  | .null => .ok default
  | .boolean b => .ok b
  | other =>
      match other with
      | .string "true" => .ok true
      | .string "false" => .ok false
      | _ => .error (.argumentType helper argument .boolean other.describe)

def expectText (helper : Helper) (argument : String) (value : Value) :
    Except HelperError (List Char) :=
  match value with
  | .null => .error (.missingArgument helper argument)
  | other => .ok other.display.toList

end Helper

end TagTemplate
