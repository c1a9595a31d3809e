import TagTemplate.Numeral.Reading

/-! The values that templates are rendered against and that helpers pass on. -/

namespace TagTemplate

/-- A number as written in data. The integer `1` and the floating-point number `1.0` are different
values. -/
inductive Number where
  | integer (n : Numeral.Integer64)
  | double (x : Binary64)
deriving DecidableEq, Repr

/-- A value: a scalar, a list, or a record with named fields in ascending order of their names. -/
inductive Value where
  | null
  | boolean (b : Bool)
  | number (n : Number)
  | string (text : String)
  | array (items : List Value)
  | object (fields : List (String × Value))
deriving Repr, Inhabited

namespace Number

def toInt64? : Number → Option Int
  | .integer n => if n.value ≤ Numeral.int64Max then some n.value else none
  | .double _ => none

def toWord64? : Number → Option Nat
  | .integer n => if 0 ≤ n.value then some n.value.toNat else none
  | .double _ => none

def toBinary64 : Number → Binary64
  | .integer n => Binary64.ofInt n.value
  | .double x => x

/-- The number as a whole number: a floating-point number counts when it has no fraction, and is
clamped to the signed integers of 64 bits, as an unsigned integer beyond them is. -/
def toWhole? (n : Number) : Option Int :=
  match n.toInt64? with
  | some i => some i
  | none => n.toBinary64.toInt?.map fun i => max Numeral.int64Min (min Numeral.int64Max i)

end Number

abbrev Fields (α : Type) := List (String × α)

def Fields.get? {α : Type} (fields : Fields α) (name : String) : Option α :=
  (fields.find? fun field => field.1 == name).map (·.2)

def Fields.insert {α : Type} (name : String) (value : α) : Fields α → Fields α
  | [] => [(name, value)]
  | (key, old) :: rest =>
      if name = key then (name, value) :: rest
      else if name < key then (name, value) :: (key, old) :: rest
      else (key, old) :: Fields.insert name value rest

def Fields.ofList {α : Type} (entries : List (String × α)) : Fields α :=
  entries.foldl (fun fields entry => Fields.insert entry.1 entry.2 fields) []

namespace Value

/-- Whether a value counts as absent: null, false, the empty list and the empty record do; zero and
the empty text do not. -/
def isFalsy : Value → Bool
  | .null => true
  | .boolean b => !b
  | .array items => items.isEmpty
  | .object fields => fields.isEmpty
  | .number _ => false
  | .string _ => false

def kind : Value → String
  | .null => "null"
  | .boolean _ => "boolean"
  | .number _ => "number"
  | .string _ => "string"
  | .array _ => "array"
  | .object _ => "object"

def present : Value → Option Value
  | .null => none
  | other => some other

end Value

end TagTemplate
