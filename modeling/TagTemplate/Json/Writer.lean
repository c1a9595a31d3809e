import TagTemplate.Numeral.Shortest
import TagTemplate.Value

/-! The compact JSON text of values, and the text that a template shows for them. -/

namespace TagTemplate

def Number.write : Number → String
  | .integer n => String.ofList (Numeral.signedDecimal n.value)
  | .double x => String.ofList (x.write valueLayout)

namespace Json

def escapeChar (c : Char) : List Char :=
  if c = '"' then ['\\', '"']
  else if c = '\\' then ['\\', '\\']
  else if c = '\x08' then ['\\', 'b']
  else if c = '\x0c' then ['\\', 'f']
  else if c = '\n' then ['\\', 'n']
  else if c = '\r' then ['\\', 'r']
  else if c = '\t' then ['\\', 't']
  else if c.toNat < 0x20 then
    ['\\', 'u'] ++ Numeral.padZeros 4 (Numeral.digits 16 c.toNat)
  else [c]

def quote (text : String) : String :=
  String.ofList ('"' :: text.toList.flatMap escapeChar ++ ['"'])

end Json

namespace Value

mutual

def toJson : Value → String
  | .null => "null"
  | .boolean b => if b then "true" else "false"
  | .number n => n.write
  | .string text => Json.quote text
  | .array items => "[" ++ String.intercalate "," (itemsToJson items) ++ "]"
  | .object fields => "\x7b" ++ String.intercalate "," (fieldsToJson fields) ++ "\x7d"

def itemsToJson : List Value → List String
  | [] => []
  | item :: rest => toJson item :: itemsToJson rest

def fieldsToJson : List (String × Value) → List String
  | [] => []
  | (name, value) :: rest => (Json.quote name ++ ":" ++ toJson value) :: fieldsToJson rest

end

mutual

/-- The text a template shows for a value: nothing for null, a text as it is, the items of a list
separated by commas, a record as JSON. -/
def display : Value → String
  | .null => ""
  | .boolean b => if b then "true" else "false"
  | .number n => n.write
  | .string text => text
  | .array items => String.intercalate "," (displayItems items)
  | .object fields => toJson (.object fields)

def displayItems : List Value → List String
  | [] => []
  | item :: rest => display item :: displayItems rest

end

def describe (value : Value) : String := value.kind ++ " '" ++ value.display ++ "'"

end Value

end TagTemplate
