import TagTemplate.Helper.Standard
import TagTemplate.Template.Escape
import TagTemplate.Template.Node

/-! Rendering parsed templates against data. -/

namespace TagTemplate

def Value.resolve? (value : Value) : List String → Option Value
  | [] => some value
  | segment :: rest =>
      match value with
      | .object fields =>
          match Fields.get? fields segment with
          | some inner => inner.resolve? rest
          | none => none
      | .array items =>
          match Numeral.readSize? segment.toList with
          | some index =>
              match items[index]? with
              | some inner => inner.resolve? rest
              | none => none
          | none => none
      | _ => none

def Operand.value (data : Value) : Operand → Value
  | .literal value => value
  | .path segments => (data.resolve? segments).getD .null

namespace Expression

/-- The context value and the arguments that an expression gives to a helper: the first positional
operand is the context, the data itself when there is none. -/
def call (expression : Expression) (data : Value) : Value × Arguments :=
  let hash := Fields.ofList (expression.hash.map fun entry => (entry.1, entry.2.value data))
  match expression.params with
  | [] => (data, ⟨[], hash⟩)
  | first :: rest => (first.value data, ⟨rest.map (Operand.value data), hash⟩)

/-- The value of an expression, or nothing. A head that names a helper calls it; any other has to
stand alone and is looked up. -/
def evaluate (expression : Expression) (data : Value) (line : Nat) :
    Except TemplateError (Option Value) :=
  match Helper.ofName? expression.head with
  | some helper =>
      match helper.apply (expression.call data).1 (expression.call data).2 with
      | .ok value => .ok value
      | .error cause => .error (.helper expression.head line cause)
  | none =>
      if expression.isBare then .ok (some (expression.target.value data))
      else .error (.unknownHelper expression.head line)

end Expression

def Node.render (data : Value) : Node → Except TemplateError (List Char)
  | .text literal => .ok literal
  | .output expression raw line =>
      match expression.evaluate data line with
      | .error fault => .error fault
      | .ok none => .ok []
      | .ok (some value) =>
          let shown := value.display.toList
          .ok (if raw then shown else Markup.escape shown)

namespace Template

def renderNodes (data : Value) : List Node → Except TemplateError (List Char)
  | [] => .ok []
  | node :: rest =>
      match node.render data with
      | .error fault => .error fault
      | .ok text =>
          match renderNodes data rest with
          | .error fault => .error fault
          | .ok others => .ok (text ++ others)

def render (template : Template) (data : Value) : Except TemplateError String :=
  (renderNodes data template.nodes).map String.ofList

end Template

def render (source : String) (data : Value) : Except TemplateError String :=
  match Template.parse source with
  | .error fault => .error fault
  | .ok template => template.render data

end TagTemplate
