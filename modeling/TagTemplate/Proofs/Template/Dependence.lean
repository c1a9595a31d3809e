import Mathlib.Data.List.Basic
import TagTemplate.Template.Render

/-! Rendering depends on nothing but the values of the paths that a template reads. -/

namespace TagTemplate

def Operand.reads : Operand → List (List String)
  | .literal _ => []
  | .path segments => [segments]

/-- The paths whose values a helper is given: those of the positional operands, or the whole data
in their place when there are none, and those of the named operands. -/
def Expression.callReads (expression : Expression) : List (List String) :=
  (if expression.params.isEmpty then [[]] else expression.params.flatMap Operand.reads) ++
    expression.hash.flatMap fun entry => entry.2.reads

/-- The paths that an expression looks up. A head that names a helper is never looked up itself, and
one that does not is looked up only when it stands alone. -/
def Expression.reads (expression : Expression) : List (List String) :=
  if (Helper.ofName? expression.head).isSome then expression.callReads
  else if expression.isBare then expression.target.reads
  else []

def Node.reads : Node → List (List String)
  | .text _ => []
  | .output expression _ _ => expression.reads

def Template.reads (template : Template) : List (List String) := template.nodes.flatMap Node.reads

/-- Two values are alike at some paths; what is missing there is like null. -/
def Value.AlikeAt (paths : List (List String)) (one other : Value) : Prop :=
  ∀ path ∈ paths, (one.resolve? path).getD .null = (other.resolve? path).getD .null

section
variable {one other : Value}

theorem Value.AlikeAt.mono {few many : List (List String)} (alike : AlikeAt many one other)
    (within : ∀ path ∈ few, path ∈ many) : AlikeAt few one other := by
  intro path member
  exact alike path (within path member)

end

end TagTemplate
