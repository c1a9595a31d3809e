import TagTemplate.Compiler
import TagTemplate.Precompile.Options

/-! Where a run is, as others see it, and how it ends. -/

namespace TagTemplate

inductive RunState where
  | configured
  | discovering
  /-- The index of the template being compiled, or 0 while they are compiled together. -/
  | compiling (index : Nat)
  | aggregating
  | serialized
  | failed (reason : String)
deriving DecidableEq, Repr

def RunState.text : RunState → String
  | .configured => "configured"
  | .discovering => "discovering"
  | .compiling index => "compiling #" ++ toString index
  | .aggregating => "aggregating"
  | .serialized => "serialized"
  | .failed reason => "failed: " ++ reason

structure Report where
  output : Path
  templates : List String
  bytes : Nat
deriving DecidableEq, Repr

end TagTemplate
