import TagTemplate.Bundle

/-! The settings of one run that compiles templates into a bundle. -/

namespace TagTemplate

structure Options where
  root : Path
  suffix : String
  output : Path
  /-- The names to compile; with none of them the root is scanned. -/
  templates : List String
  format : ModuleFormat
  parallel : Bool
  timeout : Option Nat
  lockTimeout : Nat
deriving DecidableEq, Repr

def defaultLockTimeout : Nat := 30000

end TagTemplate
