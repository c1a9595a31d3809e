import TagTemplate.FileTree.Change

/-! What runs share: the file system, the locked files and the clock. -/

namespace TagTemplate

structure World where
  files : FileTree
  locks : List Location
  now : Nat

namespace World

def isLocked (world : World) (file : Location) : Bool := world.locks.contains file

def lock (world : World) (file : Location) : World := { world with locks := file :: world.locks }

def unlock (world : World) (file : Location) : World :=
  { world with locks := world.locks.erase file }

def after (world : World) (milliseconds : Nat) : World :=
  { world with now := world.now + milliseconds }

end World

end TagTemplate
