import TagTemplate.IoError
import TagTemplate.Path
import TagTemplate.Template.Error

/-! How a lock can fail to be acquired. -/

namespace TagTemplate

inductive LockAction where
  | createDirectory
  | openFile
  | lock
deriving DecidableEq, Repr

def LockAction.text : LockAction → String
  | .createDirectory => "create the directory of"
  | .openFile => "open"
  | .lock => "lock"

inductive LockError where
  | busy (path : Path) (purpose : String) (waited : Nat)
  | io (path : Path) (action : LockAction) (cause : IoError)
deriving DecidableEq, Repr

def LockError.message : LockError → String
  | .busy path purpose waited =>
      path.display ++ " is held by another run; gave up on '" ++ purpose ++ "' after " ++
        secondsText waited
  | .io path action cause =>
      "cannot " ++ action.text ++ " " ++ path.display ++ ": " ++ cause.message

end TagTemplate
