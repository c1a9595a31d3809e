import TagTemplate.Lock.Error

/-! The ways in which a run of the program fails, with their messages and exit codes. -/

namespace TagTemplate

structure Diagnostic where
  message : String
  /-- The position in the template in bytes, when it is known. -/
  offset : Option Nat
deriving DecidableEq, Repr

def Diagnostic.text (diagnostic : Diagnostic) : String :=
  match diagnostic.offset with
  | some offset => diagnostic.message ++ " (at offset " ++ toString offset ++ ")"
  | none => diagnostic.message

inductive Stage where
  | compiling
  | writing
deriving DecidableEq, Repr

def Stage.text : Stage → String
  | .compiling => "compiling"
  | .writing => "writing"

inductive Interruption where
  | duringDiscovery
  | before (stage : Stage)
  | deadline (limit : Nat) (stage : Stage)
  | aborted
  | stated (text : String)
deriving DecidableEq, Repr

def Interruption.text : Interruption → String
  | .duringDiscovery => "cancelled during discovery"
  | .before stage => "cancelled before " ++ stage.text
  | .deadline limit stage =>
      "deadline of " ++ secondsText limit ++ " exceeded before " ++ stage.text
  | .aborted => "compilation aborted"
  | .stated text => text

inductive ReplaceStep where
  | create
  | write
  | sync
  | persist
  | openDirectory
  | syncDirectory
deriving DecidableEq, Repr

def ReplaceStep.text : ReplaceStep → String
  | .create => "create temp file"
  | .write => "write temp file"
  | .sync => "sync temp file"
  | .persist => "persist temp file"
  | .openDirectory => "open parent dir"
  | .syncDirectory => "sync parent dir"

inductive WriteFault where
  | parentDirectory (cause : IoError)
  | lock (cause : LockError)
  | replace (step : ReplaceStep) (cause : IoError)
  | stated (reason : String)
deriving DecidableEq, Repr

def WriteFault.text : WriteFault → String
  | .parentDirectory cause => "failed to create parent dir: " ++ cause.message
  | .lock cause => "failed to acquire lock: " ++ cause.message
  | .replace step cause => "failed to " ++ step.text ++ ": " ++ cause.message
  | .stated reason => reason

inductive CompilerFault where
  | unknownProgram (program : String)
  /-- An entry of the search path holds the character that separates entries. -/
  | searchPath
  | unconfigured
  | stated (reason : String)
deriving DecidableEq, Repr

def CompilerFault.text : CompilerFault → String
  | .unknownProgram program => "'" ++ program ++ "': cannot find binary path"
  | .searchPath => "invalid search path: path segment contains separator \x60:\x60"
  | .unconfigured =>
      "no reference compiler configured; set [precompile.compiler] program or pass --compiler"
  | .stated reason => reason

inductive ConfigFault where
  | unreadable (path : Path) (cause : IoError)
  | malformed
  | stated (reason : String)
deriving DecidableEq, Repr

/-- The reason in words. The place of a fault in a configuration's text is not described. -/
def ConfigFault.text : ConfigFault → String
  | .unreadable path cause => path.display ++ ": " ++ cause.message
  | .malformed => "malformed configuration"
  | .stated reason => reason

inductive InvalidSetting where
  | zeroTimeout
  | blankRuntime
  | suffixSeparator
  | blankTemplate (name : String)
  | blankProgram
  | stated (field reason : String)
deriving DecidableEq, Repr

def InvalidSetting.field : InvalidSetting → String
  | .zeroTimeout => "precompile.timeout_secs"
  | .blankRuntime => "precompile.runtime"
  | .suffixSeparator => "precompile.suffix"
  | .blankTemplate _ => "precompile.templates"
  | .blankProgram => "precompile.compiler.program"
  | .stated field _ => field

def InvalidSetting.reason : InvalidSetting → String
  | .zeroTimeout => "must be greater than zero"
  | .blankRuntime => "must not be empty"
  | .suffixSeparator => "must not contain path separators"
  | .blankTemplate name => "invalid template name '" ++ name ++ "'"
  | .blankProgram => "must not be empty"
  | .stated _ reason => reason

inductive Failure where
  | templateNotFound (name : String) (path : Path)
  | rootNotFound (path : Path)
  | templateUnreadable (path : Path) (cause : IoError)
  | duplicateTemplate (name : String)
  | rejected (name : String) (diagnostic : Diagnostic)
  | compilerNotFound (fault : CompilerFault)
  | outputNotWritten (path : Path) (fault : WriteFault)
  | cancelled (interruption : Interruption)
  | configUnreadable (fault : ConfigFault)
  | configInvalid (setting : InvalidSetting)
  | template (cause : TemplateError)
  | io (cause : IoError)
deriving DecidableEq, Repr

namespace Failure

def message : Failure → String
  | .templateNotFound name path =>
      "TEMPLATE_NOT_FOUND: template '" ++ name ++ "' not found at " ++ path.display
  | .rootNotFound path =>
      "TEMPLATE_ROOT_NOT_FOUND: template root '" ++ path.display ++ "' is not a directory"
  | .templateUnreadable path cause =>
      "TEMPLATE_READ_ERROR: failed to read '" ++ path.display ++ "': " ++ cause.message
  | .duplicateTemplate name =>
      "DUPLICATE_TEMPLATE: template '" ++ name ++ "' appears more than once"
  | .rejected name diagnostic =>
      "COMPILE_ERROR: template '" ++ name ++ "' failed to compile: " ++ diagnostic.text
  | .compilerNotFound fault => "COMPILER_NOT_FOUND: " ++ fault.text
  | .outputNotWritten path fault =>
      "OUTPUT_WRITE_ERROR: failed to write '" ++ path.display ++ "': " ++ fault.text
  | .cancelled interruption => "CANCELLED: " ++ interruption.text
  | .configUnreadable fault => "CONFIG_PARSE_ERROR: " ++ fault.text
  | .configInvalid setting =>
      "CONFIG_INVALID_VALUE: " ++ setting.field ++ ": " ++ setting.reason
  | .template cause => "TEMPLATE_ERROR: " ++ cause.message
  | .io cause => "IO_ERROR: " ++ cause.message

def exitCode : Failure → Nat
  | .templateNotFound _ _ | .rootNotFound _ | .compilerNotFound _ => 2
  | .rejected _ _ | .template _ => 3
  | .outputNotWritten _ _ => 4
  | .cancelled _ => 5
  | .configUnreadable _ | .configInvalid _ => 6
  | .templateUnreadable _ _ | .duplicateTemplate _ | .io _ => 1

def chain (failure : Failure) : List String :=
  failure.message ::
    match failure with
    | .templateUnreadable _ cause | .io cause => [cause.message]
    | .template cause =>
        cause.message ::
          match cause with
          | .helper _ _ inner => [inner.message]
          | _ => []
    | _ => []

end Failure

end TagTemplate
