/-! Errors of the file system and of starting programs. -/

namespace TagTemplate

inductive IoError where
  | notPermitted
  | notFound
  | badExecutable
  | busy
  | alreadyExists
  | notDirectory
  | isDirectory
  | tooManyLinks
  | notEmpty
  | nameTooLong
  | argumentTooLong
  | nulInPath
  | nulInCommand
  | notUtf8
  | stated (message : String)
deriving DecidableEq, Repr

namespace IoError

def number? : IoError → Option Nat
  | .notPermitted => some 13
  | .notFound => some 2
  | .badExecutable => some 8
  | .busy => some 16
  | .alreadyExists => some 17
  | .notDirectory => some 20
  | .isDirectory => some 21
  | .tooManyLinks => some 40
  | .notEmpty => some 39
  | .nameTooLong => some 36
  | .argumentTooLong => some 7
  | .nulInPath | .nulInCommand | .notUtf8 | .stated _ => none

def reason : IoError → String
  | .notPermitted => "Permission denied"
  | .notFound => "No such file or directory"
  | .badExecutable => "Exec format error"
  | .busy => "Device or resource busy"
  | .alreadyExists => "File exists"
  | .notDirectory => "Not a directory"
  | .isDirectory => "Is a directory"
  | .tooManyLinks => "Too many levels of symbolic links"
  | .notEmpty => "Directory not empty"
  | .nameTooLong => "File name too long"
  | .argumentTooLong => "Argument list too long"
  | .nulInPath => "file name contained an unexpected NUL byte"
  | .nulInCommand => "nul byte found in provided data"
  | .notUtf8 => "stream did not contain valid UTF-8"
  | .stated text => text

def message (error : IoError) : String :=
  match error.number? with
  | some number => error.reason ++ " (os error " ++ toString number ++ ")"
  | none => error.reason

end IoError

end TagTemplate
