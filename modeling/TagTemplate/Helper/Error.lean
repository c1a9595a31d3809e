import TagTemplate.Helper.Name

/-! How a helper can reject its arguments. -/

namespace TagTemplate

inductive ArgumentKind where
  | integer
  | size
  | boolean
  | date
  | number
  | character
deriving DecidableEq, Repr

def ArgumentKind.text : ArgumentKind → String
  | .integer => "integer"
  | .size => "non-negative integer"
  | .boolean => "boolean"
  | .date => "RFC 3339 date, YYYY-MM-DD or epoch milliseconds"
  | .number => "number"
  | .character => "character"

inductive Rejection where
  | narrowAbbreviation (width : Nat)
  | unmatchedSpecifier (specifier : String)
  | misplacedParenthesis (specifier : String)
  | unknownConversion (specifier : String)
  | datePattern (pattern : String)
  | stated (reason : String)
deriving DecidableEq, Repr

/-- The least width an abbreviation can have: one character and the ellipsis. -/
def leastAbbreviation : Nat := 4

def Rejection.text : Rejection → String
  | .narrowAbbreviation width =>
      "minimum abbreviation width is " ++ toString leastAbbreviation ++ ", got " ++ toString width
  | .unmatchedSpecifier specifier =>
      "format specifier '" ++ specifier ++ "' has no matching argument"
  | .misplacedParenthesis specifier => "flag '(' does not apply to '" ++ specifier ++ "'"
  | .unknownConversion specifier => "unknown format conversion '" ++ specifier ++ "'"
  | .datePattern pattern => "invalid date pattern '" ++ pattern ++ "'"
  | .stated reason => reason

inductive HelperError where
  | missingArgument (helper : Helper) (argument : String)
  | argumentType (helper : Helper) (argument : String) (expected : ArgumentKind) (found : String)
  | invalidArgument (helper : Helper) (rejection : Rejection)
deriving DecidableEq, Repr

def HelperError.message : HelperError → String
  | .missingArgument helper argument =>
      "HELPER_MISSING_ARGUMENT: " ++ helper.name ++ " requires argument '" ++ argument ++ "'"
  | .argumentType helper argument expected found =>
      "HELPER_ARGUMENT_TYPE: " ++ helper.name ++ " expected " ++ expected.text ++ " for '" ++
        argument ++ "', found " ++ found
  | .invalidArgument helper rejection =>
      "HELPER_INVALID_ARGUMENT: " ++ helper.name ++ ": " ++ rejection.text

end TagTemplate
