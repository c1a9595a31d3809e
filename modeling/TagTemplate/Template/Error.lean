import TagTemplate.Helper.Error
import TagTemplate.Numeral.Rounded

/-! How a template can be malformed, and how rendering one can fail. -/

namespace TagTemplate

inductive SyntaxFault where
  | unclosedTag
  | sectionTag (tag : String)
  | partialTag (tag : String)
  | emptyExpression
  | unterminatedText
  | namedHead (word : String)
  | lateParameter (word : String)
  | subexpression (word : String)
  | afterText (word : String)
  | parentScope (word : String)
  | invalidPath (word : String)
  | mismatchedEnd (keyword expected : String) (opened : Nat)
  | unexpectedEnd (keyword : String)
  | unclosedSection (keyword : String)
  | stated (message : String)
deriving DecidableEq, Repr

def inBraces (mark keyword : String) : String := "\x7b\x7b" ++ mark ++ keyword ++ "\x7d\x7d"

def SyntaxFault.text : SyntaxFault → String
  | .unclosedTag => "Unclosed tag, expected '\x7d\x7d'"
  | .sectionTag tag => "Sections are not supported by the interpreter: '" ++ tag ++ "'"
  | .partialTag tag => "Partials are not supported by the interpreter: '" ++ tag ++ "'"
  | .emptyExpression => "Empty expression"
  | .unterminatedText => "Unterminated string literal"
  | .namedHead word => "Expected a helper name or path, found '" ++ word ++ "'"
  | .lateParameter word => "Positional argument '" ++ word ++ "' after hash arguments"
  | .subexpression word => "Subexpressions are not supported: '" ++ word ++ "'"
  | .afterText word => "Unexpected text after string literal in '" ++ word ++ "'"
  | .parentScope word => "Parent scope paths are not supported: '" ++ word ++ "'"
  | .invalidPath word => "Invalid path '" ++ word ++ "'"
  | .mismatchedEnd keyword expected opened =>
      inBraces "/" keyword ++ " does not close " ++ inBraces "#" expected ++ " opened at line " ++
        toString opened
  | .unexpectedEnd keyword =>
      "Unexpected " ++ inBraces "/" keyword ++ " without matching " ++ inBraces "#" keyword
  | .unclosedSection keyword => "Unclosed section " ++ inBraces "#" keyword
  | .stated message => message

inductive TemplateError where
  | malformed (fault : SyntaxFault) (line : Nat)
  | unknownHelper (name : String) (line : Nat)
  | helper (name : String) (line : Nat) (cause : HelperError)
  | timeout (limit elapsed : Nat)
deriving DecidableEq, Repr

/-- A duration in milliseconds as floating-point seconds: the whole seconds and the part below a
second are rounded first, then their sum. -/
def seconds (milliseconds : Nat) : Binary64 :=
  let whole := (Binary64.ofInt (milliseconds / 1000 : Nat)).ratio
  let part :=
    ((Binary64.ofRatio? false (milliseconds % 1000) 1000).getD (Binary64.zero false)).ratio
  (Binary64.ofRatio? false (whole.1 * part.2 + part.1 * whole.2) (whole.2 * part.2)).getD
    (Binary64.zero false)

def secondsText (milliseconds : Nat) : String :=
  String.ofList ((seconds milliseconds).fixed 2) ++ "s"

namespace TemplateError

def line? : TemplateError → Option Nat
  | .malformed _ line => some line
  | .unknownHelper _ line => some line
  | .helper _ line _ => some line
  | .timeout _ _ => none

def message : TemplateError → String
  | .malformed fault line => "Malformed syntax at line " ++ toString line ++ ": " ++ fault.text
  | .unknownHelper name line =>
      "Unknown helper '" ++ name ++ "' at line " ++ toString line ++
        ". Run \x60bracelet helpers\x60 to list the available helpers"
  | .helper name line cause =>
      "Helper '" ++ name ++ "' failed at line " ++ toString line ++ ": " ++ cause.message
  | .timeout limit elapsed =>
      "Template rendering timed out after " ++ secondsText elapsed ++ " (max: " ++
        secondsText limit ++ ")"

end TemplateError

end TagTemplate
