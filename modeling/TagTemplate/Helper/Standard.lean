import TagTemplate.Calendar.Pattern
import TagTemplate.Calendar.Reader
import TagTemplate.Format.Rendering
import TagTemplate.Text.Replacement
import TagTemplate.Text.Padding

/-! What each standard helper makes of its context value and its arguments. -/

namespace TagTemplate.Helper

def textOf (value : Value) : List Char := value.display.toList

def rendered (text : List Char) : Option Value := some (.string (String.ofList text))

def sizeAndPad (helper : Helper) (arguments : Arguments) :
    Except HelperError (Nat × List Char) :=
  match expectSize helper "size" (arguments.named "size" .null) with
  | .error fault => .error fault
  | .ok size =>
      .ok (size,
        match arguments.named "pad" .null with
        | .null => [' ']
        | other => textOf other)

def padded (helper : Helper) (place : Nat → List Char → List Char → List Char) (context : Value)
    (arguments : Arguments) : Except HelperError (Option Value) :=
  match sizeAndPad helper arguments with
  | .error fault => .error fault
  | .ok (size, unit) => .ok (rendered (place size unit (textOf context)))

/-- Joins a list with its first argument between the items. Any other value but null is joined with
the arguments after it, the last of which is the separator. -/
def applyJoin (context : Value) (arguments : Arguments) : Except HelperError (Option Value) :=
  let fault : HelperError := .missingArgument .join "separator"
  let joined (separator : Value) (items : List Value) : Option Value :=
    if items.isEmpty then rendered []
    else
      rendered (textOf (arguments.named "prefix" (.string "")) ++
        List.intercalate (textOf separator) (items.map textOf) ++
        textOf (arguments.named "suffix" (.string "")))
  match context with
  | .array items =>
      match arguments.params.head? with
      | none => .error fault
      | some separator => .ok (joined separator items)
  | .null => if arguments.params.isEmpty then .error fault else .ok (rendered [])
  | other =>
      match arguments.params.getLast? with
      | none => .error fault
      | some separator => .ok (joined separator (other :: arguments.params.dropLast))

/-- Chooses among three named arguments by a truth value; anything that is not one is in doubt. -/
def applyYesno (context : Value) (arguments : Arguments) : Option Value :=
  Value.present (match context with
    | .boolean true => arguments.named "yes" (.string "yes")
    | .boolean false => arguments.named "no" (.string "no")
    | _ => arguments.named "maybe" (.string "maybe"))

def lacksContent : Value → Bool
  | .null | .boolean false => true
  | .array items => items.isEmpty
  | .object fields => fields.isEmpty
  | _ => false

def applyDefaultIfEmpty (context : Value) (arguments : Arguments) : Option Value :=
  if lacksContent context then Value.present (arguments.positional 0 (.string "")) else some context

def applySubstring (context : Value) (arguments : Arguments) : Except HelperError (Option Value) :=
  let text := textOf context
  match expectInteger .substring "start" (arguments.positional 0 .null) with
  | .error fault => .error fault
  | .ok start =>
      match arguments.positional 1 .null with
      | .null => .ok (rendered (Text.slice start text.length text))
      | other =>
          match expectInteger .substring "end" other with
          | .error fault => .error fault
          | .ok stop => .ok (rendered (Text.slice start stop text))

def applyReplace (context : Value) (arguments : Arguments) : Except HelperError (Option Value) :=
  match expectText .replace "target" (arguments.positional 0 .null) with
  | .error fault => .error fault
  | .ok target =>
      match expectText .replace "replacement" (arguments.positional 1 .null) with
      | .error fault => .error fault
      | .ok replacement => .ok (rendered (Text.replaceAll target replacement (textOf context)))

def applyAbbreviate (context : Value) (arguments : Arguments) : Except HelperError (Option Value) :=
  match expectSize .abbreviate "maxWidth" (arguments.positional 0 .null) with
  | .error fault => .error fault
  | .ok width =>
      if width < leastAbbreviation then
        .error (.invalidArgument .abbreviate (.narrowAbbreviation width))
      else .ok (rendered (Text.abbreviate width (textOf context)))

def applyWordWrap (context : Value) (arguments : Arguments) : Except HelperError (Option Value) :=
  match expectSize .wordWrap "width" (arguments.positional 0 .null) with
  | .error fault => .error fault
  | .ok width => .ok (rendered (Text.wrap (max width 1) (textOf context)))

def applyCapitalize (context : Value) (arguments : Arguments) : Except HelperError (Option Value) :=
  match expectBoolean .capitalize "fully" (arguments.named "fully" .null) false with
  | .error fault => .error fault
  | .ok fully => .ok (rendered (Text.capitalize fully (textOf context)))

def date? : Value → Option Calendar.DateTime
  | .number n => n.toInt64?.bind Calendar.DateTime.ofMilliseconds?
  | .string text => Calendar.read? text.toList
  | _ => none

def applyDateFormat (context : Value) (arguments : Arguments) : Except HelperError (Option Value) :=
  match date? context with
  | none => .error (.argumentType .dateFormat "date" .date context.describe)
  | some time =>
      let style :=
        match arguments.positional 0 .null with
        | .null => Calendar.defaultStyle
        | other => other.display
      let pattern := Calendar.patternOf style
      match time.write? pattern.toList with
      | some text => .ok (rendered text)
      | none => .error (.invalidArgument .dateFormat (.datePattern pattern))

def applyStringFormat (context : Value) (arguments : Arguments) :
    Except HelperError (Option Value) :=
  match Format.format .stringFormat (textOf context) arguments.params with
  | .error fault => .error fault
  | .ok text => .ok (rendered text)

def transform (helper : Helper) (context : Value) (arguments : Arguments) :
    Except HelperError (Option Value) :=
  match helper with
  | .join => applyJoin context arguments
  | .yesno => .ok (applyYesno context arguments)
  | .defaultIfEmpty => .ok (applyDefaultIfEmpty context arguments)
  | .dateFormat => applyDateFormat context arguments
  | .stringFormat => applyStringFormat context arguments
  | .capitalizeFirst => .ok (rendered (Text.capitalizeFirst (textOf context)))
  | .capitalize => applyCapitalize context arguments
  | .lower => .ok (rendered (Unicode.toLower (textOf context)))
  | .upper => .ok (rendered (Unicode.toUpper (textOf context)))
  | .center => padded .center Text.center context arguments
  | .ljust => padded .ljust Text.padRight context arguments
  | .rjust => padded .rjust Text.padLeft context arguments
  | .cut =>
      .ok (rendered
        (Text.replaceAll (textOf (arguments.positional 0 (.string " "))) [] (textOf context)))
  | .substring => applySubstring context arguments
  | .replace => applyReplace context arguments
  | .slugify => .ok (rendered (Text.slugify (textOf context)))
  | .stripTags => .ok (rendered (Text.stripTags (textOf context)))
  | .abbreviate => applyAbbreviate context arguments
  | .wordWrap => applyWordWrap context arguments

def apply (helper : Helper) (context : Value) (arguments : Arguments) :
    Except HelperError (Option Value) :=
  if helper.shortCircuits && context.isFalsy then
    .ok (Value.present (arguments.positional 0 .null))
  else helper.transform context arguments

end TagTemplate.Helper
