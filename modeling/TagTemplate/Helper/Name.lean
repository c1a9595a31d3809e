import TagTemplate.Value

/-! The standard helpers and the names templates call them by. -/

namespace TagTemplate

inductive Helper where
  | capitalizeFirst
  | center
  | cut
  | defaultIfEmpty
  | join
  | ljust
  | rjust
  | substring
  | lower
  | upper
  | slugify
  | replace
  | stringFormat
  | stripTags
  | capitalize
  | abbreviate
  | wordWrap
  | yesno
  | dateFormat
deriving DecidableEq, Repr

namespace Helper

def all : List Helper :=
  [.capitalizeFirst, .center, .cut, .defaultIfEmpty, .join, .ljust, .rjust, .substring, .lower,
    .upper, .slugify, .replace, .stringFormat, .stripTags, .capitalize, .abbreviate, .wordWrap,
    .yesno, .dateFormat]

def name : Helper → String
  | .capitalizeFirst => "capitalizeFirst"
  | .center => "center"
  | .cut => "cut"
  | .defaultIfEmpty => "defaultIfEmpty"
  | .join => "join"
  | .ljust => "ljust"
  | .rjust => "rjust"
  | .substring => "substring"
  | .lower => "lower"
  | .upper => "upper"
  | .slugify => "slugify"
  | .replace => "replace"
  | .stringFormat => "stringFormat"
  | .stripTags => "stripTags"
  | .capitalize => "capitalize"
  | .abbreviate => "abbreviate"
  | .wordWrap => "wordWrap"
  | .yesno => "yesno"
  | .dateFormat => "dateFormat"

def ofName? (name : String) : Option Helper := all.find? fun helper => helper.name == name

/-- Whether a helper gives its first argument back unread when its context value is falsy. The
others have rules of their own for missing values. -/
def shortCircuits : Helper → Bool
  | .join | .yesno | .defaultIfEmpty => false
  | _ => true

def sorted : List Helper := (Fields.ofList (all.map fun helper => (helper.name, helper))).map (·.2)

theorem ofName?_name (helper : Helper) : ofName? helper.name = some helper := by
  cases helper <;> decide

end Helper

end TagTemplate
