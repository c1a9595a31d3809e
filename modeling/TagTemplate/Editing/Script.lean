import TagTemplate.Regex.Reader

/-! Scripts that edit texts line by line, as `sed` takes them. -/

namespace TagTemplate.Editing

inductive Address where
  | line (number : Nat)
  | last
  | containing (regex : Option Regex)
  | stepping (first step : Nat)
  | after (count : Nat)
  | multiple (factor : Nat)

structure Range where
  first : Option Address
  second : Option Address
  negated : Bool

inductive Part where
  | text (text : Octets)
  | group (number : Nat)
  | letters (capital next : Bool)
  | asTheyAre

structure Replacing where
  regex : Option Regex
  parts : List Part
  first : Nat
  all : Bool
  prints : Bool

inductive Action where
  | block (stop : Nat)
  | nothing
  | replace (replacing : Replacing)
  | recode (pairs : List (Char × Char))
  | delete
  | deleteLine
  | print
  | printLine
  | next
  | join
  | hold
  | holdMore
  | get
  | getMore
  | exchange
  | number
  | show
  | append (text : Octets)
  | insert (text : Octets)
  | change (text : Octets)
  | readFile (name : Octets)
  | writeFile (name : Octets)
  | quit (prints : Bool) (status : Nat)
  | branch (condition : Option Bool) (label : Octets)
  | label (name : Octets)

structure Command where
  range : Range
  action : Action

abbrev Script := List Command

def labelIndex? (script : Script) (name : Octets) : Option Nat :=
  script.findIdx? fun command =>
    match command.action with
    | .label label => label == name
    | _ => false

end TagTemplate.Editing
