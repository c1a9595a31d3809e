import TagTemplate.Calendar.Date
import TagTemplate.Numeral.Digits

/-! Date patterns: literal text with items such as `%Y` or `%B`, written out for a date. -/

namespace TagTemplate.Calendar

inductive Padding where
  | none
  | zero
  | space
deriving DecidableEq, Repr

inductive NumericItem where
  | year
  | century
  | yearOfCentury
  | isoYear
  | isoYearOfCentury
  | quarter
  | month
  | day
  | weekFromSunday
  | weekFromMonday
  | isoWeek
  | weekdayFromSunday
  | weekdayFromMonday
  | ordinal
  | hour
  | hour12
  | minute
  | second
  | nanosecond
  | timestamp
deriving DecidableEq, Repr

inductive NamedItem where
  | shortMonth
  | longMonth
  | shortWeekday
  | longWeekday
  | lowerHalf
  | upperHalf
  /-- The fraction of the second with as few groups of three digits as it needs. -/
  | fraction
  /-- The fraction of the second with a number of digits, after a point or without one. -/
  | digits (count : Nat) (point : Bool)
deriving DecidableEq, Repr

inductive Item where
  | literal (c : Char)
  | numeric (item : NumericItem) (padding : Padding)
  | named (item : NamedItem)
deriving DecidableEq, Repr

def clockItems : List Item :=
  [.numeric .hour .zero, .literal ':', .numeric .minute .zero, .literal ':',
    .numeric .second .zero]

def slashItems : List Item :=
  [.numeric .month .zero, .literal '/', .numeric .day .zero, .literal '/',
    .numeric .yearOfCentury .zero]

def itemsOfLetter? (c : Char) : Option (List Item) :=
  match c with
  | 'A' => some [.named .longWeekday]
  | 'B' => some [.named .longMonth]
  | 'C' => some [.numeric .century .zero]
  | 'D' => some slashItems
  | 'F' =>
      some [.numeric .year .zero, .literal '-', .numeric .month .zero, .literal '-',
        .numeric .day .zero]
  | 'G' => some [.numeric .isoYear .zero]
  | 'H' => some [.numeric .hour .zero]
  | 'I' => some [.numeric .hour12 .zero]
  | 'M' => some [.numeric .minute .zero]
  | 'P' => some [.named .lowerHalf]
  | 'R' => some [.numeric .hour .zero, .literal ':', .numeric .minute .zero]
  | 'S' => some [.numeric .second .zero]
  | 'T' => some clockItems
  | 'U' => some [.numeric .weekFromSunday .zero]
  | 'V' => some [.numeric .isoWeek .zero]
  | 'W' => some [.numeric .weekFromMonday .zero]
  | 'X' => some clockItems
  | 'Y' => some [.numeric .year .zero]
  | 'a' => some [.named .shortWeekday]
  | 'b' => some [.named .shortMonth]
  | 'c' =>
      some ([.named .shortWeekday, .literal ' ', .named .shortMonth, .literal ' ',
        .numeric .day .space, .literal ' '] ++ clockItems ++ [.literal ' ', .numeric .year .zero])
  | 'd' => some [.numeric .day .zero]
  | 'e' => some [.numeric .day .space]
  | 'f' => some [.numeric .nanosecond .zero]
  | 'g' => some [.numeric .isoYearOfCentury .zero]
  | 'h' => some [.named .shortMonth]
  | 'j' => some [.numeric .ordinal .zero]
  | 'k' => some [.numeric .hour .space]
  | 'l' => some [.numeric .hour12 .space]
  | 'm' => some [.numeric .month .zero]
  | 'n' => some [.literal '\n']
  | 'p' => some [.named .upperHalf]
  | 'q' => some [.numeric .quarter .none]
  | 'r' =>
      some [.numeric .hour12 .zero, .literal ':', .numeric .minute .zero, .literal ':',
        .numeric .second .zero, .literal ' ', .named .upperHalf]
  | 's' => some [.numeric .timestamp .none]
  | 't' => some [.literal '\t']
  | 'u' => some [.numeric .weekdayFromMonday .none]
  | 'v' =>
      some [.numeric .day .space, .literal '-', .named .shortMonth, .literal '-',
        .numeric .year .zero]
  | 'w' => some [.numeric .weekdayFromSunday .none]
  | 'x' => some slashItems
  | 'y' => some [.numeric .yearOfCentury .zero]
  | '%' => some [.literal '%']
  | _ => none

def paddingOfSign? (c : Char) : Option Padding :=
  if c = '-' then some .none else if c = '_' then some .space else if c = '0' then some .zero
  else none

def fractionDigits? (c : Char) : Option Nat :=
  if c = '3' then some 3 else if c = '6' then some 6 else if c = '9' then some 9 else none

/-- The items at the front of a text that follows a percent sign, and what follows them. Padding can
be given for a single number only. -/
def itemsAfterPercent? : List Char → Option (List Item × List Char)
  | [] => none
  | '.' :: 'f' :: rest => some ([.named .fraction], rest)
  | '.' :: c :: 'f' :: rest =>
      (fractionDigits? c).map fun count => ([.named (.digits count true)], rest)
  | c :: rest =>
      match paddingOfSign? c with
      | some padding =>
          match rest with
          | letter :: after =>
              match itemsOfLetter? letter with
              | some [.numeric item _] => some ([.numeric item padding], after)
              | _ => none
          | [] => none
      | none =>
          match fractionDigits? c, rest with
          | some count, 'f' :: after => some ([.named (.digits count false)], after)
          | _, _ => (itemsOfLetter? c).map fun items => (items, rest)

theorem itemsAfterPercent?_length {text rest : List Char} {items : List Item}
    (found : itemsAfterPercent? text = some (items, rest)) : rest.length < text.length := by
  unfold itemsAfterPercent? at found
  split at found
  · simp at found
  · simp only [Option.some.injEq, Prod.mk.injEq] at found
    simp only [← found.2, List.length_cons]
    omega
  · simp only [Option.map_eq_some_iff, Prod.mk.injEq] at found
    obtain ⟨_, _, _, rfl⟩ := found
    simp only [List.length_cons]
    omega
  · split at found
    · split at found
      · split at found
        · simp only [Option.some.injEq, Prod.mk.injEq] at found
          simp only [← found.2, List.length_cons]
          omega
        · simp at found
      · simp at found
    · split at found
      · simp only [Option.some.injEq, Prod.mk.injEq] at found
        simp only [← found.2, List.length_cons]
        omega
      · simp only [Option.map_eq_some_iff, Prod.mk.injEq] at found
        obtain ⟨_, _, _, rfl⟩ := found
        simp

def items? (pattern : List Char) : Option (List Item) :=
  match pattern with
  | [] => some []
  | c :: rest =>
      if c = '%' then
        match _found : itemsAfterPercent? rest with
        | none => none
        | some (items, after) => (items? after).map (items ++ ·)
      else (items? rest).map (.literal c :: ·)
termination_by pattern.length
decreasing_by
  · have := itemsAfterPercent?_length (by assumption)
    simp only [List.length_cons]
    omega
  · simp

def monthNames : List String :=
  ["January", "February", "March", "April", "May", "June", "July", "August", "September",
    "October", "November", "December"]

def weekdayNames : List String :=
  ["Sunday", "Monday", "Tuesday", "Wednesday", "Thursday", "Friday", "Saturday"]

/-- A number of at most two digits, of which the first may be left out or be a space. Values up to
255 are written with the character that follows the digits in place of the tens. -/
def writeTwo (padding : Padding) (value : Nat) : List Char :=
  let tens := value / 10
  let ones := [Char.ofNat (48 + value % 10)]
  if tens = 0 ∧ padding = .none then ones
  else if tens = 0 ∧ padding = .space then ' ' :: ones
  else Char.ofNat (48 + tens) :: ones

/-- A number filled up to a width on its left. A sign, if there is one, comes before zeros and
after spaces. -/
def writeWide (padding : Padding) (width : Nat) (signed : Bool) (value : Int) : List Char :=
  let sign : List Char := if value < 0 then ['-'] else if signed then ['+'] else []
  let digits := Numeral.decimal value.natAbs
  let fill := width - (sign.length + digits.length)
  match padding with
  | .none => sign ++ digits
  | .zero => sign ++ List.replicate fill '0' ++ digits
  | .space => List.replicate fill ' ' ++ sign ++ digits

/-- A year, with a sign when it does not have four digits at most. -/
def writeYear (padding : Padding) (year : Int) : List Char :=
  if 0 ≤ year ∧ year < 10000 then writeWide padding 4 false year
  else writeWide padding 5 true year

namespace DateTime

/-- A number of a date as text. The century is kept to eight bits. -/
def writeNumeric (t : DateTime) (padding : Padding) : NumericItem → List Char
  | .year => writeYear padding t.year
  | .century => writeTwo padding ((t.year / 100) % 256).toNat
  | .yearOfCentury => writeTwo padding (t.year % 100).toNat
  | .isoYear => writeYear padding t.isoYear
  | .isoYearOfCentury => writeTwo padding (t.isoYear % 100).toNat
  | .quarter => Numeral.decimal ((t.month + 2) / 3)
  | .month => writeTwo padding t.month
  | .day => writeTwo padding t.day
  | .weekFromSunday => writeTwo padding t.weekFromSunday
  | .weekFromMonday => writeTwo padding t.weekFromMonday
  | .isoWeek => writeTwo padding t.isoWeek
  | .weekdayFromSunday => Numeral.decimal t.weekday
  | .weekdayFromMonday => Numeral.decimal t.isoWeekday
  | .ordinal => writeWide padding 3 false t.ordinal
  | .hour => writeTwo padding t.hour
  | .hour12 => writeTwo padding t.hour12
  | .minute => writeTwo padding t.minute
  | .second => writeTwo padding t.second
  | .nanosecond => writeWide padding 9 false t.nanosecond
  | .timestamp => writeWide padding 9 false t.timestamp

def fractionDigits (t : DateTime) (count : Nat) : List Char :=
  Numeral.padZeros count (Numeral.decimal (t.nanosecond / Nat.pow 10 (9 - count)))

def writeNamed (t : DateTime) : NamedItem → List Char
  | .shortMonth => (monthNames.getD (t.month - 1) "").toList.take 3
  | .longMonth => (monthNames.getD (t.month - 1) "").toList
  | .shortWeekday => (weekdayNames.getD t.weekday "").toList.take 3
  | .longWeekday => (weekdayNames.getD t.weekday "").toList
  | .lowerHalf => if t.hour < 12 then ['a', 'm'] else ['p', 'm']
  | .upperHalf => if t.hour < 12 then ['A', 'M'] else ['P', 'M']
  | .fraction =>
      if t.nanosecond = 0 then []
      else if t.nanosecond % 1000000 = 0 then '.' :: t.fractionDigits 3
      else if t.nanosecond % 1000 = 0 then '.' :: t.fractionDigits 6
      else '.' :: t.fractionDigits 9
  | .digits count point => (if point then ['.'] else []) ++ t.fractionDigits count

def writeItem (t : DateTime) : Item → List Char
  | .literal c => [c]
  | .numeric item padding => t.writeNumeric padding item
  | .named item => t.writeNamed item

def write? (t : DateTime) (pattern : List Char) : Option (List Char) :=
  (items? pattern).map fun items => items.flatMap t.writeItem

end DateTime

def styles : List (String × String) :=
  [("full", "%A, %B %-d, %Y"), ("long", "%B %-d, %Y"), ("medium", "%b %-d, %Y"),
    ("short", "%-m/%-d/%y")]

def defaultStyle : String := "medium"

def patternOf (style : String) : String :=
  match styles.find? fun entry => entry.1 == style with
  | some (_, pattern) => pattern
  | none => style

end TagTemplate.Calendar
