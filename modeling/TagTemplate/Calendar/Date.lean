/-! Dates of the Gregorian calendar, extended to all years, and times of day. -/

namespace TagTemplate.Calendar

/-- A date and time of day without a zone. A second of sixty is a leap second. -/
structure DateTime where
  year : Int
  month : Nat
  day : Nat
  hour : Nat
  minute : Nat
  second : Nat
  nanosecond : Nat
deriving DecidableEq, Repr

def isLeapYear (year : Int) : Bool := year % 4 == 0 && (year % 100 != 0 || year % 400 == 0)

def daysInMonth (year : Int) (month : Nat) : Nat :=
  match month with
  | 1 | 3 | 5 | 7 | 8 | 10 | 12 => 31
  | 4 | 6 | 9 | 11 => 30
  | 2 => if isLeapYear year then 29 else 28
  | _ => 0

def firstYear : Int := -262143

def lastYear : Int := 262142

def DateTime.isValid (t : DateTime) : Bool :=
  firstYear ≤ t.year && t.year ≤ lastYear && 1 ≤ t.day && t.day ≤ daysInMonth t.year t.month &&
    t.hour < 24 && t.minute < 60 && t.second ≤ 60 && t.nanosecond < 1000000000

/-- The days from the first of March of the year zero to a date, for years and months that begin
in March. -/
def marchDays (year : Int) (month day : Nat) : Int :=
  year * 365 + year / 4 - year / 100 + year / 400 + ((153 * month + 2) / 5 : Nat) + day - 1

def daysFromEpoch (year : Int) (month day : Nat) : Int :=
  (if month ≤ 2 then marchDays (year - 1) (month + 9) day else marchDays year (month - 3) day) -
    719468

def dateOfDays (days : Int) : Int × Nat × Nat :=
  let shifted := days + 719468
  let era := shifted / 146097
  let dayOfEra := (shifted % 146097).toNat
  let yearOfEra :=
    (dayOfEra - dayOfEra / 1460 + dayOfEra / 36524 - dayOfEra / 146096) / 365
  let dayOfYear := dayOfEra - (365 * yearOfEra + yearOfEra / 4 - yearOfEra / 100)
  let marchMonth := (5 * dayOfYear + 2) / 153
  let day := dayOfYear - (153 * marchMonth + 2) / 5 + 1
  let month := if marchMonth < 10 then marchMonth + 3 else marchMonth - 9
  let year : Int := yearOfEra + era * 400
  (if month ≤ 2 then year + 1 else year, month, day)

def DateTime.ofMilliseconds? (milliseconds : Int) : Option DateTime :=
  let seconds := milliseconds / 1000
  let (year, month, day) := dateOfDays (seconds / 86400)
  let secondOfDay := (seconds % 86400).toNat
  if firstYear ≤ year ∧ year ≤ lastYear then
    some { year := year
           month := month
           day := day
           hour := secondOfDay / 3600
           minute := secondOfDay / 60 % 60
           second := secondOfDay % 60
           nanosecond := (milliseconds % 1000).toNat * 1000000 }
  else none

namespace DateTime

def days (t : DateTime) : Int := daysFromEpoch t.year t.month t.day

def weekday (t : DateTime) : Nat := ((t.days + 4) % 7).toNat

def isoWeekday (t : DateTime) : Nat := if t.weekday = 0 then 7 else t.weekday

def ordinal (t : DateTime) : Nat := (t.days - daysFromEpoch t.year 1 1 + 1).toNat

/-- The seconds from the start of 1970; a leap second counts as the second before it. -/
def timestamp (t : DateTime) : Int :=
  t.days * 86400 + t.hour * 3600 + t.minute * 60 + min t.second 59

/-- The week of the year when weeks begin on a day that lies `sinceStart` days back: days before the
first such day are in week zero. -/
def weekFrom (t : DateTime) (sinceStart : Nat) : Nat := (t.ordinal + 6 - sinceStart) / 7

def weekFromSunday (t : DateTime) : Nat := t.weekFrom t.weekday

def weekFromMonday (t : DateTime) : Nat := t.weekFrom (t.isoWeekday - 1)

def thursday (t : DateTime) : Int := t.days - t.isoWeekday + 4

/-- The year to which the week of a date belongs: the year of its Thursday. -/
def isoYear (t : DateTime) : Int := (dateOfDays t.thursday).1

def isoWeek (t : DateTime) : Nat := ((t.thursday - daysFromEpoch t.isoYear 1 1) / 7).toNat + 1

def hour12 (t : DateTime) : Nat := if t.hour % 12 = 0 then 12 else t.hour % 12

end DateTime

end TagTemplate.Calendar
