import TagTemplate.Calendar.Pattern
import TagTemplate.Calendar.Reader
import TagTemplate.Proofs.Calendar
import TagTemplate.Proofs.Numeral
import TagTemplate.Proofs.Text

/-! Dates that are written in full and read back, with a zone and without one. -/

namespace TagTemplate.Calendar

open Numeral

section Numbers

structure Shows (text : List Char) (width value : Nat) : Prop where
  digits : ∀ c ∈ text, c.isDigit = true
  length : text.length = width
  value : ofDigits 10 text = value

theorem shows_writeTwo {value : Nat} (bound : value < 100) :
    Shows (writeTwo .zero value) 2 value := by
  have all : ∀ value : Fin 100, (writeTwo .zero value).all Char.isDigit = true ∧
      (writeTwo .zero value).length = 2 ∧ ofDigits 10 (writeTwo .zero value) = value := by decide
  obtain ⟨digits, length, same⟩ := all ⟨value, bound⟩
  exact ⟨List.all_eq_true.mp digits, length, same⟩

theorem shows_writeYear {year : Nat} (bound : year < 10000) :
    Shows (writeYear .zero year) 4 year := by
  have written : writeYear .zero year =
      List.replicate (4 - (decimal year).length) '0' ++ decimal year := by
    rw [writeYear, if_pos (by omega), writeWide, if_neg (by omega)]
    simp
  have short : (decimal year).length ≤ 4 := length_digits_le (by decide) bound
  rw [written]
  constructor
  case digits => exact fun _ => isDigit_of_mem_zeros
  case length =>
    rw [List.length_append, List.length_replicate]
    omega
  case value => rw [ofDigits_zeros, ofDigits_decimal]

variable {text : List Char} {width value : Nat} (shows : Shows text width value)
include shows

theorem Shows.number?_append {least : Nat} (enough : least ≤ width) (rest : List Char) :
    number? least width (text ++ rest) = some (value, rest) := by
  have front : ((text ++ rest).take width).takeWhile Char.isDigit = text := by
    rw [← shows.length, List.take_left]
    have passed : (text ++ []).takeWhile Char.isDigit = text ++ [].takeWhile Char.isDigit :=
      List.takeWhile_append_of_pos shows.digits
    rwa [List.takeWhile_nil, List.append_nil] at passed
  rw [number?]
  simp only [front]
  rw [if_neg (by rw [shows.length]; omega), shows.value, List.drop_left]

theorem Shows.number?_exact (rest : List Char) :
    number? width width (text ++ rest) = some (value, rest) :=
  shows.number?_append (Nat.le_refl width) rest

theorem Shows.number?_last : number? width width text = some (value, []) := by
  have read := shows.number?_exact []
  rwa [List.append_nil] at read

theorem Shows.head (some : 0 < width) :
    ∃ c rest, text = c :: rest ∧ c.isDigit = true := by
  obtain ⟨c, rest, rfl⟩ := List.exists_cons_of_length_pos (shows.length ▸ some)
  exact ⟨c, rest, rfl, shows.digits c List.mem_cons_self⟩

theorem Shows.solid : ∀ c ∈ text, Unicode.isBlank c = false :=
  fun c member => isBlank_of_isDigit (shows.digits c member)

theorem Shows.dropWhile_isBlank (some : 0 < width) (rest : List Char) :
    (text ++ rest).dropWhile Unicode.isBlank = text ++ rest := by
  obtain ⟨c, others, rfl, digit⟩ := shows.head some
  rw [List.cons_append, List.dropWhile_cons_of_neg (by simp [isBlank_of_isDigit digit])]

end Numbers

theorem mark?_cons (c : Char) (rest : List Char) : mark? c (c :: rest) = some rest := if_pos rfl

theorem separator?_letter (rest : List Char) : separator? ('T' :: rest) = some rest := rfl

theorem looseNumber?_append {text : List Char} {value : Nat} (shows : Shows text 2 value)
    (rest : List Char) : looseNumber? (text ++ rest) = some (value, rest) := by
  rw [looseNumber?, shows.dropWhile_isBlank (by decide), shows.number?_append (by decide)]

theorem looseNumber?_last {text : List Char} {value : Nat} (shows : Shows text 2 value) :
    looseNumber? text = some (value, []) := by
  have read := looseNumber?_append shows []
  rwa [List.append_nil] at read

theorem looseYear?_append {text : List Char} {value : Nat} (shows : Shows text 4 value)
    (rest : List Char) : looseYear? (text ++ rest) = some ((value : Int), rest) := by
  have read : number? 1 4 (text ++ rest) = some (value, rest) :=
    shows.number?_append (by decide) rest
  obtain ⟨c, others, rfl, digit⟩ := shows.head (by decide)
  rw [looseYear?, shows.dropWhile_isBlank (by decide), List.cons_append]
  split
  next same => exact absurd digit (by rw [(List.cons.inj same).1]; decide)
  next same => exact absurd digit (by rw [(List.cons.inj same).1]; decide)
  next => rw [← List.cons_append, read, Option.map_some]

theorem zoneEnd?_offset {sign : Char} {hours minutes : Nat} (signed : sign = '+' ∨ sign = '-')
    (day : hours < 24) (hour : minutes < 60) :
    zoneEnd? (sign :: (writeTwo .zero hours ++ ':' :: writeTwo .zero minutes)) = some [] := by
  have shows : Shows (writeTwo .zero hours) 2 hours := shows_writeTwo (Nat.lt_trans day (by decide))
  have last : Shows (writeTwo .zero minutes) 2 minutes :=
    shows_writeTwo (Nat.lt_trans hour (by decide))
  have noZ : ¬ (sign = 'Z' ∨ sign = 'z') := by
    rcases signed with rfl | rfl <;> decide
  rw [zoneEnd?, if_neg noZ, if_pos (signed.imp_right .inl)]
  simp only [shows.number?_exact, mark?_cons, last.number?_last, Option.bind_eq_bind,
    Option.bind_some, if_pos (And.intro day hour)]

namespace DateTime

theorem IsPlain.isValid {t : DateTime} (plain : t.IsPlain) : t.isValid = true := by
  obtain ⟨least, below⟩ := plain.year
  have second := plain.second
  have years : firstYear ≤ t.year ∧ t.year ≤ lastYear := by
    unfold firstYear lastYear
    omega
  simp only [DateTime.isValid, Bool.and_eq_true, decide_eq_true_eq, years, plain.date.first,
    plain.date.last, plain.hour, plain.minute, plain.whole, Nat.le_of_lt second]
  decide

theorem IsPlain.eta {t : DateTime} (plain : t.IsPlain) :
    ⟨t.year, t.month, t.day, t.hour, t.minute, t.second, 0⟩ = t := by
  rw [← plain.whole]

def dayText (t : DateTime) : List Char :=
  writeYear .zero t.year ++ '-' :: (writeTwo .zero t.month ++ '-' :: writeTwo .zero t.day)

def clockText (t : DateTime) : List Char :=
  writeTwo .zero t.hour ++ ':' :: (writeTwo .zero t.minute ++ ':' :: writeTwo .zero t.second)

def fullText (t : DateTime) : List Char := t.dayText ++ 'T' :: t.clockText

theorem write?_fullText (t : DateTime) :
    t.write? "%Y-%m-%dT%H:%M:%S".toList = some t.fullText := by
  have items : items? "%Y-%m-%dT%H:%M:%S".toList =
      some ([.numeric .year .zero, .literal '-', .numeric .month .zero, .literal '-',
        .numeric .day .zero, .literal 'T'] ++ clockItems) := by cbv
  rw [write?, items, Option.map_some]
  simp [clockItems, writeItem, writeNumeric, fullText, dayText, clockText]

section Reading
variable {t : DateTime} (plain : t.IsPlain)
include plain

theorem IsPlain.shows_year : Shows (writeYear .zero t.year) 4 t.year.toNat := by
  obtain ⟨least, below⟩ := plain.year
  obtain ⟨year, same⟩ := Int.eq_ofNat_of_zero_le least
  rw [same]
  exact shows_writeYear (by omega)

theorem IsPlain.shows_month : Shows (writeTwo .zero t.month) 2 t.month :=
  shows_writeTwo (by have := plain.date.bounds; omega)

theorem IsPlain.shows_day : Shows (writeTwo .zero t.day) 2 t.day :=
  shows_writeTwo (by have := plain.date.bounds; omega)

theorem IsPlain.shows_hour : Shows (writeTwo .zero t.hour) 2 t.hour :=
  shows_writeTwo (Nat.lt_trans plain.hour (by decide))

theorem IsPlain.shows_minute : Shows (writeTwo .zero t.minute) 2 t.minute :=
  shows_writeTwo (Nat.lt_trans plain.minute (by decide))

theorem IsPlain.shows_second : Shows (writeTwo .zero t.second) 2 t.second :=
  shows_writeTwo (Nat.lt_trans plain.second (by decide))

theorem IsPlain.looseDate?_dayText (rest : List Char) :
    looseDate? (t.dayText ++ rest) = some ((t.year, t.month, t.day), rest) := by
  have year : ((t.year.toNat : Nat) : Int) = t.year := Int.toNat_of_nonneg plain.year.1
  simp only [looseDate?, dayText, List.append_assoc, List.cons_append,
    looseYear?_append plain.shows_year, mark?_cons, looseNumber?_append plain.shows_month,
    looseNumber?_append plain.shows_day, Option.bind_eq_bind, Option.bind_some, year]

theorem IsPlain.solid_dayText : ∀ c ∈ t.dayText, Unicode.isBlank c = false := by
  simp only [dayText, List.forall_mem_append, List.forall_mem_cons]
  exact ⟨plain.shows_year.solid, by decide, plain.shows_month.solid, by decide,
    plain.shows_day.solid⟩

theorem IsPlain.solid_fullText : ∀ c ∈ t.fullText, Unicode.isBlank c = false := by
  simp only [fullText, clockText, List.forall_mem_append, List.forall_mem_cons]
  exact ⟨plain.solid_dayText, by decide, plain.shows_hour.solid, by decide,
    plain.shows_minute.solid, by decide, plain.shows_second.solid⟩

theorem IsPlain.take_fullText : t.fullText.take 10 = t.dayText := by
  have length : t.dayText.length = 10 := by
    simp only [dayText, List.length_append, List.length_cons, plain.shows_year.length,
      plain.shows_month.length, plain.shows_day.length]
  rw [fullText, ← length, List.take_left]

theorem IsPlain.readZoned?_fullText (zone : List Char) (noPoint : zone.head? ≠ some '.') :
    readZoned? (t.fullText ++ zone) =
      (zoneEnd? zone).bind fun rest => if rest = [] then some t else none := by
  have year : ((t.year.toNat : Nat) : Int) = t.year := Int.toNat_of_nonneg plain.year.1
  simp only [readZoned?, Option.bind_eq_bind, fullText, dayText, clockText, List.append_assoc,
    List.cons_append]
  rw [plain.shows_year.number?_exact, Option.bind_some, mark?_cons, Option.bind_some,
    plain.shows_month.number?_exact, Option.bind_some, mark?_cons, Option.bind_some,
    plain.shows_day.number?_exact, Option.bind_some, separator?_letter, Option.bind_some,
    plain.shows_hour.number?_exact, Option.bind_some, mark?_cons, Option.bind_some,
    plain.shows_minute.number?_exact, Option.bind_some, mark?_cons, Option.bind_some,
    plain.shows_second.number?_exact, Option.bind_some]
  split
  next same => exact absurd (congrArg List.head? same) noPoint
  next => simp only [Option.bind_some, year, plain.eta, plain.isValid, and_true]

theorem IsPlain.readZoned?_dayText : readZoned? t.dayText = none := by
  simp only [readZoned?, Option.bind_eq_bind, dayText]
  rw [plain.shows_year.number?_exact, Option.bind_some, mark?_cons, Option.bind_some,
    plain.shows_month.number?_exact, Option.bind_some, mark?_cons, Option.bind_some,
    plain.shows_day.number?_last, Option.bind_some]
  rfl

theorem IsPlain.readLocal?_fullText : readLocal? t.fullText = some t := by
  simp only [readLocal?, fullText, clockText, plain.looseDate?_dayText, mark?_cons,
    looseNumber?_append plain.shows_hour, looseNumber?_append plain.shows_minute,
    looseNumber?_last plain.shows_second, plain.eta, plain.isValid, and_true, if_true,
    Option.bind_eq_bind, Option.bind_some]

theorem IsPlain.looseDate?_last :
    looseDate? t.dayText = some ((t.year, t.month, t.day), []) := by
  have read := plain.looseDate?_dayText []
  rwa [List.append_nil] at read

theorem IsPlain.readLocal?_dayText : readLocal? t.dayText = none := by
  rw [readLocal?, plain.looseDate?_last]
  rfl

theorem IsPlain.readDay?_dayText (midnight : t.IsMidnight) : readDay? t.dayText = some t := by
  obtain ⟨hour, minute, second⟩ := midnight
  have start := plain.eta
  rw [hour, minute, second] at start
  rw [readDay?, plain.looseDate?_last]
  simp only [start, plain.isValid, and_true, if_true, Option.bind_eq_bind, Option.bind_some]

end Reading

end DateTime

/-- The ways to write a moment whose date and time of day are written as `whole`: without a zone or
with any zone, and at midnight also as the date alone. -/
inductive Form (whole : List Char) (midnight : Prop) : List Char → Prop
  | bare : Form whole midnight whole
  | universal : Form whole midnight (whole ++ ['Z'])
  | offset {sign : Char} {hours minutes : Nat} (signed : sign = '+' ∨ sign = '-')
      (day : hours < 24) (hour : minutes < 60) :
      Form whole midnight
        (whole ++ sign :: (writeTwo .zero hours ++ ':' :: writeTwo .zero minutes))
  | date (start : midnight) : Form whole midnight (whole.take 10)

section
variable {t : DateTime} (plain : t.IsPlain)
include plain

theorem Form.solid {midnight : Prop} {text : List Char} (form : Form t.fullText midnight text) :
    ∀ c ∈ text, Unicode.isBlank c = false := by
  have full := plain.solid_fullText
  cases form with
  | bare => exact full
  | universal => exact List.forall_mem_append.mpr ⟨full, by simp [Unicode.isBlank]⟩
  | @offset sign hours minutes signed day hour =>
      have mark : Unicode.isBlank sign = false := by
        rcases signed with rfl | rfl <;> decide
      have before : Shows (writeTwo .zero hours) 2 hours :=
        shows_writeTwo (Nat.lt_trans day (by decide))
      have after : Shows (writeTwo .zero minutes) 2 minutes :=
        shows_writeTwo (Nat.lt_trans hour (by decide))
      simp only [List.forall_mem_append, List.forall_mem_cons]
      exact ⟨full, mark, before.solid, by decide, after.solid⟩
  | date => exact fun c member => full c (List.mem_of_mem_take member)

theorem Form.read_first {midnight : Prop} {text : List Char} (form : Form t.fullText midnight text)
    (start : midnight → t.IsMidnight) :
    (readZoned? text <|> readLocal? text <|> readDay? text) = some t := by
  cases form with
  | bare =>
      have noZone : readZoned? t.fullText = none := by
        have read := plain.readZoned?_fullText [] (by simp)
        rwa [List.append_nil] at read
      rw [noZone, plain.readLocal?_fullText]
      rfl
  | universal =>
      rw [plain.readZoned?_fullText ['Z'] (by simp)]
      rfl
  | @offset sign _ _ signed day hour =>
      have noPoint (rest : List Char) : (sign :: rest).head? ≠ some '.' := by
        rcases signed with rfl | rfl <;> simp
      rw [plain.readZoned?_fullText _ (noPoint _), zoneEnd?_offset signed day hour]
      rfl
  | date midnight =>
      rw [plain.take_fullText, plain.readZoned?_dayText,
        plain.readLocal?_dayText, plain.readDay?_dayText (start midnight)]
      rfl

theorem Form.read? {midnight : Prop} {text : List Char} (form : Form t.fullText midnight text)
    (start : midnight → t.IsMidnight) {front back : List Char}
    (before : ∀ c ∈ front, Unicode.isBlank c = true)
    (after : ∀ c ∈ back, Unicode.isBlank c = true) :
    Calendar.read? (front ++ text ++ back) = some t := by
  rw [Calendar.read?, Text.trim_surrounded before after (form.solid plain)]
  exact form.read_first plain start

end

end TagTemplate.Calendar
