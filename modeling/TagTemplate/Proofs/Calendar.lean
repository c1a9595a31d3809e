import TagTemplate.Calendar.Date

/-! Days counted from an epoch stand for dates that exist, and the dates for the same days. -/

namespace TagTemplate.Calendar

structure IsDate (year : Int) (month day : Nat) : Prop where
  first : 1 ≤ day
  last : day ≤ daysInMonth year month

theorem daysInMonth_bounds (year : Int) (month : Nat) :
    daysInMonth year month ≤ 31 ∧ (1 ≤ daysInMonth year month → 1 ≤ month ∧ month ≤ 12) := by
  unfold daysInMonth
  split <;> grind

theorem IsDate.bounds {year : Int} {month day : Nat} (date : IsDate year month day) :
    1 ≤ month ∧ month ≤ 12 ∧ day ≤ 31 := by
  obtain ⟨most, months⟩ := daysInMonth_bounds year month
  obtain ⟨least, greatest⟩ := months (Nat.le_trans date.first date.last)
  exact ⟨least, greatest, Nat.le_trans date.last most⟩

section Era

/-! Four hundred years that begin in March are an era of 146097 days. -/

def eraYearStart (year : Nat) : Nat := 365 * year + year / 4 - year / 100

def eraYear (day : Nat) : Nat := (day - day / 1460 + day / 36524 - day / 146096) / 365

theorem eraYear_mono {early late : Nat} (le : early ≤ late) : eraYear early ≤ eraYear late := by
  induction le with
  | refl => exact Nat.le_refl _
  | step le ih =>
      refine Nat.le_trans ih (Nat.div_le_div_right ?_)
      omega

theorem eraYear_start : ∀ year : Fin 400, eraYear (eraYearStart year) = year ∧
    (0 < year.val → eraYear (eraYearStart year - 1) = year - 1) := by
  decide +kernel

theorem eraYear_bounds {day : Nat} (within : day < 146097) :
    eraYear day < 400 ∧ eraYearStart (eraYear day) ≤ day ∧
      (eraYear day < 399 → day < eraYearStart (eraYear day + 1)) := by
  have below : eraYear day < 400 := by
    have latest := eraYear_mono (Nat.le_of_lt_succ within)
    have last : eraYear 146096 = 399 := by decide
    omega
  refine ⟨below, ?_, fun early => ?_⟩
  · refine Nat.le_of_not_lt fun before => ?_
    have positive : 0 < eraYear day := by
      rw [Nat.pos_iff_ne_zero]
      intro zero
      rw [zero] at before
      exact Nat.not_lt_zero _ before
    have earlier : eraYear day ≤ eraYear (eraYearStart (eraYear day) - 1) :=
      eraYear_mono (by omega)
    rw [(eraYear_start ⟨eraYear day, below⟩).2 positive] at earlier
    simp only at earlier
    omega
  · refine Nat.lt_of_not_le fun after => ?_
    have later := eraYear_mono after
    have next := (eraYear_start ⟨eraYear day + 1, by omega⟩).1
    simp only at next
    omega

def marchMonth (dayOfYear : Nat) : Nat := (5 * dayOfYear + 2) / 153

def marchDay (dayOfYear : Nat) : Nat := dayOfYear - (153 * marchMonth dayOfYear + 2) / 5 + 1

theorem marchDay_bounds : ∀ dayOfYear : Fin 366, marchMonth dayOfYear < 12 ∧
    (153 * marchMonth dayOfYear + 2) / 5 + marchDay dayOfYear = dayOfYear.val + 1 ∧
    1 ≤ marchDay dayOfYear ∧ marchDay dayOfYear ≤ 31 ∧
    (marchMonth dayOfYear ∈ [1, 3, 6, 8] → marchDay dayOfYear ≤ 30) ∧
    (marchMonth dayOfYear = 11 →
      marchDay dayOfYear ≤ 28 ∨ marchDay dayOfYear = 29 ∧ dayOfYear.val = 365) := by
  decide +kernel

/-- The years of an era that have 366 days. They are long for the February in which they end. -/
theorem isLeapYear_of_long {year : Nat} (era : Int)
    (long : year = 399 ∨ eraYearStart year + 365 < eraYearStart (year + 1)) :
    isLeapYear (year + era * 400 + 1) = true := by
  have rule : (year + 1) % 4 = 0 ∧ ((year + 1) % 100 ≠ 0 ∨ year = 399) := by
    rcases long with rfl | long
    · decide
    · unfold eraYearStart at long
      constructor
      · omega
      · omega
  rw [isLeapYear, Bool.and_eq_true, Bool.or_eq_true, beq_iff_eq, bne_iff_ne, beq_iff_eq]
  omega

end Era

section March
variable {year : Int} {month day : Nat}

def ofMarch (year : Int) (month day : Nat) : Int × Nat × Nat :=
  let january := if month < 10 then month + 3 else month - 9
  (if january ≤ 2 then year + 1 else year, january, day)

theorem ofMarch_eq (within : month < 12) :
    ofMarch year month day =
      if month < 10 then (year, month + 3, day) else (year + 1, month - 9, day) := by
  unfold ofMarch
  by_cases early : month < 10
  · simp only [if_pos early]
    rw [if_neg (by omega)]
  · simp only [if_neg early]
    rw [if_pos (by omega)]

theorem isDate_ofMarch (year : Int) (within : month < 12) (first : 1 ≤ day) (most : day ≤ 31)
    (short : month ∈ [1, 3, 6, 8] → day ≤ 30)
    (february : month = 11 → day ≤ 28 ∨ day = 29 ∧ isLeapYear (year + 1) = true) :
    IsDate (ofMarch year month day).1 (ofMarch year month day).2.1 day := by
  refine ⟨first, ?_⟩
  match month, within with
  | 0, _ | 2, _ | 4, _ | 5, _ | 7, _ | 9, _ | 10, _ => exact most
  | 1, _ | 3, _ | 6, _ | 8, _ => exact short (by decide)
  | 11, _ =>
      show day ≤ if isLeapYear (year + 1) then 29 else 28
      rcases february rfl with small | ⟨last, leap⟩
      · split <;> omega
      · rw [if_pos leap]
        omega

theorem daysFromEpoch_ofMarch (year : Int) (day : Nat) (within : month < 12) :
    daysFromEpoch (ofMarch year month day).1 (ofMarch year month day).2.1 day =
      marchDays year month day - 719468 := by
  rw [ofMarch_eq within, daysFromEpoch]
  by_cases early : month < 10
  · simp only [if_pos early]
    rw [if_neg (by omega), Nat.add_sub_cancel]
  · simp only [if_neg early]
    rw [if_pos (by omega), Nat.sub_add_cancel (by omega), Int.add_sub_cancel]

theorem marchDays_of_era {yearOfEra : Nat} (era : Int) (dayOfYear : Nat) (below : yearOfEra < 400)
    (placed : (153 * month + 2) / 5 + day = dayOfYear + 1) :
    marchDays (yearOfEra + era * 400) month day =
      era * 146097 + (eraYearStart yearOfEra + dayOfYear : Nat) := by
  unfold marchDays eraYearStart
  omega

theorem dateOfDays_eq (days : Int) :
    let dayOfEra := ((days + 719468) % 146097).toNat
    let dayOfYear := dayOfEra - eraYearStart (eraYear dayOfEra)
    dateOfDays days = ofMarch (eraYear dayOfEra + (days + 719468) / 146097 * 400)
      (marchMonth dayOfYear) (marchDay dayOfYear) := rfl

end March

theorem dateOfDays_spec {days year : Int} {month day : Nat}
    (found : dateOfDays days = (year, month, day)) :
    IsDate year month day ∧ daysFromEpoch year month day = days := by
  -- Eras are counted from the first of March of the year zero.
  have split : days + 719468 =
      (days + 719468) / 146097 * 146097 + ((days + 719468) % 146097).toNat := by omega
  have within : ((days + 719468) % 146097).toNat < 146097 := by omega
  have shape := (dateOfDays_eq days).symm.trans found
  generalize ((days + 719468) % 146097).toNat = dayOfEra at split within shape
  generalize (days + 719468) / 146097 = era at split shape
  obtain ⟨below, start, next⟩ := eraYear_bounds within
  generalize eraYear dayOfEra = yearOfEra at below start next shape
  obtain ⟨dayOfYear, rfl⟩ := Nat.exists_eq_add_of_le start
  rw [Nat.add_sub_cancel_left] at shape
  have length : dayOfYear < 366 := by
    unfold eraYearStart at *
    omega
  have long : dayOfYear = 365 → isLeapYear (yearOfEra + era * 400 + 1) = true := by
    intro last
    refine isLeapYear_of_long era ?_
    omega
  obtain ⟨months, placed, first, most, short, february⟩ := marchDay_bounds ⟨dayOfYear, length⟩
  have date := isDate_ofMarch (yearOfEra + era * 400) months first most short
    fun last => (february last).imp_right fun ⟨same, whole⟩ => ⟨same, long whole⟩
  have count := daysFromEpoch_ofMarch (yearOfEra + era * 400) (marchDay dayOfYear) months
  rw [marchDays_of_era era dayOfYear below placed] at count
  rw [shape] at date count
  obtain rfl : marchDay dayOfYear = day := congrArg (·.2.2) shape
  exact ⟨date, count.trans (by omega)⟩

theorem daysFromEpoch_year_mono {early late : Int} (le : early ≤ late) :
    daysFromEpoch early 1 1 ≤ daysFromEpoch late 1 1 := by
  simp only [daysFromEpoch, marchDays, if_pos (show 1 ≤ 2 by decide)]
  omega

theorem IsDate.within_year {year : Int} {month day : Nat} (date : IsDate year month day) :
    daysFromEpoch year 1 1 ≤ daysFromEpoch year month day ∧
      daysFromEpoch year month day < daysFromEpoch (year + 1) 1 1 := by
  obtain ⟨least, greatest, most⟩ := date.bounds
  have first := date.first
  simp only [daysFromEpoch, marchDays, if_pos (show 1 ≤ 2 by decide)]
  split <;> omega

structure DateTime.IsPlain (t : DateTime) : Prop where
  year : 0 ≤ t.year ∧ t.year < 10000
  date : IsDate t.year t.month t.day
  hour : t.hour < 24
  minute : t.minute < 60
  second : t.second < 60
  whole : t.nanosecond = 0

def DateTime.IsMidnight (t : DateTime) : Prop := t.hour = 0 ∧ t.minute = 0 ∧ t.second = 0

def startOfYear (year : Int) : Int := daysFromEpoch year 1 1 * 86400

theorem DateTime.ofMilliseconds?_seconds {seconds : Int} (least : startOfYear 0 ≤ seconds)
    (below : seconds < startOfYear 10000) :
    ∃ t, DateTime.ofMilliseconds? (1000 * seconds) = some t ∧ t.IsPlain ∧ t.timestamp = seconds ∧
      (86400 ∣ seconds → t.IsMidnight) := by
  rcases found : dateOfDays (seconds / 86400) with ⟨year, month, day⟩
  obtain ⟨date, days⟩ := dateOfDays_spec found
  obtain ⟨notBefore, before⟩ := date.within_year
  have years : 0 ≤ year ∧ year < 10000 := by
    unfold startOfYear at least below
    constructor
    · refine Int.not_lt.mp fun early => ?_
      have := daysFromEpoch_year_mono (Int.add_one_le_of_lt early)
      omega
    · refine Int.not_le.mp fun late => ?_
      have := daysFromEpoch_year_mono late
      omega
  have kept : firstYear ≤ year ∧ year ≤ lastYear := by
    unfold firstYear lastYear
    omega
  have whole : 1000 * seconds / 1000 = seconds := Int.mul_ediv_cancel_left seconds (by decide)
  have rest : 1000 * seconds % 1000 = 0 := Int.mul_emod_right 1000 seconds
  have counted : DateTime.ofMilliseconds? (1000 * seconds) = some
      { year, month, day
        hour := (seconds % 86400).toNat / 3600
        minute := (seconds % 86400).toNat / 60 % 60
        second := (seconds % 86400).toNat % 60
        nanosecond := 0 } := by
    simp only [DateTime.ofMilliseconds?, whole, rest, found]
    exact if_pos kept
  refine ⟨_, counted, ?_, ?_, ?_⟩
  · constructor
    case year => exact years
    case date => exact date
    case hour => simp only; omega
    case minute => simp only; omega
    case second => simp only; omega
    case whole => rfl
  · simp only [DateTime.timestamp, DateTime.days, days]
    omega
  · intro midnight
    have start : seconds % 86400 = 0 := Int.emod_eq_zero_of_dvd midnight
    simp [DateTime.IsMidnight, start]

end TagTemplate.Calendar
