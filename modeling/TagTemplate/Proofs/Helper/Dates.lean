import TagTemplate.Proofs.Calendar.Readback
import TagTemplate.Proofs.Template.Fallback

/-! The forms in which `dateFormat` takes one and the same moment. -/

namespace TagTemplate

open Calendar

namespace Helper

def milliseconds (seconds : Int) (least : startOfYear 0 ≤ seconds)
    (below : seconds < startOfYear 10000) : Numeral.Integer64 :=
  have first : -62167219200 ≤ startOfYear 0 := by decide
  have last : startOfYear 10000 ≤ 253402300800 := by decide
  .ofSigned (1000 * seconds) (by unfold Numeral.int64Min; omega) (by unfold Numeral.int64Max; omega)

theorem date?_number {seconds : Int} (least : startOfYear 0 ≤ seconds)
    (below : seconds < startOfYear 10000) :
    date? (.number (.integer (milliseconds seconds least below))) =
      DateTime.ofMilliseconds? (1000 * seconds) := by
  have last : startOfYear 10000 ≤ 253402300800 := by decide
  have fits : 1000 * seconds ≤ Numeral.int64Max := by
    unfold Numeral.int64Max
    omega
  have whole : (Number.integer (milliseconds seconds least below)).toInt64? =
      some (1000 * seconds) := if_pos fits
  rw [date?, whole, Option.bind_some]

theorem apply_dateFormat_congr {first second : Value} (there : ¬ first.Missing)
    (thereToo : ¬ second.Missing) {t : DateTime} (read : date? first = some t)
    (readToo : date? second = some t) (arguments : Arguments) :
    dateFormat.apply first arguments = dateFormat.apply second arguments := by
  rw [apply_of_present there, apply_of_present thereToo, transform, transform, applyDateFormat,
    applyDateFormat, read, readToo]

theorem apply_dateFormat_fullText {value : Value} (there : ¬ value.Missing) {t : DateTime}
    (read : date? value = some t) :
    dateFormat.apply value ⟨[.string "%Y-%m-%dT%H:%M:%S"], []⟩ = .ok (rendered t.fullText) := by
  have pattern : patternOf "%Y-%m-%dT%H:%M:%S" = "%Y-%m-%dT%H:%M:%S" := by decide
  rw [apply_of_present there, transform, applyDateFormat, read]
  simp only [Arguments.positional, List.getD_cons_zero, Value.display, pattern,
    DateTime.write?_fullText]

/-- A number of milliseconds is written as the date and time of its moment, and all forms of that
text give what the number gives, for every style and pattern, those included that are refused. -/
theorem dateFormat_forms {seconds : Int} (least : startOfYear 0 ≤ seconds)
    (below : seconds < startOfYear 10000) :
    ∃ t : DateTime, t.IsPlain ∧ t.timestamp = seconds ∧
      dateFormat.apply (.number (.integer (milliseconds seconds least below)))
        ⟨[.string "%Y-%m-%dT%H:%M:%S"], []⟩ = .ok (rendered t.fullText) ∧
      ∀ text, Form t.fullText (86400 ∣ seconds) text →
        ∀ front back, (∀ c ∈ front, Unicode.isBlank c = true) →
          (∀ c ∈ back, Unicode.isBlank c = true) → ∀ arguments,
            dateFormat.apply (.string (String.ofList (front ++ text ++ back))) arguments =
              dateFormat.apply (.number (.integer (milliseconds seconds least below))) arguments := by
  obtain ⟨t, counted, plain, moment, start⟩ := DateTime.ofMilliseconds?_seconds least below
  have number := (date?_number least below).trans counted
  refine ⟨t, plain, moment, apply_dateFormat_fullText (Value.not_missing_number _) number,
    fun text form front back before after => ?_⟩
  refine apply_dateFormat_congr (Value.not_missing_string _) (Value.not_missing_number _) ?_ number
  rw [date?, String.toList_ofList, form.read? plain start before after]

theorem dateFormat_forms_leap_day :
    let moment := Value.number (.integer ⟨-11670998400000, by decide, by decide⟩)
    startOfYear 0 ≤ -11670998400 ∧ -11670998400 < startOfYear 10000 ∧ ∀ arguments,
      (dateFormat.apply (.string "1600-02-29T00:00:00-23:59") arguments =
        dateFormat.apply moment arguments) ∧
      dateFormat.apply (.string " 1600-02-29\n") arguments =
        dateFormat.apply moment arguments := by
  intro moment
  have least : startOfYear 0 ≤ -11670998400 := by decide
  have below : -11670998400 < startOfYear 10000 := by decide
  have counted : date? moment = some ⟨1600, 2, 29, 0, 0, 0, 0⟩ := by decide
  refine ⟨least, below, fun arguments => ?_⟩
  obtain ⟨t, -, -, shown, agree⟩ := dateFormat_forms least below
  rw [show Value.number (.integer (milliseconds _ least below)) = moment from rfl] at shown agree
  generalize t.fullText = whole at shown agree
  obtain rfl : "1600-02-29T00:00:00".toList = whole := by
    rw [apply_dateFormat_fullText (Value.not_missing_number _) counted] at shown
    have same := Value.string.inj (Option.some.inj (Except.ok.inj shown))
    rw [← String.ofList_inj.mp same]
    decide +kernel
  constructor
  · have text : String.ofList ([] ++ ("1600-02-29T00:00:00".toList ++
        '-' :: (writeTwo .zero 23 ++ ':' :: writeTwo .zero 59)) ++ []) =
        "1600-02-29T00:00:00-23:59" := by decide +kernel
    rw [← text]
    exact agree _ (.offset (.inr rfl) (by decide) (by decide)) [] [] (by simp) (by simp) arguments
  · have text : String.ofList ([' '] ++ "1600-02-29T00:00:00".toList.take 10 ++ ['\n']) =
        " 1600-02-29\n" := by decide +kernel
    rw [← text]
    have midnight : (86400 : Int) ∣ -11670998400 := by decide
    have before : ∀ c ∈ [' '], Unicode.isBlank c = true := by simp [Unicode.isBlank]
    have after : ∀ c ∈ ['\n'], Unicode.isBlank c = true := by simp [Unicode.isBlank]
    exact agree _ (.date midnight) _ _ before after arguments

end Helper

end TagTemplate
