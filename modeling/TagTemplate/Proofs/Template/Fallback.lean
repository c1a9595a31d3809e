import TagTemplate.Template.Render

/-! What tags render whose value is missing. -/

namespace TagTemplate

inductive Value.Missing : Value → Prop
  | null : Missing .null
  | no : Missing (.boolean false)
  | noItems : Missing (.array [])
  | noFields : Missing (.object [])

namespace Value

theorem isFalsy_iff (value : Value) : value.isFalsy = true ↔ value.Missing := by
  constructor
  · intro falsy
    cases value with
    | null => exact .null
    | boolean b =>
        cases b with
        | false => exact .no
        | true => simp [isFalsy] at falsy
    | number n => simp [isFalsy] at falsy
    | string text => simp [isFalsy] at falsy
    | array items =>
        cases items with
        | nil => exact .noItems
        | cons item rest => simp [isFalsy] at falsy
    | object fields =>
        cases fields with
        | nil => exact .noFields
        | cons field rest => simp [isFalsy] at falsy
  · intro missing
    cases missing <;> rfl

theorem not_missing_string (text : String) : ¬ (Value.string text).Missing := by
  rintro ⟨⟩

theorem not_missing_number (n : Number) : ¬ (Value.number n).Missing := by
  rintro ⟨⟩

end Value

namespace Helper

theorem textOf_ofList (text : List Char) : textOf (.string (String.ofList text)) = text :=
  String.toList_ofList

theorem lacksContent_eq_isFalsy (value : Value) : lacksContent value = value.isFalsy := by
  cases value with
  | boolean b => cases b <;> rfl
  | _ => rfl

theorem shortCircuits_iff (helper : Helper) :
    helper.shortCircuits = true ↔
      helper ≠ .join ∧ helper ≠ .yesno ∧ helper ≠ .defaultIfEmpty := by
  cases helper <;> decide

theorem apply_of_missing {helper : Helper} (shared : helper.shortCircuits = true) {context : Value}
    (missing : context.Missing) (arguments : Arguments) :
    helper.apply context arguments = .ok (Value.present (arguments.positional 0 .null)) := by
  rw [apply, shared, (Value.isFalsy_iff context).mpr missing]
  rfl

theorem apply_of_present {helper : Helper} {context : Value} (there : ¬ context.Missing)
    (arguments : Arguments) :
    helper.apply context arguments = helper.transform context arguments := by
  rw [← Value.isFalsy_iff] at there
  rw [apply, if_neg fun both => there (Bool.and_eq_true_iff.mp both).2]

theorem apply_defaultIfEmpty (context : Value) (arguments : Arguments) :
    defaultIfEmpty.apply context arguments =
      .ok (if context.isFalsy then Value.present (arguments.positional 0 (.string ""))
        else some context) := by
  rw [← lacksContent_eq_isFalsy]
  rfl

end Helper

namespace Expression

def subject (expression : Expression) (data : Value) : Value :=
  (expression.params[0]?.map (Operand.value data)).getD data

def second? (expression : Expression) (data : Value) : Option Value :=
  expression.params[1]?.map (Operand.value data)

section
variable (expression : Expression) (data : Value) (line : Nat)

theorem call_subject : (expression.call data).1 = expression.subject data := by
  unfold call subject
  cases expression.params <;> rfl

theorem positional_call (default : Value) :
    (expression.call data).2.positional 0 default = (expression.second? data).getD default := by
  unfold call second? Arguments.positional
  cases expression.params with
  | nil => rfl
  | cons first rest => cases rest <;> rfl

theorem evaluate_helper {helper : Helper} (named : expression.head = helper.name)
    {value : Option Value}
    (applied : helper.apply (expression.subject data) (expression.call data).2 = .ok value) :
    expression.evaluate data line = .ok value := by
  rw [evaluate, named, Helper.ofName?_name, call_subject]
  simp only [applied]

def standIn : Option Value → Option Value
  | none | some .null => none
  | some other => some other

theorem present_getD_null (value : Option Value) :
    Value.present (value.getD .null) = standIn value := by
  cases value with
  | none => rfl
  | some other => cases other <;> rfl

theorem present_eq_standIn (value : Value) : value.present = standIn (some value) :=
  present_getD_null (some value)

/-- A helper whose value is missing gives the operand behind it, and never fails. -/
theorem evaluate_missing (helper : Helper) (named : expression.head = helper.name) :
    (helper ≠ .join → helper ≠ .yesno → helper ≠ .defaultIfEmpty →
      (expression.subject data).Missing →
      expression.evaluate data line = .ok (standIn (expression.second? data))) ∧
    (helper = .defaultIfEmpty →
      ((expression.subject data).Missing → expression.evaluate data line =
        .ok (standIn (some ((expression.second? data).getD (.string ""))))) ∧
      (¬ (expression.subject data).Missing →
        expression.evaluate data line = .ok (some (expression.subject data)))) ∧
    (∀ value : Value, Helper.lacksContent value = value.isFalsy) := by
  refine ⟨?_, ?_, Helper.lacksContent_eq_isFalsy⟩
  · intro notJoin notYesno notDefault missing
    have shared := (Helper.shortCircuits_iff helper).mpr ⟨notJoin, notYesno, notDefault⟩
    have applied := Helper.apply_of_missing shared missing (expression.call data).2
    rw [positional_call, present_getD_null] at applied
    exact expression.evaluate_helper data line named applied
  · rintro rfl
    have applied := Helper.apply_defaultIfEmpty (expression.subject data) (expression.call data).2
    rw [positional_call, present_eq_standIn] at applied
    constructor
    · intro missing
      rw [(Value.isFalsy_iff _).mpr missing] at applied
      exact expression.evaluate_helper data line named applied
    · intro there
      rw [← Value.isFalsy_iff] at there
      rw [if_neg there] at applied
      exact expression.evaluate_helper data line named applied

end

theorem evaluate_missing_center :
    let padded : Expression := ⟨"center", .path ["center"],
      [.path ["gone"], .literal (.number (.integer ⟨5, by decide, by decide⟩)), .literal .null],
      [("size", .literal (.string "wide"))]⟩
    let bare : Expression := ⟨"defaultIfEmpty", .path ["defaultIfEmpty"], [], []⟩
    let data := Value.object [("gone", .array [])]
    (padded.subject data).Missing ∧
      padded.evaluate data 1 = .ok (some (.number (.integer ⟨5, by decide, by decide⟩))) ∧
      bare.evaluate (.object []) 1 = .ok (some (.string "")) ∧
      ¬ data.Missing ∧ bare.evaluate data 1 = .ok (some data) := by
  intro padded bare data
  have missing : (padded.subject data).Missing := .noItems
  have there : ¬ data.Missing := by
    rw [← Value.isFalsy_iff]
    decide
  have given := padded.evaluate_missing data 1 .center rfl
  have empty := bare.evaluate_missing (.object []) 1 .defaultIfEmpty rfl
  have kept := bare.evaluate_missing data 1 .defaultIfEmpty rfl
  exact ⟨missing, given.1 (by decide) (by decide) (by decide) missing,
    (empty.2.1 rfl).1 .noFields, there, (kept.2.1 rfl).2 there⟩

end Expression

end TagTemplate
