import TagTemplate.Helper.Standard
import TagTemplate.Proofs.Numeral.Whole
import TagTemplate.Proofs.Template.Fallback
import TagTemplate.Proofs.Text

/-! Which arguments a helper refuses. -/

namespace TagTemplate

/-- The integers that values stand for: numbers without a fraction, and texts that hold a signed
integer of 64 bits between white space. -/
inductive Value.StandsFor : Value → Int → Prop
  | number {number : Number} {k : Int} (exact : number.exact = k) : StandsFor (.number number) k
  | text {front body back : List Char} {k : Int}
      (before : ∀ c ∈ front, Unicode.isBlank c = true)
      (after : ∀ c ∈ back, Unicode.isBlank c = true) (spelled : Numeral.Spells body k) :
      StandsFor (.string (String.ofList (front ++ body ++ back))) k

theorem Value.StandsFor.ne_null {value : Value} {k : Int} (stands : value.StandsFor k) :
    value ≠ .null := by
  rintro rfl
  cases stands

namespace Helper

section Readers
variable {helper : Helper} {argument : String} {value : Value}

theorem integer?_of_standsFor {k : Int} (stands : value.StandsFor k) :
    ∃ i, integer? value = some i ∧ Numeral.Clamped k i := by
  cases stands with
  | number exact => exact Number.toWhole?_of_exact exact
  | text before after spelled =>
      refine ⟨k, ?_, .same⟩
      rw [integer?, String.toList_ofList, Text.trim_surrounded before after spelled.solid]
      exact (Numeral.readInt64?_eq_some_iff _ k).mpr spelled

theorem standsFor_text {text : String} {i : Int} (read : integer? (.string text) = some i) :
    (Value.string text).StandsFor i := by
  obtain ⟨front, back, shape, before, after⟩ := Text.exists_trim text.toList
  have spelled := (Numeral.readInt64?_eq_some_iff _ i).mp read
  have stands := Value.StandsFor.text before after spelled
  rwa [← shape, String.ofList_toList] at stands

theorem standsFor_of_integer? {i : Int} (read : integer? value = some i) :
    ∃ k, value.StandsFor k ∧ Numeral.Clamped k i := by
  have stands : ∃ k, value.StandsFor k := by
    cases value with
    | number n =>
        obtain ⟨k, exact⟩ := Number.exact_of_toWhole? read
        exact ⟨k, .number exact⟩
    | string text => exact ⟨i, standsFor_text read⟩
    | _ => cases read
  obtain ⟨k, stands⟩ := stands
  obtain ⟨j, readToo, clamped⟩ := integer?_of_standsFor stands
  obtain rfl : j = i := Option.some.inj (readToo.symm.trans read)
  exact ⟨k, stands, clamped⟩

theorem integer?_le {i : Int} (read : integer? value = some i) : i ≤ Numeral.int64Max := by
  cases value with
  | number n => exact Number.toWhole?_le read
  | string text => exact ((Numeral.readInt64?_eq_some_iff _ i).mp read).le_max
  | _ => cases read

theorem integer?_eq_none_iff (value : Value) :
    integer? value = none ↔ ¬ ∃ k, value.StandsFor k := by
  constructor
  · rintro unread ⟨k, stands⟩
    obtain ⟨i, read, -⟩ := integer?_of_standsFor stands
    rw [unread] at read
    cases read
  · intro none
    cases read : integer? value with
    | none => rfl
    | some i =>
        obtain ⟨k, stands, -⟩ := standsFor_of_integer? read
        exact absurd ⟨k, stands⟩ none

end Readers

def Lacking (given : Option Value) : Prop := given = none ∨ given = some .null

def NoInteger (given : Option Value) : Prop :=
  ∃ value, given = some value ∧ value ≠ .null ∧ ¬ ∃ k, value.StandsFor k

def Below (bound : Int) (given : Option Value) : Prop :=
  ∃ value k, given = some value ∧ value.StandsFor k ∧ k < bound

def NoBoolean (given : Option Value) : Prop :=
  ∃ value, given = some value ∧ value ≠ .null ∧ (∀ b, value ≠ .boolean b) ∧
    value ≠ .string "true" ∧ value ≠ .string "false"

def Lacks (helper : Helper) (arguments : Arguments) : Prop :=
  match helper with
  | .center | .ljust | .rjust => Lacking (Fields.get? arguments.hash "size")
  | .wordWrap | .abbreviate | .substring => Lacking arguments.params[0]?
  | .replace => Lacking arguments.params[0]? ∨ Lacking arguments.params[1]?
  | .join => arguments.params = []
  | _ => False

def Mistakes (helper : Helper) (arguments : Arguments) : Prop :=
  match helper with
  | .center | .ljust | .rjust =>
      NoInteger (Fields.get? arguments.hash "size") ∨ Below 0 (Fields.get? arguments.hash "size")
  | .wordWrap => NoInteger arguments.params[0]? ∨ Below 0 arguments.params[0]?
  | .abbreviate =>
      (NoInteger arguments.params[0]? ∨ Below 0 arguments.params[0]?) ∨
        Below leastAbbreviation arguments.params[0]?
  | .substring => NoInteger arguments.params[0]? ∨ NoInteger arguments.params[1]?
  | .capitalize => NoBoolean (Fields.get? arguments.hash "fully")
  | _ => False

/-- A result that is an error in either of two cases, and that of a missing argument in the first
one only. -/
structure Refuses {α : Type} (result : Except HelperError α) (lacks mistakes : Prop) : Prop where
  refused : (∃ fault, result = .error fault) ↔ lacks ∨ mistakes
  missing : (∃ named argument, result = .error (.missingArgument named argument)) ↔ lacks

section
variable {α β : Type} {lacks mistakes lacksToo mistakesToo : Prop}

theorem Refuses.ok (value : α) : Refuses (.ok value) False False where
  refused := by simp
  missing := by simp

theorem Refuses.missingArgument (helper : Helper) (argument : String) :
    Refuses (.error (.missingArgument helper argument) : Except HelperError α) True False where
  refused := by simp
  missing := by simp

theorem Refuses.mono {result : Except HelperError α} (refuses : Refuses result lacks mistakes)
    (same : lacks ↔ lacksToo) (sameToo : mistakes ↔ mistakesToo) :
    Refuses result lacksToo mistakesToo := by
  rwa [← propext same, ← propext sameToo]

theorem Refuses.andThen {first : Except HelperError α} {result : Except HelperError β}
    (refuses : Refuses first lacks mistakes)
    (failed : ∀ fault, first = .error fault → result = .error fault)
    (read : ∀ value, first = .ok value → Refuses result lacksToo mistakesToo) :
    Refuses result (lacks ∨ ¬ mistakes ∧ lacksToo) (mistakes ∨ mistakesToo) := by
  obtain ⟨refused, missing⟩ := refuses
  cases found : first with
  | error fault =>
      have either : lacks ∨ mistakes := refused.mp ⟨fault, found⟩
      have same : (∃ named argument, fault = .missingArgument named argument) ↔ lacks := by
        rw [← missing, found]
        simp
      rw [failed fault found]
      constructor
      · simp only [Except.error.injEq, exists_eq', true_iff]
        tauto
      · simp only [Except.error.injEq, same]
        tauto
  | ok value =>
      have neither : ¬ (lacks ∨ mistakes) := by
        intro either
        obtain ⟨fault, wrong⟩ := refused.mpr either
        rw [found] at wrong
        cases wrong
      obtain ⟨refusedToo, missingToo⟩ := read value found
      constructor
      · rw [refusedToo]
        tauto
      · rw [missingToo]
        tauto

theorem Refuses.andMistakes {first : Except HelperError α} {result : Except HelperError β}
    (refuses : Refuses first lacks mistakes)
    (failed : ∀ fault, first = .error fault → result = .error fault)
    (read : ∀ value, first = .ok value → Refuses result False mistakesToo) :
    Refuses result lacks (mistakes ∨ mistakesToo) :=
  (refuses.andThen failed read).mono (by tauto) Iff.rfl

theorem Refuses.andLacks {first : Except HelperError α} {result : Except HelperError β}
    (refuses : Refuses first lacks False)
    (failed : ∀ fault, first = .error fault → result = .error fault)
    (read : ∀ value, first = .ok value → Refuses result lacksToo False) :
    Refuses result (lacks ∨ lacksToo) False :=
  (refuses.andThen failed read).mono (by tauto) (by tauto)

theorem Refuses.andOk {first : Except HelperError α} {result : Except HelperError β}
    (refuses : Refuses first lacks mistakes)
    (failed : ∀ fault, first = .error fault → result = .error fault)
    (read : ∀ value, first = .ok value → ∃ outcome, result = .ok outcome) :
    Refuses result lacks mistakes := by
  have kept : Refuses result lacks (mistakes ∨ False) := by
    refine refuses.andMistakes failed fun value found => ?_
    obtain ⟨outcome, shape⟩ := read value found
    rw [shape]
    exact Refuses.ok outcome
  exact kept.mono Iff.rfl (iff_of_eq (or_false mistakes))

theorem Refuses.guard {condition : Prop} [Decidable condition] {fault : HelperError}
    (other : ∀ named argument, fault ≠ .missingArgument named argument) (value : α) :
    Refuses (if condition then .error fault else .ok value) False condition := by
  by_cases holds : condition
  · rw [if_pos holds]
    constructor
    · simp [holds]
    · simp [other]
  · rw [if_neg holds]
    exact (Refuses.ok value).mono Iff.rfl (by simp [holds])

end

section
variable {helper : Helper} {argument : String} {given : Option Value}

theorem lacking_or_given (given : Option Value) :
    Lacking given ∨ ∃ value, given = some value ∧ value ≠ .null := by
  cases given with
  | none => exact .inl (.inl rfl)
  | some value =>
      by_cases null : value = .null
      · exact .inl (.inr (by rw [null]))
      · exact .inr ⟨value, rfl, null⟩

theorem Lacking.getD_eq (lacking : Lacking given) : given.getD .null = .null := by
  obtain rfl | rfl := lacking <;> rfl

theorem Lacking.not_given (lacking : Lacking given) {value : Value} (present : value ≠ .null) :
    given ≠ some value := by
  rintro rfl
  obtain absent | null := lacking
  · cases absent
  · exact present (Option.some.inj null)

theorem Lacking.not_noInteger (lacking : Lacking given) : ¬ NoInteger given := by
  rintro ⟨value, same, present, -⟩
  exact lacking.not_given present same

theorem Lacking.not_noBoolean (lacking : Lacking given) : ¬ NoBoolean given := by
  rintro ⟨value, same, present, -⟩
  exact lacking.not_given present same

theorem not_lacking {value : Value} (present : value ≠ .null) : ¬ Lacking (some value) :=
  fun lacking => lacking.not_given present rfl

theorem expectInteger_eq {value : Value} (present : value ≠ .null) :
    expectInteger helper argument value =
      match integer? value with
      | some n => .ok n
      | none => .error (.argumentType helper argument .integer value.describe) := by
  cases value with
  | null => exact absurd rfl present
  | _ => rfl

theorem expectInteger_of_standsFor {value : Value} {k : Int} (stands : value.StandsFor k)
    (least : Numeral.int64Min ≤ k) (greatest : k ≤ Numeral.int64Max) :
    expectInteger helper argument value = .ok k := by
  obtain ⟨i, read, clamped⟩ := integer?_of_standsFor stands
  rw [expectInteger_eq stands.ne_null, read, clamped.eq_of_mem least greatest]

theorem expectSize_of_standsFor {value : Value} {k : Int} (stands : value.StandsFor k)
    (positive : 0 ≤ k) :
    expectSize helper argument value = .ok (min k Numeral.int64Max).toNat := by
  obtain ⟨i, read, clamped⟩ := integer?_of_standsFor stands
  have size := clamped.eq_min positive (integer?_le read)
  have max : 0 ≤ Numeral.int64Max := by decide
  have given : expectInteger helper argument value = .ok i := by
    rw [expectInteger_eq stands.ne_null, read]
  rw [expectSize, given, ← size]
  exact if_neg (by omega)

end

section
variable (helper : Helper) (argument : String) (given : Option Value)

theorem expectInteger_refuses :
    Refuses (expectInteger helper argument (given.getD .null)) (Lacking given)
      (NoInteger given) := by
  obtain lacking | ⟨value, rfl, present⟩ := lacking_or_given given
  · rw [lacking.getD_eq]
    exact (Refuses.missingArgument helper argument).mono (by simp [lacking])
      (by simp [lacking.not_noInteger])
  · rw [Option.getD_some, expectInteger_eq present]
    have there := not_lacking present
    cases read : integer? value with
    | some n =>
        have whole : ∃ k, value.StandsFor k := by
          obtain ⟨k, stands, -⟩ := standsFor_of_integer? read
          exact ⟨k, stands⟩
        exact (Refuses.ok n).mono (by simp [there]) (by simp [NoInteger, whole])
    | none =>
        have wrong : NoInteger (some value) :=
          ⟨value, rfl, present, (integer?_eq_none_iff value).mp read⟩
        constructor
        · simp [wrong]
        · simp [there]

end

section
variable {helper : Helper} {argument : String} {given : Option Value}

theorem below_iff {n bound : Int}
    (read : expectInteger helper argument (given.getD .null) = .ok n) (least : 0 ≤ bound)
    (greatest : bound ≤ Numeral.int64Max) : n < bound ↔ Below bound given := by
  obtain lacking | ⟨value, rfl, present⟩ := lacking_or_given given
  · rw [lacking.getD_eq] at read
    cases read
  · rw [Option.getD_some, expectInteger_eq present] at read
    cases found : integer? value with
    | none =>
        rw [found] at read
        cases read
    | some i =>
        rw [found] at read
        obtain rfl := Except.ok.inj read
        -- What was read may be an end of the 64 bits instead of the integer that was meant: on which
        -- side of the bound it lies is the same.
        constructor
        · intro below
          obtain ⟨k, stands, clamped⟩ := standsFor_of_integer? found
          exact ⟨value, k, rfl, stands, (clamped.lt_iff least greatest).mp below⟩
        · rintro ⟨other, k, same, stands, below⟩
          obtain rfl := Option.some.inj same
          obtain ⟨j, foundToo, clamped⟩ := integer?_of_standsFor stands
          obtain rfl := Option.some.inj (foundToo.symm.trans found)
          exact (clamped.lt_iff least greatest).mpr below

theorem size_below_iff {width bound : Nat}
    (read : expectSize helper argument (given.getD .null) = .ok width)
    (greatest : (bound : Int) ≤ Numeral.int64Max) : width < bound ↔ Below bound given := by
  unfold expectSize at read
  split at read
  · cases read
  · next n found =>
      split at read
      · cases read
      · obtain rfl := Except.ok.inj read
        rw [← below_iff found (by omega) greatest]
        omega

end

section
variable (helper : Helper) (argument : String) (given : Option Value)

theorem expectSize_refuses :
    Refuses (expectSize helper argument (given.getD .null)) (Lacking given)
      (NoInteger given ∨ Below 0 given) := by
  refine (expectInteger_refuses helper argument given).andMistakes (fun fault failed => ?_)
    fun n read => ?_
  · rw [expectSize, failed]
  · rw [expectSize, read, ← below_iff read (Int.le_refl 0) (by decide)]
    exact Refuses.guard (by simp) n.toNat

theorem expectText_refuses :
    Refuses (expectText helper argument (given.getD .null)) (Lacking given) False := by
  obtain lacking | ⟨value, rfl, present⟩ := lacking_or_given given
  · rw [lacking.getD_eq]
    exact (Refuses.missingArgument helper argument).mono (by simp [lacking]) Iff.rfl
  · have kept : expectText helper argument value = .ok value.display.toList := by
      cases value with
      | null => exact absurd rfl present
      | _ => rfl
    rw [Option.getD_some, kept]
    exact (Refuses.ok _).mono (by simp [not_lacking present]) Iff.rfl

theorem expectBoolean_refuses (default : Bool) :
    Refuses (expectBoolean helper argument (given.getD .null) default) False
      (NoBoolean given) := by
  obtain lacking | ⟨value, rfl, present⟩ := lacking_or_given given
  · rw [lacking.getD_eq]
    exact (Refuses.ok default).mono Iff.rfl (by simp [lacking.not_noBoolean])
  · rw [Option.getD_some]
    unfold expectBoolean
    split
    · exact absurd rfl present
    · next b => exact (Refuses.ok b).mono Iff.rfl (by simp [NoBoolean])
    · next noBoolean =>
        split
        · exact (Refuses.ok true).mono Iff.rfl (by simp [NoBoolean])
        · exact (Refuses.ok false).mono Iff.rfl (by simp [NoBoolean])
        · next noTrue noFalse =>
            have wrong : NoBoolean (some value) :=
              ⟨value, rfl, present, noBoolean, noTrue, noFalse⟩
            constructor
            · simp [wrong]
            · simp

end

section
variable (context : Value) (arguments : Arguments)

theorem positional_eq (index : Nat) (default : Value) :
    arguments.positional index default = arguments.params[index]?.getD default :=
  List.getD_eq_getElem?_getD

theorem padded_refuses (helper : Helper) (place : Nat → List Char → List Char → List Char) :
    Refuses (padded helper place context arguments)
      (Lacking (Fields.get? arguments.hash "size"))
      (NoInteger (Fields.get? arguments.hash "size") ∨
        Below 0 (Fields.get? arguments.hash "size")) := by
  refine (expectSize_refuses helper "size" (Fields.get? arguments.hash "size")).andOk
    (fun fault failed => ?_) fun size read => ?_
  · rw [padded, sizeAndPad, Arguments.named, failed]
  · rw [padded, sizeAndPad, Arguments.named, read]
    exact ⟨_, rfl⟩

theorem applySubstring_refuses :
    Refuses (applySubstring context arguments) (Lacking arguments.params[0]?)
      (NoInteger arguments.params[0]? ∨ NoInteger arguments.params[1]?) := by
  refine (expectInteger_refuses .substring "start" arguments.params[0]?).andMistakes
    (fun fault failed => ?_) fun start read => ?_
  · rw [applySubstring, positional_eq, failed]
  · rw [applySubstring, positional_eq, read, positional_eq]
    obtain lacking | ⟨value, given, present⟩ := lacking_or_given arguments.params[1]?
    · rw [lacking.getD_eq]
      exact (Refuses.ok _).mono Iff.rfl (by simp [lacking.not_noInteger])
    · have stop := expectInteger_refuses .substring "end" (some value)
      rw [Option.getD_some] at stop
      rw [given, Option.getD_some]
      cases value with
      | null => exact absurd rfl present
      | _ =>
          refine (stop.andOk (fun fault failed => ?_) fun stop found => ?_).mono
            (by simp [not_lacking present]) Iff.rfl
          · simp only [failed]
          · simp only [found]
            exact ⟨_, rfl⟩

theorem applyReplace_refuses :
    Refuses (applyReplace context arguments)
      (Lacking arguments.params[0]? ∨ Lacking arguments.params[1]?) False := by
  refine (expectText_refuses .replace "target" arguments.params[0]?).andLacks
    (fun fault failed => ?_) fun target read => ?_
  · rw [applyReplace, positional_eq, failed]
  · refine (expectText_refuses .replace "replacement" arguments.params[1]?).andOk
      (fun fault failed => ?_) fun replacement readToo => ?_
    · rw [applyReplace, positional_eq, positional_eq, read]
      simp only [failed]
    · rw [applyReplace, positional_eq, positional_eq, read]
      simp only [readToo]
      exact ⟨_, rfl⟩

theorem applyAbbreviate_refuses :
    Refuses (applyAbbreviate context arguments) (Lacking arguments.params[0]?)
      ((NoInteger arguments.params[0]? ∨ Below 0 arguments.params[0]?) ∨
        Below leastAbbreviation arguments.params[0]?) := by
  refine (expectSize_refuses .abbreviate "maxWidth" arguments.params[0]?).andMistakes
    (fun fault failed => ?_) fun width read => ?_
  · rw [applyAbbreviate, positional_eq, failed]
  · rw [applyAbbreviate, positional_eq, read, ← size_below_iff read (by decide)]
    exact Refuses.guard (by simp) _

theorem applyWordWrap_refuses :
    Refuses (applyWordWrap context arguments) (Lacking arguments.params[0]?)
      (NoInteger arguments.params[0]? ∨ Below 0 arguments.params[0]?) := by
  refine (expectSize_refuses .wordWrap "width" arguments.params[0]?).andOk
    (fun fault failed => ?_) fun width read => ?_
  · rw [applyWordWrap, positional_eq, failed]
  · rw [applyWordWrap, positional_eq, read]
    exact ⟨_, rfl⟩

theorem applyCapitalize_refuses :
    Refuses (applyCapitalize context arguments) False
      (NoBoolean (Fields.get? arguments.hash "fully")) := by
  refine (expectBoolean_refuses .capitalize "fully" (Fields.get? arguments.hash "fully")
    false).andOk (fun fault failed => ?_) fun fully read => ?_
  · rw [applyCapitalize, Arguments.named, failed]
  · rw [applyCapitalize, Arguments.named, read]
    exact ⟨_, rfl⟩

theorem applyJoin_lacking (hash : Fields Value) :
    applyJoin context ⟨[], hash⟩ = .error (.missingArgument .join "separator") := by
  cases context <;> rfl

theorem applyJoin_refuses :
    Refuses (applyJoin context arguments) (arguments.params = []) False := by
  obtain ⟨params, hash⟩ := arguments
  cases params with
  | nil =>
      rw [applyJoin_lacking context hash]
      exact (Refuses.missingArgument .join "separator").mono (by simp) Iff.rfl
  | cons first rest =>
      have joined : ∃ outcome, applyJoin context ⟨first :: rest, hash⟩ = .ok outcome := by
        cases context <;> exact ⟨_, rfl⟩
      obtain ⟨outcome, shape⟩ := joined
      rw [shape]
      exact (Refuses.ok outcome).mono (by simp) Iff.rfl

theorem transform_refuses (helper : Helper) (noFormat : helper ≠ .stringFormat)
    (noDate : helper ≠ .dateFormat) :
    Refuses (helper.transform context arguments) (helper.Lacks arguments)
      (helper.Mistakes arguments) := by
  cases helper with
  | stringFormat => exact absurd rfl noFormat
  | dateFormat => exact absurd rfl noDate
  | center => exact padded_refuses context arguments .center Text.center
  | ljust => exact padded_refuses context arguments .ljust Text.padRight
  | rjust => exact padded_refuses context arguments .rjust Text.padLeft
  | join => exact applyJoin_refuses context arguments
  | substring => exact applySubstring_refuses context arguments
  | replace => exact applyReplace_refuses context arguments
  | abbreviate => exact applyAbbreviate_refuses context arguments
  | wordWrap => exact applyWordWrap_refuses context arguments
  | capitalize => exact applyCapitalize_refuses context arguments
  | _ => exact Refuses.ok _

end

def PassesOver (helper : Helper) (context : Value) : Prop :=
  (helper ≠ .join ∧ helper ≠ .yesno ∧ helper ≠ .defaultIfEmpty) ∧ context.Missing

theorem passesOver_iff (helper : Helper) (context : Value) :
    (helper.shortCircuits && context.isFalsy) = true ↔ helper.PassesOver context := by
  rw [Bool.and_eq_true, shortCircuits_iff, Value.isFalsy_iff, PassesOver]

/-- A call fails if and only if an argument that it reads is missing or of the wrong kind, and the
error says which of the two it is. -/
theorem apply_refused_iff (helper : Helper) (noFormat : helper ≠ .stringFormat)
    (noDate : helper ≠ .dateFormat) (context : Value) (arguments : Arguments) :
    ((∃ fault, helper.apply context arguments = .error fault) ↔
      ¬ helper.PassesOver context ∧ (helper.Lacks arguments ∨ helper.Mistakes arguments)) ∧
    ((∃ named argument,
        helper.apply context arguments = .error (.missingArgument named argument)) ↔
      ¬ helper.PassesOver context ∧ helper.Lacks arguments) := by
  by_cases passed : helper.PassesOver context
  · have shared := (shortCircuits_iff helper).mpr passed.1
    rw [apply_of_missing shared passed.2 arguments]
    simp [passed]
  · have read : helper.apply context arguments = helper.transform context arguments := by
      rw [apply, if_neg fun skipped => passed ((passesOver_iff helper context).mp skipped)]
    obtain ⟨refused, missing⟩ := transform_refuses context arguments helper noFormat noDate
    rw [read, refused, missing]
    simp [passed]

theorem apply_refused_abbreviate :
    let narrow := Arguments.empty.param (.string " +3 ")
    let none := Arguments.empty.param .null
    Helper.abbreviate ≠ .stringFormat ∧ Helper.abbreviate ≠ .dateFormat ∧
      (∃ fault, Helper.abbreviate.apply (.string "a title") narrow = .error fault) ∧
      (¬ ∃ named argument, Helper.abbreviate.apply (.string "a title") narrow =
        .error (.missingArgument named argument)) ∧
      ∃ named argument, Helper.abbreviate.apply (.string "a title") none =
        .error (.missingArgument named argument) := by
  intro narrow none
  have solid : ¬ Helper.abbreviate.PassesOver (.string "a title") := by
    rintro ⟨-, missing⟩
    exact Value.not_missing_string _ missing
  have spelled : Numeral.Spells ['+', '3'] 3 :=
    (Numeral.readInt64?_eq_some_iff _ 3).mp rfl
  have blank : ∀ c ∈ [' '], Unicode.isBlank c = true := List.forall_mem_singleton.mpr rfl
  have stands : Value.StandsFor (.string " +3 ") 3 := .text blank blank spelled
  have below : Below leastAbbreviation narrow.params[0]? :=
    ⟨.string " +3 ", 3, rfl, stands, by decide⟩
  have given : ¬ Helper.abbreviate.Lacks narrow := @not_lacking (.string " +3 ") (by simp)
  have first := apply_refused_iff .abbreviate (by decide) (by decide) (.string "a title") narrow
  have second := apply_refused_iff .abbreviate (by decide) (by decide) (.string "a title") none
  refine ⟨by decide, by decide, first.1.mpr ⟨solid, .inr (.inr below)⟩, ?_, ?_⟩
  · intro missing
    exact given (first.2.mp missing).2
  · exact second.2.mpr ⟨solid, .inr rfl⟩

end Helper

end TagTemplate
