import TagTemplate.Format.Rendering
import TagTemplate.Proofs.Format.Layout

/-! Which arguments the specifiers of a format string are filled with. -/

namespace TagTemplate.Format

namespace Specifier

def isOrdinary (specifier : Specifier) : Bool := specifier.consumes && specifier.index.isNone

def position (specifier : Specifier) (next : Nat) : Nat :=
  match specifier.index with
  | some index => index - 1
  | none => next

def outcome (specifier : Specifier) (helper : Helper) (given : Option Value) :
    Except HelperError (List Char) :=
  if specifier.consumes then
    match given with
    | none =>
        .error (.invalidArgument helper (.unmatchedSpecifier (String.ofList specifier.source)))
    | some value => specifier.render helper value
  else .ok (if specifier.letter = '%' then specifier.pad ['%'] else ['\n'])

end Specifier

/-- The number of the argument that stands for the `k`-th of some specifiers: an index tells it, and
else the number of specifiers before it that take an argument and have no index. -/
def selected (specifiers : List Specifier) (k : Nat) (specifier : Specifier) : Nat :=
  specifier.position ((specifiers.take k).countP Specifier.isOrdinary)

def outcomeAt (helper : Helper) (arguments : List Value) (specifiers : List Specifier) (k : Nat)
    (specifier : Specifier) : Except HelperError (List Char) :=
  specifier.outcome helper arguments[selected specifiers k specifier]?

def outcomes (helper : Helper) (arguments : List Value) (next : Nat) :
    List Specifier → List (Except HelperError (List Char))
  | [] => []
  | specifier :: rest =>
      specifier.outcome helper arguments[specifier.position next]? ::
        outcomes helper arguments (if specifier.isOrdinary then next + 1 else next) rest

def spliced (fronts pieces : List (List Char)) (last : List Char) : List Char :=
  (List.zipWith (· ++ ·) fronts pieces).flatten ++ last

section
variable {α ε : Type}

theorem mapM_id_cons_ok (value : α) (results : List (Except ε α)) :
    (.ok value :: results).mapM id = (results.mapM id).map (value :: ·) := by
  rw [List.mapM_cons]
  cases results.mapM id <;> rfl

theorem mapM_id_cons_error (fault : ε) (results : List (Except ε α)) :
    (.error fault :: results).mapM id = .error fault := by
  rw [List.mapM_cons]
  rfl

theorem mapM_id_eq_ok {results : List (Except ε α)} {values : List α}
    (all : results.mapM id = .ok values) : results = values.map .ok := by
  induction results generalizing values with
  | nil =>
      obtain rfl : [] = values := Except.ok.inj all
      rfl
  | cons result results ih =>
      cases result with
      | error fault =>
          rw [mapM_id_cons_error] at all
          cases all
      | ok value =>
          rw [mapM_id_cons_ok] at all
          cases rest : results.mapM id with
          | error fault =>
              rw [rest] at all
              cases all
          | ok others =>
              rw [rest] at all
              obtain rfl : value :: others = values := Except.ok.inj all
              rw [ih rest, List.map_cons]

end

section
variable (helper : Helper) (arguments : List Value)

theorem fillSegments_literals (next : Nat) (front : List Char) (rest : List Segment) :
    fillSegments helper arguments next (front.map Segment.literal ++ rest) =
      (fillSegments helper arguments next rest).map (front ++ ·) := by
  induction front with
  | nil => cases shape : fillSegments helper arguments next rest <;> simp [Except.map, shape]
  | cons c front ih =>
      rw [List.map_cons, List.cons_append, fillSegments, ih]
      cases fillSegments helper arguments next rest <;> rfl

theorem fillSegments_specifier (next : Nat) (specifier : Specifier) (rest : List Segment) :
    fillSegments helper arguments next (.specifier specifier :: rest) =
      match specifier.outcome helper arguments[specifier.position next]? with
      | .error fault => .error fault
      | .ok piece =>
          (fillSegments helper arguments (if specifier.isOrdinary then next + 1 else next) rest).map
            (piece ++ ·) := by
  rw [fillSegments]
  unfold Specifier.outcome Specifier.position Specifier.isOrdinary
  by_cases consumes : specifier.consumes = true
  · cases specifier.index with
    | none => grind [Except.map]
    | some index => grind [Except.map]
  · simp only [consumes, Bool.false_eq_true, ↓reduceIte, Bool.false_and]
    cases fillSegments helper arguments next rest <;> rfl

theorem fillSegments_parts (next : Nat) (parts : List (List Char × Specifier)) (last : List Char) :
    fillSegments helper arguments next
        ((parts.flatMap fun part => part.1.map Segment.literal ++ [Segment.specifier part.2]) ++
          last.map Segment.literal) =
      ((outcomes helper arguments next (parts.map (·.2))).mapM id).map
        (spliced (parts.map (·.1)) · last) := by
  induction parts generalizing next with
  | nil =>
      have ending := fillSegments_literals helper arguments next last []
      rw [List.append_nil] at ending
      rw [List.flatMap_nil, List.nil_append, ending, fillSegments]
      simp [Except.map, outcomes, pure, Except.pure, spliced]
  | cons part parts ih =>
      obtain ⟨front, specifier⟩ := part
      simp only [List.flatMap_cons, List.append_assoc, List.map_cons, outcomes,
        fillSegments_literals]
      rw [List.cons_append, List.nil_append, fillSegments_specifier, ih]
      cases specifier.outcome helper arguments[specifier.position next]? with
      | error fault => rw [mapM_id_cons_error]; rfl
      | ok piece =>
          rw [mapM_id_cons_ok]
          cases (outcomes helper arguments _ (parts.map (·.2))).mapM id with
          | error fault => rfl
          | ok pieces => simp [Except.map, spliced]

theorem getElem?_outcomes (next k : Nat) (specifiers : List Specifier) :
    (outcomes helper arguments next specifiers)[k]? =
      specifiers[k]?.map fun specifier => specifier.outcome helper
        arguments[specifier.position
          (next + (specifiers.take k).countP Specifier.isOrdinary)]? := by
  induction specifiers generalizing next k with
  | nil => rfl
  | cons specifier specifiers ih =>
      cases k with
      | zero => rfl
      | succ k =>
          have count (n : Nat) : (if specifier.isOrdinary then next + 1 else next) + n =
              next + (n + if specifier.isOrdinary then 1 else 0) := by
            split <;> omega
          rw [outcomes, List.getElem?_cons_succ, List.getElem?_cons_succ, ih, List.take_succ_cons,
            List.countP_cons]
          simp only [count]

end

section
variable {helper : Helper} {arguments : List Value} {text last : List Char}
  {parts : List (List Char × Specifier)}

theorem getElem?_outcomes_zero (specifiers : List Specifier) (k : Nat) :
    (outcomes helper arguments 0 specifiers)[k]? =
      specifiers[k]?.map (outcomeAt helper arguments specifiers k) := by
  rw [getElem?_outcomes]
  simp only [Nat.zero_add]
  rfl

theorem length_outcomes (next : Nat) (specifiers : List Specifier) :
    (outcomes helper arguments next specifiers).length = specifiers.length := by
  induction specifiers generalizing next with
  | nil => rfl
  | cons specifier specifiers ih => rw [outcomes, List.length_cons, ih, List.length_cons]

theorem Layout.format_eq (layout : Layout text parts last) :
    format helper text arguments =
      ((outcomes helper arguments 0 (parts.map (·.2))).mapM id).map
        (spliced (parts.map (·.1)) · last) := by
  rw [format, layout.segments_eq, fillSegments_parts]

theorem Layout.outcome_of_ok (layout : Layout text parts last) {output : List Char}
    (filled : format helper text arguments = .ok output) :
    ∃ pieces, pieces.length = parts.length ∧ output = spliced (parts.map (·.1)) pieces last ∧
      ∀ k specifier, (parts.map (·.2))[k]? = some specifier → ∃ piece, pieces[k]? = some piece ∧
        outcomeAt helper arguments (parts.map (·.2)) k specifier = .ok piece := by
  rw [layout.format_eq] at filled
  cases all : (outcomes helper arguments 0 (parts.map (·.2))).mapM id with
  | error fault =>
      rw [all] at filled
      cases filled
  | ok pieces =>
      rw [all] at filled
      have each := mapM_id_eq_ok all
      refine ⟨pieces, ?_, (Except.ok.inj filled).symm, fun k specifier found => ?_⟩
      · have length := congrArg List.length each
        rw [length_outcomes, List.length_map, List.length_map] at length
        exact length.symm
      · have here := congrArg (·[k]?) each
        simp only [getElem?_outcomes_zero, found, Option.map_some, List.getElem?_map] at here
        obtain ⟨piece, given, same⟩ := Option.map_eq_some_iff.mp here.symm
        exact ⟨piece, given, same.symm⟩

theorem Layout.format_congr (layout : Layout text parts last) {others : List Value}
    (agree : ∀ k specifier, (parts.map (·.2))[k]? = some specifier → specifier.consumes = true →
      others[selected (parts.map (·.2)) k specifier]? =
        arguments[selected (parts.map (·.2)) k specifier]?) :
    format helper text others = format helper text arguments := by
  have same : outcomes helper others 0 (parts.map (·.2)) =
      outcomes helper arguments 0 (parts.map (·.2)) := by
    refine List.ext_getElem? fun k => ?_
    rw [getElem?_outcomes_zero, getElem?_outcomes_zero]
    refine Option.map_congr fun specifier found => ?_
    unfold outcomeAt
    by_cases consumes : specifier.consumes = true
    · rw [agree k specifier found consumes]
    · simp only [Specifier.outcome, consumes, Bool.false_eq_true, ↓reduceIte]
  rw [layout.format_eq, layout.format_eq, same]

theorem Layout.format_append (layout : Layout text parts last) {output : List Char}
    (filled : format helper text arguments = .ok output) (more : List Value) :
    format helper text (arguments ++ more) = .ok output := by
  rw [← filled]
  refine layout.format_congr fun k specifier found consumes => ?_
  obtain ⟨pieces, -, -, each⟩ := layout.outcome_of_ok filled
  obtain ⟨piece, -, outcome⟩ := each k specifier found
  unfold outcomeAt Specifier.outcome at outcome
  rw [if_pos consumes] at outcome
  cases given : arguments[selected (parts.map (·.2)) k specifier]? with
  | none =>
      rw [given] at outcome
      cases outcome
  | some value =>
      obtain ⟨within, -⟩ := List.getElem?_eq_some_iff.mp given
      rw [List.getElem?_append_left within, given]

end

/-- A format string that is filled keeps what stands around its specifiers, each specifier is filled
with the argument that is selected for it, and nothing depends on any other argument. -/
theorem format_selection (helper : Helper) (text : List Char) (arguments : List Value) :
    ∃ parts last, (∀ others ending, Layout text others ending ↔ others = parts ∧ ending = last) ∧
      let specifiers : List Specifier := parts.map (·.2)
      (∀ output, format helper text arguments = .ok output →
        (∃ pieces : List (List Char), pieces.length = parts.length ∧
          output = spliced (parts.map (·.1)) pieces last ∧
          ∀ (k : Nat) (specifier : Specifier), specifiers[k]? = some specifier →
            ∃ piece, pieces[k]? = some piece ∧
              specifier.outcome helper arguments[selected specifiers k specifier]? = .ok piece) ∧
        ∀ more, format helper text (arguments ++ more) = .ok output) ∧
      ∀ others : List Value,
        (∀ (k : Nat) (specifier : Specifier), specifiers[k]? = some specifier →
          specifier.consumes = true →
          others[selected specifiers k specifier]? = arguments[selected specifiers k specifier]?) →
        format helper text others = format helper text arguments := by
  obtain ⟨parts, last, unique⟩ := exists_layout text
  have layout := (unique parts last).mpr ⟨rfl, rfl⟩
  refine ⟨parts, last, unique, fun output filled => ?_, fun others agree => ?_⟩
  · exact ⟨layout.outcome_of_ok filled, layout.format_append filled⟩
  · exact layout.format_congr agree

end TagTemplate.Format
