import TagTemplate.Format.Specifier
import TagTemplate.Proofs.Numeral
import TagTemplate.Proofs.Text

/-! How the specifiers of a format string are written. -/

namespace TagTemplate.Format

open Unicode

structure Spelling where
  index : List Char
  flags : List Char
  width : List Char
  precision : List Char
  letter : Char
deriving DecidableEq, Repr

def indexText (digits : List Char) : List Char := if digits = [] then [] else digits ++ ['$']

def precisionText (digits : List Char) : List Char := if digits = [] then [] else '.' :: digits

namespace Spelling

def body (spelling : Spelling) : List Char :=
  spelling.flags ++ (spelling.width ++ (precisionText spelling.precision ++ [spelling.letter]))

def text (spelling : Spelling) : List Char := '%' :: (indexText spelling.index ++ spelling.body)

structure Proper (spelling : Spelling) : Prop where
  index : ∀ c ∈ spelling.index, isDecimalDigit c = true
  flags : ∀ c ∈ spelling.flags, isFlag c = true
  width : ∀ c ∈ spelling.width, isDecimalDigit c = true
  /-- A zero in front of the width would be a flag. -/
  bare : '0' ∉ spelling.width.head?
  precision : ∀ c ∈ spelling.precision, isDecimalDigit c = true
  letter : spelling.letter.isAlpha = true ∨ spelling.letter = '%'

/-- The specifier that is written. Digits that are not those of a number of 64 bits count as left
out. -/
def specifier (spelling : Spelling) : Specifier where
  source := spelling.text
  index := Numeral.readSize? spelling.index
  flags := Flags.ofList spelling.flags
  width := Numeral.readSize? spelling.width
  precision := Numeral.readSize? spelling.precision
  letter := spelling.letter

end Spelling

def IsSpecifier (specifier : Specifier) : Prop :=
  ∃ spelling : Spelling, spelling.Proper ∧ specifier = spelling.specifier

section Characters
variable {c : Char}

theorem toNat_of_isAlpha (alpha : c.isAlpha = true) :
    65 ≤ c.toNat ∧ c.toNat ≤ 90 ∨ 97 ≤ c.toNat ∧ c.toNat ≤ 122 := by
  rcases Bool.or_eq_true_iff.mp alpha with upper | lower
  · exact .inl (of_decide_eq_true upper)
  · have within := Bool.and_eq_true_iff.mp lower
    exact .inr ⟨of_decide_eq_true within.1, of_decide_eq_true within.2⟩

theorem ne_of_letter (letter : c.isAlpha = true ∨ c = '%') :
    isDecimalDigit c = false ∧ isFlag c = false ∧ c ≠ '$' ∧ c ≠ '.' := by
  rcases letter with alpha | rfl
  · have range := toNat_of_isAlpha alpha
    have other (d : Char) (apart : d.toNat < 65) : c ≠ d := by
      rintro rfl
      omega
    refine ⟨?_, ?_, other '$' (by decide), other '.' (by decide)⟩
    · have noDigit : ¬ (c.isDigit = true) := by
        simp only [Char.isDigit, Bool.and_eq_true, decide_eq_true_eq, UInt32.le_iff_toNat_le]
        intro digit
        have upper : c.toNat ≤ 57 := digit.2
        omega
      have small : c.toNat < 0x80 := by omega
      rw [isDecimalDigit, if_pos small]
      simpa using noDigit
    · simp only [isFlag, Bool.or_eq_false_iff, beq_eq_false_iff_ne]
      exact ⟨⟨⟨⟨⟨⟨other _ (by decide), other _ (by decide)⟩, other _ (by decide)⟩,
        other _ (by decide)⟩, other _ (by decide)⟩, other _ (by decide)⟩, other _ (by decide)⟩
  · decide

theorem not_isFlag_of_digit (digit : isDecimalDigit c = true) (some : c ≠ '0') :
    isFlag c = false := by
  rw [Bool.eq_false_iff]
  intro flag
  simp only [isFlag, Bool.or_eq_true, beq_iff_eq] at flag
  rcases flag with (((((rfl | rfl) | rfl) | rfl) | rfl) | rfl) | rfl
  · exact absurd digit (by decide)
  · exact absurd digit (by decide)
  · exact absurd digit (by decide)
  · exact absurd digit (by decide)
  · exact some rfl
  · exact absurd digit (by decide)
  · exact absurd digit (by decide)

end Characters

section Splitting
variable {digits rest text : List Char}

theorem takeWhile_passed {p : Char → Bool} {front : List Char}
    (passed : ∀ c ∈ front, p c = true) (stops : ∀ c ∈ rest.head?, p c = false) :
    (front ++ rest).takeWhile p = front := by
  have nothing : rest.takeWhile p = [] := by
    cases rest with
    | nil => rfl
    | cons c others => rw [List.takeWhile_cons_of_neg (by simp [stops c rfl])]
  rw [List.takeWhile_append_of_pos passed, nothing, List.append_nil]

theorem of_mem_takeWhile {p : Char → Bool} : ∀ c ∈ text.takeWhile p, p c = true :=
  List.all_eq_true.mp List.all_takeWhile

theorem spanNumber_append (number : ∀ c ∈ digits, isDecimalDigit c = true)
    (stops : ∀ c ∈ rest.head?, isDecimalDigit c = false) :
    spanNumber (digits ++ rest) = (digits, rest) := by
  rw [spanNumber, takeWhile_passed number stops, Text.dropWhile_passed number stops]

theorem splitIndex_append (number : ∀ c ∈ digits, isDecimalDigit c = true) (some : digits ≠ [])
    (rest : List Char) : splitIndex (digits ++ '$' :: rest) = (.some digits, rest) := by
  have dollar : ∀ c ∈ ('$' :: rest).head?, isDecimalDigit c = false := by
    rintro c ⟨⟩
    decide
  obtain ⟨d, ds, rfl⟩ := List.exists_cons_of_ne_nil some
  rw [splitIndex, spanNumber_append number dollar]
  rfl

theorem mem_of_head_dropWhile {p : Char → Bool} {front : List Char} {c : Char}
    (stops : p c = false) (rest : List Char) :
    ∀ d ∈ ((front ++ c :: rest).dropWhile p).head?, d ∈ front ++ [c] := by
  induction front with
  | nil => simp [stops]
  | cons other front ih =>
      intro d first
      rw [List.cons_append] at first ⊢
      by_cases passed : p other = true
      · rw [List.dropWhile_cons_of_pos passed] at first
        exact List.mem_cons_of_mem _ (ih d first)
      · rw [List.dropWhile_cons_of_neg passed] at first
        obtain rfl := Option.some.inj first
        exact List.mem_cons_self

theorem splitIndex_eq_none {front : List Char} {c : Char} (dollar : '$' ∉ front ++ [c])
    (stops : isDecimalDigit c = false) (rest : List Char) :
    splitIndex (front ++ c :: rest) = (none, front ++ c :: rest) := by
  unfold splitIndex
  split
  · next d ds after shape =>
      have behind : (front ++ c :: rest).dropWhile isDecimalDigit = '$' :: after :=
        (Prod.mk.inj shape).2
      exact absurd (mem_of_head_dropWhile stops rest '$' (by rw [behind]; rfl)) dollar
  · rfl

theorem splitIndex_shape (text : List Char) :
    ∃ digits, (∀ c ∈ digits, isDecimalDigit c = true) ∧
      text = indexText digits ++ (splitIndex text).2 ∧
      (splitIndex text).1.bind Numeral.readSize? = Numeral.readSize? digits := by
  unfold splitIndex
  split
  · next d ds rest shape =>
      obtain ⟨front, behind⟩ := Prod.mk.inj shape
      refine ⟨d :: ds, ?_, ?_, rfl⟩
      · rw [← front]
        exact of_mem_takeWhile
      · rw [indexText, if_neg (by simp), List.append_assoc, List.singleton_append, ← front,
          ← behind]
        exact List.takeWhile_append_dropWhile.symm
  · exact ⟨[], List.forall_mem_nil _, rfl, rfl⟩

theorem splitPrecision_append (number : ∀ c ∈ digits, isDecimalDigit c = true)
    (some : digits ≠ []) (stops : ∀ c ∈ rest.head?, isDecimalDigit c = false) :
    splitPrecision ('.' :: (digits ++ rest)) = (.some digits, rest) := by
  obtain ⟨d, ds, rfl⟩ := List.exists_cons_of_ne_nil some
  rw [splitPrecision, spanNumber_append number stops]

theorem splitPrecision_eq_none {c : Char} (noPoint : c ≠ '.') (rest : List Char) :
    splitPrecision (c :: rest) = (none, c :: rest) := by
  unfold splitPrecision
  split
  · next after shape => exact absurd (List.cons.inj shape).1 noPoint
  · rfl

theorem splitPrecision_shape (text : List Char) :
    ∃ digits, (∀ c ∈ digits, isDecimalDigit c = true) ∧
      text = precisionText digits ++ (splitPrecision text).2 ∧
      (splitPrecision text).1.bind Numeral.readSize? = Numeral.readSize? digits := by
  unfold splitPrecision
  split
  · next after =>
      split
      · next d ds rest shape =>
          obtain ⟨front, behind⟩ := Prod.mk.inj shape
          refine ⟨d :: ds, ?_, ?_, rfl⟩
          · rw [← front]
            exact of_mem_takeWhile
          · rw [precisionText, if_neg (by simp), List.cons_append, ← front, ← behind,
              List.takeWhile_append_dropWhile]
      · exact ⟨[], List.forall_mem_nil _, rfl, rfl⟩
  · exact ⟨[], List.forall_mem_nil _, rfl, rfl⟩

end Splitting

section Reading
variable {text rest : List Char}

theorem Spelling.Proper.splitIndex_eq {spelling : Spelling} (proper : spelling.Proper)
    (rest : List Char) :
    ∃ index, splitIndex (indexText spelling.index ++ (spelling.body ++ rest)) =
        (index, spelling.body ++ rest) ∧
      index.bind Numeral.readSize? = Numeral.readSize? spelling.index := by
  obtain ⟨noDigit, noFlag, noDollar, noPoint⟩ := ne_of_letter proper.letter
  by_cases empty : spelling.index = []
  · let front := spelling.flags ++ (spelling.width ++ precisionText spelling.precision)
    have shape : spelling.body ++ rest = front ++ spelling.letter :: rest := by
      simp [Spelling.body, front]
    have dollar : '$' ∉ front ++ [spelling.letter] := by
      intro member
      simp only [front, List.append_assoc, List.mem_append, List.mem_singleton] at member
      rcases member with flag | digit | precision | letter
      · exact absurd (proper.flags '$' flag) (by decide)
      · exact absurd (proper.width '$' digit) (by decide)
      · rw [precisionText] at precision
        split at precision
        · cases precision
        · rcases List.mem_cons.mp precision with point | digit
          · exact absurd point (by decide)
          · exact absurd (proper.precision '$' digit) (by decide)
      · exact noDollar letter.symm
    refine ⟨none, ?_, by rw [empty]; rfl⟩
    rw [indexText, if_pos empty, List.nil_append, shape,
      splitIndex_eq_none dollar noDigit]
  · refine ⟨some spelling.index, ?_, rfl⟩
    rw [indexText, if_neg empty, List.append_assoc, List.singleton_append,
      splitIndex_append proper.index empty]

theorem Spelling.Proper.splitPrecision_eq {spelling : Spelling} (proper : spelling.Proper)
    (rest : List Char) :
    ∃ precision, splitPrecision (precisionText spelling.precision ++ spelling.letter :: rest) =
        (precision, spelling.letter :: rest) ∧
      precision.bind Numeral.readSize? = Numeral.readSize? spelling.precision := by
  obtain ⟨noDigit, noFlag, noDollar, noPoint⟩ := ne_of_letter proper.letter
  by_cases empty : spelling.precision = []
  · refine ⟨none, ?_, by rw [empty]; rfl⟩
    rw [precisionText, if_pos empty, List.nil_append, splitPrecision_eq_none noPoint]
  · have stops : ∀ c ∈ (spelling.letter :: rest).head?, isDecimalDigit c = false := by
      rintro c ⟨⟩
      exact noDigit
    refine ⟨some spelling.precision, ?_, rfl⟩
    rw [precisionText, if_neg empty, List.cons_append,
      splitPrecision_append proper.precision empty stops]

theorem Spelling.Proper.stops {spelling : Spelling} (proper : spelling.Proper) (rest : List Char) :
    (∀ c ∈ (precisionText spelling.precision ++ spelling.letter :: rest).head?,
      isDecimalDigit c = false) ∧
    ∀ c ∈ (spelling.width ++ (precisionText spelling.precision ++ spelling.letter :: rest)).head?,
      isFlag c = false := by
  obtain ⟨noDigit, noFlag, noDollar, noPoint⟩ := ne_of_letter proper.letter
  have behind : ∀ c ∈ (precisionText spelling.precision ++ spelling.letter :: rest).head?,
      isDecimalDigit c = false ∧ isFlag c = false := by
    unfold precisionText
    split
    · rintro c ⟨⟩
      exact ⟨noDigit, noFlag⟩
    · rintro c ⟨⟩
      decide
  refine ⟨fun c first => (behind c first).1, ?_⟩
  intro c first
  cases shape : spelling.width with
  | nil =>
      rw [shape] at first
      exact (behind c first).2
  | cons d others =>
      rw [shape] at first
      obtain rfl : d = c := Option.some.inj first
      refine not_isFlag_of_digit (proper.width d (by simp [shape])) ?_
      rintro rfl
      exact proper.bare (by simp [shape])

theorem specifier?_append {specifier : Specifier} (one : IsSpecifier specifier)
    (whole : '%' :: text = specifier.source ++ rest) :
    specifier? text = some (specifier, rest) := by
  obtain ⟨spelling, proper, rfl⟩ := one
  have shape : text = indexText spelling.index ++ (spelling.body ++ rest) := by
    rw [← List.append_assoc]
    exact (List.cons.inj whole).2
  obtain ⟨index, indexed, read⟩ := proper.splitIndex_eq rest
  obtain ⟨precision, pointed, readToo⟩ := proper.splitPrecision_eq rest
  obtain ⟨noDigit, noFlag⟩ := proper.stops rest
  have body : spelling.body ++ rest = spelling.flags ++
      (spelling.width ++ (precisionText spelling.precision ++ spelling.letter :: rest)) := by
    simp [Spelling.body]
  have source : '%' :: text.take (text.length - rest.length) = spelling.text := by
    have length :
        text.length - rest.length = (indexText spelling.index ++ spelling.body).length := by
      rw [shape]
      simp only [List.length_append]
      omega
    rw [length, shape, ← List.append_assoc, List.take_left]
    rfl
  have letter : (spelling.letter.isAlpha || spelling.letter == '%') = true := by
    simpa using proper.letter
  rw [← shape] at indexed
  unfold specifier?
  rw [indexed]
  simp only [body, takeWhile_passed proper.flags noFlag, Text.dropWhile_passed proper.flags noFlag,
    spanNumber_append proper.width noDigit, pointed, letter, ↓reduceIte, source, read, readToo]
  rfl

theorem isSpecifier_of_specifier? {specifier : Specifier}
    (found : specifier? text = some (specifier, rest)) :
    IsSpecifier specifier ∧ '%' :: text = specifier.source ++ rest := by
  obtain ⟨index, indexed, shape, read⟩ := splitIndex_shape text
  let afterIndex := (splitIndex text).2
  let behind := afterIndex.dropWhile isFlag
  let afterWidth := behind.dropWhile isDecimalDigit
  obtain ⟨precision, pointed, shapeToo, readToo⟩ := splitPrecision_shape afterWidth
  have flagged : afterIndex = afterIndex.takeWhile isFlag ++ behind :=
    List.takeWhile_append_dropWhile.symm
  have wide : behind = behind.takeWhile isDecimalDigit ++ afterWidth :=
    List.takeWhile_append_dropWhile.symm
  have bare : '0' ∉ (behind.takeWhile isDecimalDigit).head? := by
    intro zero
    rw [List.head?_takeWhile, Option.mem_def, Option.filter_eq_some_iff] at zero
    have noFlag := List.head?_dropWhile_not isFlag afterIndex
    rw [zero.1] at noFlag
    exact absurd noFlag (by decide)
  unfold specifier? at found
  dsimp only [spanNumber] at found
  split at found
  · next letter after ending =>
      split at found
      · next isLetter =>
          obtain ⟨rfl, rfl⟩ := Prod.mk.inj (Option.some.inj found)
          let spelling : Spelling := ⟨index, afterIndex.takeWhile isFlag,
            behind.takeWhile isDecimalDigit, precision, letter⟩
          have proper : spelling.Proper :=
            ⟨indexed, of_mem_takeWhile, of_mem_takeWhile, bare, pointed, by simpa using isLetter⟩
          have whole : text = (indexText index ++ spelling.body) ++ after := by
            have tail : afterWidth = precisionText precision ++ letter :: after := by
              rw [← ending]
              exact shapeToo
            calc text = indexText index ++ afterIndex := shape
              _ = indexText index ++ (afterIndex.takeWhile isFlag ++
                    (behind.takeWhile isDecimalDigit ++ afterWidth)) := by rw [← wide, ← flagged]
              _ = (indexText index ++ spelling.body) ++ after := by
                    rw [tail]
                    simp [spelling, Spelling.body]
          have front :
              text.take (text.length - after.length) = indexText index ++ spelling.body := by
            have length :
                text.length - after.length = (indexText index ++ spelling.body).length := by
              rw [whole, List.length_append, Nat.add_sub_cancel]
            rw [length, whole, List.take_left]
          have source : '%' :: text.take (text.length - after.length) = spelling.text := by
            rw [front, Spelling.text]
          refine ⟨⟨spelling, proper, ?_⟩, ?_⟩
          · rw [source, read, readToo]
            rfl
          · rw [source, Spelling.text, List.cons_append, ← whole]
      · cases found
  · cases found

theorem specifier?_eq_some_iff (text rest : List Char) (specifier : Specifier) :
    specifier? text = some (specifier, rest) ↔
      IsSpecifier specifier ∧ '%' :: text = specifier.source ++ rest :=
  ⟨isSpecifier_of_specifier?, fun both => specifier?_append both.1 both.2⟩

end Reading

end TagTemplate.Format
