import Mathlib.Data.Bool.AllAny
import TagTemplate.Proofs.Format.Acceptance
import TagTemplate.Proofs.Numeral.Rounded

/-! What a width adds to the text that a specifier is filled with. -/

namespace TagTemplate

namespace Format

open Unicode Numeral

namespace Conversion

def isNumeric : Conversion → Bool
  | .text | .truth | .character => false
  | .integer | .hexadecimal | .octal | .fixed | .scientific => true

/-- How many characters of a number's text stand in front of the zeros: its base prefix, or the sign
or parenthesis in front of its first digit. -/
def markLength (conversion : Conversion) (flags : Flags) (text : List Char) : Nat :=
  match conversion with
  | .hexadecimal => if flags.alternate then 2 else 0
  | .octal => if flags.alternate then 1 else 0
  | _ => (text.takeWhile fun c => !c.isDigit).length

/-- A text with a number of characters added to it: spaces on its right with the flag `-`, zeros
behind the sign or prefix of a number with the flag `0`, else spaces on its left. -/
def widened (conversion : Conversion) (flags : Flags) (fill : Nat) (text : List Char) :
    List Char :=
  if flags.left then text ++ List.replicate fill ' '
  else if flags.zero && conversion.isNumeric then
    text.take (conversion.markLength flags text) ++
      (List.replicate fill '0' ++ text.drop (conversion.markLength flags text))
  else List.replicate fill ' ' ++ text

section
variable (conversion : Conversion) (flags : Flags) (fill : Nat) (text : List Char)

theorem length_widened : (conversion.widened flags fill text).length = fill + text.length := by
  unfold widened
  split
  · simp only [List.length_append, List.length_replicate]
    omega
  · split
    · have both := congrArg List.length
        (List.take_append_drop (conversion.markLength flags text) text)
      simp only [List.length_append, List.length_replicate] at both ⊢
      omega
    · simp only [List.length_append, List.length_replicate]

theorem widened_zero : conversion.widened flags 0 text = text := by
  simp [widened]

end

section
variable {conversion : Conversion} {text : List Char}

theorem markLength_toUpper (flags : Flags) (ascii : IsAscii text) :
    conversion.markLength flags (toUpper text) = conversion.markLength flags text := by
  have same : ((toUpper text).takeWhile fun c => !c.isDigit).length =
      (text.takeWhile fun c => !c.isDigit).length := by
    rw [toUpper_eq_map ascii, List.takeWhile_map, List.length_map]
    congr 1
    induction text with
    | nil => rfl
    | cons c text ih =>
        have later := ih fun d member => ascii d (List.mem_cons_of_mem _ member)
        simp only [List.takeWhile_cons, Function.comp_apply,
          isDigit_toUpper (ascii c List.mem_cons_self), later]
  cases conversion with
  | hexadecimal | octal => rfl
  | text | truth | character | integer | fixed | scientific => exact same

theorem toUpper_widened (flags : Flags) (fill : Nat)
    (ascii : conversion.isNumeric = true → IsAscii text) :
    toUpper (conversion.widened flags fill text) =
      conversion.widened flags fill (toUpper text) := by
  unfold widened
  split
  · rw [toUpper_append, toUpper_spaces]
  · split
    · next zero =>
        have plain := ascii (Bool.and_eq_true_iff.mp zero).2
        have front : IsAscii (text.take (conversion.markLength flags text)) :=
          fun c member => plain c (List.mem_of_mem_take member)
        have back : IsAscii (text.drop (conversion.markLength flags text)) :=
          fun c member => plain c (List.mem_of_mem_drop member)
        rw [toUpper_append, toUpper_append, toUpper_zeros, markLength_toUpper flags plain,
          toUpper_eq_map plain, toUpper_eq_map front, toUpper_eq_map back, List.map_take,
          List.map_drop]
    · rw [toUpper_append, toUpper_spaces]

end

/-- The text of a specifier taken apart where zeros are put. Only texts and single characters may
hold characters beyond ASCII. -/
structure Parted (conversion : Conversion) (flags : Flags) (mark body : List Char) : Prop where
  ascii : conversion = .text ∨ conversion = .character ∨ IsAscii (mark ++ body)
  mark : conversion.isNumeric = true → conversion.markLength flags (mark ++ body) = mark.length

theorem Parted.of_not_numeric {conversion : Conversion} {flags : Flags} {mark body : List Char}
    (other : conversion.isNumeric = false)
    (ascii : conversion = .text ∨ conversion = .character ∨ IsAscii (mark ++ body)) :
    conversion.Parted flags mark body :=
  ⟨ascii, fun numeric => absurd (other.symm.trans numeric) Bool.false_ne_true⟩

end Conversion

theorem isAscii_groupThousands {digits : List Char} (ascii : IsAscii digits) :
    IsAscii (groupThousands digits) := by
  induction digits with
  | nil => exact ascii
  | cons c rest ih =>
      obtain ⟨first, others⟩ := List.forall_mem_cons.mp ascii
      have later := ih others
      unfold groupThousands
      split
      · exact .cons first (.cons (by decide) later)
      · exact .cons first later

theorem isNumeral_groupThousands {digits : List Char} (numeral : IsNumeral digits) :
    IsNumeral (groupThousands digits) := by
  refine ⟨?_, isAscii_groupThousands numeral.ascii⟩
  obtain ⟨c, rest, rfl, digit⟩ := numeral.first
  unfold groupThousands
  split
  · exact ⟨c, _, rfl, digit⟩
  · exact ⟨c, _, rfl, digit⟩

theorem isNumeral_groupWhole {text : List Char} (numeral : IsNumeral text) :
    IsNumeral (groupWhole text) := by
  have front : IsNumeral (text.takeWhile (· != '.')) := by
    refine ⟨?_, numeral.ascii.of_subset (List.takeWhile_subset _)⟩
    obtain ⟨c, rest, rfl, digit⟩ := numeral.first
    have noPoint : (c != '.') = true := bne_iff_ne.mpr (ne_of_isDigit digit (by decide))
    exact ⟨c, _, List.takeWhile_cons_of_pos noPoint, digit⟩
  exact (isNumeral_groupThousands front).append
    (numeral.ascii.of_subset (List.dropWhile_subset _))

namespace Specifier

def signMark (specifier : Specifier) (negative : Bool) : List Char :=
  if negative && specifier.flags.parenthesize then ['('] else specifier.sign negative

def signBody (specifier : Specifier) (negative : Bool) (digits : List Char) : List Char :=
  if negative && specifier.flags.parenthesize then digits ++ [')'] else digits

def placed (specifier : Specifier) (conversion : Conversion) (mark body : List Char) : List Char :=
  if conversion.isNumeric then specifier.padNumber mark body else specifier.pad (mark ++ body)

section
variable (specifier : Specifier) (negative : Bool)

theorem padSigned_eq (digits : List Char) :
    specifier.padSigned negative digits =
      specifier.padNumber (specifier.signMark negative) (specifier.signBody negative digits) := by
  unfold padSigned signMark signBody
  split <;> rfl

theorem signMark_cases :
    specifier.signMark negative ∈ [[], ['-'], ['+'], [' '], ['(']] := by
  unfold signMark sign
  grind

end

section
variable {specifier : Specifier} {conversion : Conversion} {mark body : List Char}

theorem placed_eq (parted : conversion.Parted specifier.flags mark body) :
    specifier.placed conversion mark body =
      conversion.widened specifier.flags (specifier.width.getD 0 - (mark ++ body).length)
        (mark ++ body) := by
  unfold placed Conversion.widened
  by_cases numeric : conversion.isNumeric = true
  · rw [if_pos numeric, parted.mark numeric, List.take_left, List.drop_left, numeric,
      Bool.and_true, padNumber, pad, List.length_append]
    cases specifier.flags.left with
    | true => simp
    | false => cases specifier.flags.zero <;> simp
  · rw [if_neg numeric, Bool.eq_false_iff.mpr numeric, Bool.and_false, pad]
    cases specifier.flags.left with
    | true => simp
    | false => simp

theorem parted_signed (negative : Bool) {digits : List Char} (numeral : IsNumeral digits)
    (signed : ∀ text, conversion.markLength specifier.flags text =
      (text.takeWhile fun c => !c.isDigit).length) :
    conversion.Parted specifier.flags (specifier.signMark negative)
      (specifier.signBody negative digits) := by
  have known := specifier.signMark_cases negative
  have noDigit : ∀ mark ∈ [[], ['-'], ['+'], [' '], ['(']],
      (mark.all fun c => !c.isDigit) = true ∧ mark.all (·.toNat < 0x80) = true := by decide
  obtain ⟨others, plain⟩ := noDigit _ known
  have ascii : IsAscii (specifier.signMark negative) := by simpa [IsAscii] using plain
  have body : IsNumeral (specifier.signBody negative digits) := by
    unfold signBody
    split
    · exact numeral.append (.cons (by decide) (List.forall_mem_nil _))
    · exact numeral
  have stops : ∀ c ∈ (specifier.signBody negative digits).head?, (!c.isDigit) = false := by
    obtain ⟨c, rest, shape, digit⟩ := body.first
    simp [shape, digit]
  refine ⟨.inr (.inr (ascii.append body.ascii)), ?_⟩
  intro numeric
  rw [signed, takeWhile_passed (List.all_eq_true.mp others) stops]

theorem parted_based {base : Nat} {sigil : List Char} (n : Nat) (bounds : 2 ≤ base ∧ base ≤ 16)
    (plain : IsAscii sigil) (based : ∀ text, conversion.markLength specifier.flags text =
      if specifier.flags.alternate then sigil.length else 0) :
    conversion.Parted specifier.flags (specifier.basePrefix sigil) (Numeral.digits base n) := by
  have front : IsAscii (specifier.basePrefix sigil) := by
    unfold basePrefix
    split
    · exact plain
    · simp [IsAscii]
  have back : IsAscii (Numeral.digits base n) := isAscii_digits bounds n
  have length : (specifier.basePrefix sigil).length =
      if specifier.flags.alternate then sigil.length else 0 := by
    unfold basePrefix
    split <;> rfl
  exact ⟨.inr (.inr (front.append back)), fun _ => (based _).trans length.symm⟩

end

def unbounded (specifier : Specifier) : Specifier := { specifier with width := none }

def lowered (specifier : Specifier) : Specifier :=
  { specifier with letter := specifier.letter.toLower }

section
variable {specifier : Specifier} {helper : Helper} {conversion : Conversion} {value : Value}
  {text : List Char}

theorem fill_parts (filled : specifier.fill helper conversion value = .ok text) :
    ∃ mark body, conversion.Parted specifier.flags mark body ∧
      ∀ width, { specifier with width := width }.fill helper conversion value =
        .ok ({ specifier with width := width }.placed conversion mark body) := by
  cases conversion with
  | text =>
      cases cut : specifier.precision with
      | none =>
          refine ⟨[], value.display.toList, .of_not_numeric rfl (.inl rfl), fun width => ?_⟩
          simp only [fill]
          rfl
      | some most =>
          refine ⟨[], value.display.toList.take most, .of_not_numeric rfl (.inl rfl),
            fun width => ?_⟩
          simp only [fill]
          rfl
  | truth =>
      let shown := if truth value then "true".toList else "false".toList
      have ascii : IsAscii shown := by
        unfold shown
        split <;> simp [IsAscii]
      exact ⟨[], shown, .of_not_numeric rfl (.inr (.inr ascii)), fun width => rfl⟩
  | character =>
      cases read : character? value with
      | none => simp [fill, read] at filled
      | some c =>
          refine ⟨[], [c], .of_not_numeric rfl (.inr (.inl rfl)), fun width => ?_⟩
          simp only [fill, read]
          rfl
  | integer =>
      cases read : integer? value with
      | none => simp [fill, read] at filled
      | some n =>
          let digits := decimal n.natAbs
          let shown := if specifier.flags.group then groupThousands digits else digits
          have numeral : IsNumeral shown := by
            unfold shown
            split
            · exact isNumeral_groupThousands (isNumeral_decimal _)
            · exact isNumeral_decimal _
          refine ⟨_, _, parted_signed (n < 0) numeral fun _ => rfl, fun width => ?_⟩
          simp only [fill, read, padSigned_eq]
          rfl
  | hexadecimal =>
      cases read : integer? value with
      | none => simp [fill, read] at filled
      | some n =>
          have mark : IsAscii ['0', 'x'] := by simp [IsAscii]
          refine ⟨_, _, parted_based (unsigned n) ⟨Nat.le_add_left 2 14, Nat.le_refl 16⟩ mark
            fun _ => rfl, fun width => ?_⟩
          simp only [fill, read]
          rfl
  | octal =>
      cases read : integer? value with
      | none => simp [fill, read] at filled
      | some n =>
          have mark : IsAscii ['0'] := by simp [IsAscii]
          refine ⟨_, _, parted_based (unsigned n) ⟨Nat.le_add_left 2 6, Nat.le_add_left 8 8⟩ mark
            fun _ => rfl, fun width => ?_⟩
          simp only [fill, read]
          rfl
  | fixed =>
      cases read : number? value with
      | none => simp [fill, read] at filled
      | some x =>
          let digits := x.fixed (specifier.precision.getD 6)
          let shown := if specifier.flags.group then groupWhole digits else digits
          have numeral : IsNumeral shown := by
            unfold shown
            split
            · exact isNumeral_groupWhole (x.isNumeral_fixed _)
            · exact x.isNumeral_fixed _
          refine ⟨_, _, parted_signed (x.negative && !x.isZero) numeral fun _ => rfl,
            fun width => ?_⟩
          simp only [fill, read, padSigned_eq]
          rfl
  | scientific =>
      cases read : number? value with
      | none => simp [fill, read] at filled
      | some x =>
          have numeral := x.isNumeral_exponential (specifier.precision.getD 6)
          refine ⟨_, _, parted_signed (x.negative && !x.isZero) numeral fun _ => rfl,
            fun width => ?_⟩
          simp only [fill, read, padSigned_eq]
          rfl

theorem fill_widened (filled : specifier.fill helper conversion value = .ok text) :
    ∃ small, (conversion = .text ∨ conversion = .character ∨ IsAscii small) ∧
      ∀ width, { specifier with width := width }.fill helper conversion value =
        .ok (conversion.widened specifier.flags (width.getD 0 - small.length) small) := by
  obtain ⟨mark, body, parted, each⟩ := fill_parts filled
  refine ⟨mark ++ body, parted.ascii, fun width => ?_⟩
  rw [each width]
  have placed : ({ specifier with width := width } : Specifier).placed conversion mark body =
      conversion.widened specifier.flags (width.getD 0 - (mark ++ body).length) (mark ++ body) :=
    placed_eq parted
  rw [placed]

theorem render_eq_ok_iff : specifier.render helper value = .ok text ↔
    (specifier.flags.parenthesize = true → allowsParenthesis specifier.letter = true) ∧
      ∃ conversion inner, Conversion.ofLetter? specifier.letter = some conversion ∧
        specifier.fill helper conversion value = .ok inner ∧
        (if specifier.letter.isUpper then toUpper inner else inner) = text := by
  unfold render
  cases specifier.flags.parenthesize <;> cases allowsParenthesis specifier.letter <;>
    cases Conversion.ofLetter? specifier.letter with
    | none => simp
    | some conversion =>
        cases shape : specifier.fill helper conversion value <;> simp [shape]

end

end Specifier

section
variable {letter : Char} {conversion : Conversion}

theorem mem_of_ofLetter? (found : Conversion.ofLetter? letter = some conversion) :
    letter ∈ letterTable.map Prod.fst ++ looseLetters := by
  by_cases loose : letter ∈ looseLetters
  · exact List.mem_append_right _ loose
  · exact List.mem_append_left _
      (List.mem_map.mpr ⟨_, mem_letterTable found loose, rfl⟩)

theorem toLower_of_ofLetter? (found : Conversion.ofLetter? letter = some conversion) :
    Conversion.ofLetter? letter.toLower = some conversion ∧ letter.toLower.isUpper = false ∧
      (Specifier.allowsParenthesis letter = true →
        Specifier.allowsParenthesis letter.toLower = true) := by
  have all : ∀ letter ∈ letterTable.map Prod.fst ++ looseLetters,
      Conversion.ofLetter? letter.toLower = Conversion.ofLetter? letter ∧
        letter.toLower.isUpper = false ∧ (Specifier.allowsParenthesis letter = true →
          Specifier.allowsParenthesis letter.toLower = true) :=
    List.all_iff_forall_prop.mp (by decide)
  rw [← found]
  exact all letter (mem_of_ofLetter? found)

theorem upper_of_ofLetter? (found : Conversion.ofLetter? letter = some conversion)
    (upper : letter.isUpper = true) (other : letter ∉ ['S', 'C']) :
    conversion ≠ .text ∧ conversion ≠ .character := by
  have all : ∀ letter ∈ letterTable.map Prod.fst ++ looseLetters, letter.isUpper = true →
      letter ∉ ['S', 'C'] → Conversion.ofLetter? letter ≠ some .text ∧
        Conversion.ofLetter? letter ≠ some .character :=
    List.all_iff_forall_prop.mp (by decide)
  have here := all letter (mem_of_ofLetter? found) upper other
  rw [found] at here
  exact ⟨fun same => here.1 (congrArg some same), fun same => here.2 (congrArg some same)⟩

end

/-- A width adds spaces or zeros to the text of a specifier, as many as it has characters less than
the width before upper case is put in; all else stays. The text has as many characters as the wider
of both, unless the upper case of a text or character takes more of them. -/
theorem render_width {specifier : Specifier} {helper : Helper} {value : Value} {text : List Char}
    {width : Nat} (wide : specifier.width = some width)
    (filled : specifier.render helper value = .ok text) :
    ∃ conversion plain small, Conversion.ofLetter? specifier.letter = some conversion ∧
      specifier.unbounded.render helper value = .ok plain ∧
      specifier.unbounded.lowered.render helper value = .ok small ∧
      plain = (if specifier.letter.isUpper then toUpper small else small) ∧
      text = conversion.widened specifier.flags (width - small.length) plain ∧
      text.length = (width - small.length) + plain.length ∧
      (specifier.letter ∉ ['S', 'C'] ∨ small.length = plain.length →
        text = conversion.widened specifier.flags (width - plain.length) plain ∧
          text.length = max width plain.length) := by
  obtain ⟨allowed, conversion, inner, found, placed, rfl⟩ := Specifier.render_eq_ok_iff.mp filled
  obtain ⟨foundToo, notUpper, allowedToo⟩ := toLower_of_ofLetter? found
  obtain ⟨small, ascii, each⟩ := Specifier.fill_widened placed
  have bare : specifier.unbounded.fill helper conversion value = .ok small := by
    rw [Specifier.unbounded, each none, Option.getD_none, Nat.zero_sub, Conversion.widened_zero]
  have widened := each (some width)
  rw [Option.getD_some, ← wide] at widened
  obtain rfl := Except.ok.inj (placed.symm.trans widened)
  let plain := if specifier.letter.isUpper then toUpper small else small
  have cased : (if specifier.letter.isUpper then
        toUpper (conversion.widened specifier.flags (width - small.length) small)
      else conversion.widened specifier.flags (width - small.length) small) =
      conversion.widened specifier.flags (width - small.length) plain := by
    unfold plain
    split
    · refine Conversion.toUpper_widened specifier.flags _ fun numeric => ?_
      rcases ascii with rfl | rfl | ascii
      · cases numeric
      · cases numeric
      · exact ascii
    · rfl
  have keeps : specifier.letter ∉ ['S', 'C'] → small.length = plain.length := by
    intro other
    unfold plain
    split
    · next upper =>
        obtain ⟨noText, noCharacter⟩ := upper_of_ofLetter? found upper other
        have ascii := (ascii.resolve_left noText).resolve_left noCharacter
        rw [toUpper_eq_map ascii, List.length_map]
    · rfl
  refine ⟨conversion, plain, small, found, ?_, ?_, rfl, cased, ?_, fun usual => ?_⟩
  · exact Specifier.render_eq_ok_iff.mpr ⟨allowed, conversion, small, found, bare, rfl⟩
  · refine Specifier.render_eq_ok_iff.mpr ⟨fun flag => allowedToo (allowed flag), conversion,
      small, foundToo, bare, ?_⟩
    exact if_neg (Bool.eq_false_iff.mp notUpper)
  · rw [cased, Conversion.length_widened]
  · have same := usual.elim keeps id
    rw [cased, same]
    refine ⟨rfl, ?_⟩
    rw [Conversion.length_widened]
    omega

theorem render_width_zeros :
    let value := Value.number (.integer ⟨255, by decide, by decide⟩)
    let text := ['0', 'X', '0', '0', '0', '0', '0', '0', 'F', 'F']
    ∃ specifier, specifier? ['#', '0', '1', '0', 'X'] = some (specifier, []) ∧
      specifier.width = some 10 ∧ specifier.render .stringFormat value = .ok text ∧
      ∃ plain, specifier.unbounded.render .stringFormat value = .ok plain ∧
        text = Conversion.hexadecimal.widened specifier.flags (10 - plain.length) plain ∧
        text.length = max 10 plain.length := by
  intro value text
  let specifier : Specifier :=
    ⟨['%', '#', '0', '1', '0', 'X'], none, Flags.ofList ['#', '0'], some 10, none, 'X'⟩
  have digits : Numeral.digits 16 (Specifier.unsigned 255) = ['f', 'f'] := by decide +kernel
  have inner : specifier.fill .stringFormat .hexadecimal value =
      .ok (specifier.padNumber ['0', 'x'] ['f', 'f']) := by
    rw [← digits]
    rfl
  have filled : specifier.render .stringFormat value = .ok text :=
    Specifier.render_eq_ok_iff.mpr ⟨fun flag => absurd flag (by decide), .hexadecimal, _, rfl,
      inner, rfl⟩
  obtain ⟨conversion, plain, small, found, bare, -, -, -, -, law⟩ := render_width rfl filled
  obtain rfl : .hexadecimal = conversion := Option.some.inj found
  exact ⟨specifier, rfl, rfl, filled, plain, bare, law (.inl (by decide))⟩

/-- Five characters are asked for, and the upper case of a sharp s that is brought to five makes
six. -/
theorem upper_overrun :
    ∃ specifier, specifier? ['5', 'S'] = some (specifier, []) ∧ specifier.width = some 5 ∧
      specifier.unbounded.render .stringFormat (.string "ß") = .ok ['S', 'S'] ∧
      specifier.render .stringFormat (.string "ß") = .ok [' ', ' ', ' ', ' ', 'S', 'S'] ∧
      [' ', ' ', ' ', ' ', 'S', 'S'].length ≠ max 5 ['S', 'S'].length := by
  exact ⟨_, rfl, rfl, rfl, rfl, by decide⟩

end Format

end TagTemplate
