import Mathlib.Algebra.Ring.Int.Defs
import TagTemplate.Proofs.Format.Grouping
import TagTemplate.Proofs.Format.Width

/-! Integers read back from what they are formatted to. -/

namespace TagTemplate

namespace Numeral

theorem ofDigits_map {f : Char → Char} {base : Nat} {text : List Char}
    (same : ∀ c ∈ text, digitValue (f c) = digitValue c) :
    ofDigits base (text.map f) = ofDigits base text := by
  unfold ofDigits
  generalize 0 = value
  induction text generalizing value with
  | nil => rfl
  | cons c text ih =>
      obtain ⟨here, later⟩ := List.forall_mem_cons.mp same
      rw [List.map_cons, List.foldl_cons, List.foldl_cons, here, ih later]

def isDigitOf (base : Nat) (c : Char) : Bool := c.isAlphanum && decide (digitValue c < base)

theorem isDigitOf_digitChar {base value : Nat} (bound : value < base) (small : base ≤ 16) :
    isDigitOf base (digitChar value) = true ∧ isDigitOf base (digitChar value).toUpper = true ∧
      digitValue (digitChar value).toUpper = digitValue (digitChar value) := by
  have all : ∀ value : Fin 16, (digitChar value).isAlphanum = true ∧
      (digitChar value).toUpper.isAlphanum = true ∧ digitValue (digitChar value) = value ∧
      digitValue (digitChar value).toUpper = value := by decide
  obtain ⟨letter, upper, same, sameToo⟩ := all ⟨value, by omega⟩
  simp only [isDigitOf, letter, upper, same, sameToo, Bool.true_and, decide_eq_true_eq, bound,
    and_self]

end Numeral

namespace Format

open Unicode Numeral

def isSolid (c : Char) : Bool := c != ' ' && c != ','

/-- The integer that stands in a text, spaces and commas passed over. A minus sign or parentheses
make it negative; a plus sign says nothing. -/
def readInteger? (text : List Char) : Option Int :=
  match text.filter isSolid with
  | '-' :: digits => (digitsOnly? digits).map fun n : Nat => -(n : Int)
  | '(' :: digits =>
      if digits.getLast? = some ')' then
        (digitsOnly? digits.dropLast).map fun n : Nat => -(n : Int)
      else none
  | '+' :: digits => (digitsOnly? digits).map Int.ofNat
  | digits => (digitsOnly? digits).map Int.ofNat

def withoutPrefix : List Char → List Char
  | '0' :: 'x' :: digits => digits
  | '0' :: 'X' :: digits => digits
  | digits => digits

def readBased? (base : Nat) (text : List Char) : Option Int :=
  let digits := withoutPrefix (text.filter (· != ' '))
  if digits ≠ [] ∧ digits.all (isDigitOf base) then some (ofDigits base digits) else none

section Decimal

theorem isSolid_of_isDigit {c : Char} (digit : c.isDigit = true) : isSolid c = true := by
  rw [isSolid, Bool.and_eq_true, bne_iff_ne, bne_iff_ne]
  exact ⟨ne_of_isDigit digit (by decide), ne_of_isDigit digit (by decide)⟩

theorem filter_solid {digits : List Char} (all : ∀ c ∈ digits, c.isDigit = true) :
    digits.filter isSolid = digits :=
  List.filter_eq_self.mpr fun c member => isSolid_of_isDigit (all c member)

structure Zeroed (n : Nat) (digits : List Char) : Prop where
  all : ∀ c ∈ digits, c.isDigit = true
  read : digitsOnly? digits = some n

theorem zeroed_decimal (count n : Nat) : Zeroed n (List.replicate count '0' ++ decimal n) := by
  have all : ∀ c ∈ List.replicate count '0' ++ decimal n, c.isDigit = true :=
    fun _ => isDigit_of_mem_zeros
  refine ⟨all, (digitsOnly?_eq_some_iff _ n).mpr ⟨⟨by simp [decimal_ne_nil], all⟩, ?_⟩⟩
  rw [ofDigits_zeros, ofDigits_decimal]

inductive Signed (n : Int) : List Char → Prop
  | unsigned {digits : List Char} (positive : 0 ≤ n) (zeroed : Zeroed n.natAbs digits) :
      Signed n digits
  | plus {digits : List Char} (positive : 0 ≤ n) (zeroed : Zeroed n.natAbs digits) :
      Signed n ('+' :: digits)
  | minus {digits : List Char} (negative : n < 0) (zeroed : Zeroed n.natAbs digits) :
      Signed n ('-' :: digits)
  | parentheses {digits : List Char} (negative : n < 0) (zeroed : Zeroed n.natAbs digits) :
      Signed n ('(' :: (digits ++ [')']))

theorem readInteger?_of_signed {n : Int} {text : List Char}
    (signed : Signed n (text.filter isSolid)) : readInteger? text = some n := by
  have upper (positive : 0 ≤ n) : Int.ofNat n.natAbs = n := Int.natAbs_of_nonneg positive
  have lower (negative : n < 0) : -(n.natAbs : Int) = n := by omega
  unfold readInteger?
  generalize text.filter isSolid = solid at signed
  cases signed with
  | unsigned positive zeroed =>
      split
      · exact absurd (zeroed.all '-' List.mem_cons_self) (by decide)
      · exact absurd (zeroed.all '(' List.mem_cons_self) (by decide)
      · exact absurd (zeroed.all '+' List.mem_cons_self) (by decide)
      · rw [zeroed.read, Option.map_some, upper positive]
  | plus positive zeroed => simp only [zeroed.read, Option.map_some, upper positive]
  | minus negative zeroed => simp only [zeroed.read, Option.map_some, lower negative]
  | parentheses negative zeroed =>
      simp only [List.getLast?_concat, ↓reduceIte, List.dropLast_concat, zeroed.read,
        Option.map_some, lower negative]

end Decimal

namespace Specifier

theorem filter_padNumber {p : Char → Bool} (space : p ' ' = false) (zero : p '0' = true)
    (specifier : Specifier) (mark body : List Char) :
    ∃ zeros, (specifier.padNumber mark body).filter p =
      mark.filter p ++ (List.replicate zeros '0' ++ body.filter p) := by
  have spaces (count : Nat) : (List.replicate count ' ').filter p = [] := by
    rw [List.filter_replicate, if_neg (Bool.eq_false_iff.mp space)]
  have zeros (count : Nat) : (List.replicate count '0').filter p = List.replicate count '0' := by
    rw [List.filter_replicate, if_pos zero]
  unfold padNumber pad
  split
  · exact ⟨_, by rw [List.filter_append, List.filter_append, zeros, List.append_assoc]⟩
  · refine ⟨0, ?_⟩
    dsimp only
    split
    · rw [List.filter_append, spaces, List.append_nil, List.filter_append]
      rfl
    · rw [List.filter_append, spaces, List.nil_append, List.filter_append]
      rfl

theorem signed_padSigned (specifier : Specifier) (n : Int) {shown : List Char}
    (solid : shown.filter isSolid = decimal n.natAbs) :
    Signed n ((specifier.padSigned (n < 0) shown).filter isSolid) := by
  have padded := specifier.filter_padNumber (p := isSolid) (by decide) (by decide)
  unfold padSigned
  by_cases negative : n < 0
  · rw [decide_eq_true negative, Bool.true_and]
    split
    · obtain ⟨zeros, kept⟩ := padded ['('] (shown ++ [')'])
      have closed := Signed.parentheses negative (zeroed_decimal zeros n.natAbs)
      rw [List.append_assoc] at closed
      rw [kept, List.filter_append, solid]
      exact closed
    · obtain ⟨zeros, kept⟩ := padded ['-'] shown
      rw [sign, if_pos rfl, kept, solid]
      exact .minus negative (zeroed_decimal zeros _)
  · have positive : 0 ≤ n := Int.not_lt.mp negative
    rw [decide_eq_false negative, Bool.false_and, if_neg Bool.false_ne_true, sign,
      if_neg Bool.false_ne_true]
    split
    · obtain ⟨zeros, kept⟩ := padded ['+'] shown
      rw [kept, solid]
      exact .plus positive (zeroed_decimal zeros _)
    · split
      · obtain ⟨zeros, kept⟩ := padded [' '] shown
        rw [kept, solid]
        exact .unsigned positive (zeroed_decimal zeros _)
      · obtain ⟨zeros, kept⟩ := padded [] shown
        rw [kept, solid]
        exact .unsigned positive (zeroed_decimal zeros _)

end Specifier

section Based

variable {base n : Nat}

structure ZeroedIn (base n : Nat) (digits : List Char) : Prop where
  some : digits ≠ []
  all : ∀ c ∈ digits, isDigitOf base c = true
  value : ofDigits base digits = n

theorem zeroedIn_digits (bounds : 2 ≤ base ∧ base ≤ 16) (count n : Nat) (upper : Bool) :
    ZeroedIn base n (List.replicate count '0' ++
      (digits base n).map (if upper then Char.toUpper else id)) := by
  have digit : ∀ c ∈ digits base n, isDigitOf base c = true ∧ isDigitOf base c.toUpper = true ∧
      digitValue c.toUpper = digitValue c := by
    intro c member
    obtain ⟨value, bound, rfl⟩ := exists_of_mem_digits bounds.1 member
    exact isDigitOf_digitChar bound bounds.2
  have zero : isDigitOf base (digitChar 0) = true :=
    (isDigitOf_digitChar (by omega) bounds.2).1
  refine ⟨by simp [digits_ne_nil], fun c member => ?_, ?_⟩
  · rcases List.mem_append.mp member with zeros | shown
    · rw [List.eq_of_mem_replicate zeros]
      exact zero
    · obtain ⟨d, memberToo, rfl⟩ := List.mem_map.mp shown
      split
      · exact (digit d memberToo).2.1
      · exact (digit d memberToo).1
  · rw [ofDigits_zeros, ofDigits_map, ofDigits_digits base n bounds.1 (by omega)]
    intro c member
    split
    · exact (digit c member).2.2
    · rfl

theorem withoutPrefix_digits {digits : List Char} (small : base ≤ 16)
    (all : ∀ c ∈ digits, isDigitOf base c = true) : withoutPrefix digits = digits := by
  -- The letter of a prefix is a digit of no base up to sixteen.
  have none (c : Char) (large : 16 ≤ digitValue c) : isDigitOf base c = false := by
    have beyond : ¬ digitValue c < base := by omega
    rw [isDigitOf, decide_eq_false beyond, Bool.and_false]
  unfold withoutPrefix
  split
  · exact absurd (all 'x' (by simp)) (by simp [none 'x' (by decide)])
  · exact absurd (all 'X' (by simp)) (by simp [none 'X' (by decide)])
  · rfl

theorem readBased?_of_zeroedIn {text digits : List Char} (zeroed : ZeroedIn base n digits)
    (kept : withoutPrefix (text.filter (· != ' ')) = digits) :
    readBased? base text = some (n : Int) := by
  have all : digits.all (isDigitOf base) = true := List.all_eq_true.mpr zeroed.all
  unfold readBased?
  simp only [kept, zeroed.some, all, zeroed.value, ne_eq, not_false_eq_true, and_self, ↓reduceIte]

end Based

namespace Specifier

variable {specifier : Specifier} {helper : Helper} {n : Integer64}

def sigils : List (List Char) := [[], ['0'], ['0', 'x'], ['0', 'X']]

theorem readBased?_padNumber {base : Nat} {mark : List Char} (bounds : 2 ≤ base ∧ base ≤ 16)
    (sigil : mark ∈ sigils) (specifier : Specifier) (n : Nat) (upper : Bool) :
    readBased? base (specifier.padNumber mark
      ((digits base n).map (if upper then Char.toUpper else id))) = some (n : Int) := by
  let shown := (digits base n).map (if upper then Char.toUpper else id)
  have solid : shown.filter (· != ' ') = shown := by
    refine List.filter_eq_self.mpr fun c member => bne_iff_ne.mpr ?_
    rintro rfl
    have blank := (zeroedIn_digits bounds 0 n upper).all ' ' member
    exact absurd (Bool.and_eq_true_iff.mp blank).1 (by decide)
  obtain ⟨zeros, kept⟩ := specifier.filter_padNumber (p := (· != ' ')) (by decide) (by decide)
    mark shown
  rw [solid] at kept
  obtain ⟨count, bare⟩ : ∃ count, withoutPrefix ((specifier.padNumber mark shown).filter (· != ' '))
      = List.replicate count '0' ++ shown := by
    rw [kept]
    simp only [sigils, List.mem_cons, List.not_mem_nil, or_false] at sigil
    rcases sigil with rfl | rfl | rfl | rfl
    · exact ⟨zeros, withoutPrefix_digits bounds.2 (zeroedIn_digits bounds zeros n upper).all⟩
    · exact ⟨zeros + 1,
        withoutPrefix_digits bounds.2 (zeroedIn_digits bounds (zeros + 1) n upper).all⟩
    · exact ⟨zeros, rfl⟩
    · exact ⟨zeros, rfl⟩
  exact readBased?_of_zeroedIn (zeroedIn_digits bounds count n upper) bare

theorem toUpper_padNumber {mark body : List Char} (front : IsAscii mark) (back : IsAscii body)
    (specifier : Specifier) : toUpper (specifier.padNumber mark body) =
      specifier.padNumber (mark.map Char.toUpper) (body.map Char.toUpper) := by
  unfold padNumber pad
  split
  · rw [toUpper_append, toUpper_append, toUpper_zeros, toUpper_eq_map front, toUpper_eq_map back,
      List.length_map, List.length_map]
  · dsimp only
    split <;> rw [toUpper_append, toUpper_append, toUpper_spaces, toUpper_eq_map front,
      toUpper_eq_map back, List.length_append, List.length_append, List.length_map,
      List.length_map]

theorem integer?_number (signed : n.value ≤ int64Max) :
    integer? (.number (.integer n)) = some n.value := by
  rw [integer?, Number.toInt64?, if_pos signed]

theorem render_decimal (signed : n.value ≤ int64Max) (letter : specifier.letter = 'd') :
    ∃ text, specifier.render helper (.number (.integer n)) = .ok text ∧
      readInteger? text = some n.value := by
  let digits := decimal n.value.natAbs
  let shown := if specifier.flags.group then groupThousands digits else digits
  have all : ∀ c ∈ digits, c.isDigit = true := fun c => isDigit_of_mem_decimal
  have solid : shown.filter isSolid = digits := by
    unfold shown
    split
    · rw [filter_groupThousands (by decide), filter_solid all]
    · exact filter_solid all
  have filled : specifier.fill helper .integer (.number (.integer n)) =
      .ok (specifier.padSigned (n.value < 0) shown) := by
    simp only [fill, integer?_number signed]
    rfl
  refine ⟨specifier.padSigned (n.value < 0) shown, ?_,
    readInteger?_of_signed (specifier.signed_padSigned n.value solid)⟩
  refine render_eq_ok_iff.mpr ⟨fun _ => ?_, .integer, _, ?_, filled, ?_⟩
  · rw [letter]
    rfl
  · rw [letter]
    rfl
  · rw [letter]
    rfl

theorem basePrefix_cases {sigil : List Char} (known : sigil ∈ [['0'], ['0', 'x']])
    (specifier : Specifier) : IsAscii (specifier.basePrefix sigil) ∧ ∀ upper : Bool,
      (specifier.basePrefix sigil).map (if upper then Char.toUpper else id) ∈ sigils := by
  have all : ∀ sigil ∈ [[], ['0'], ['0', 'x']], sigil.all (·.toNat < 0x80) = true ∧
      ∀ upper : Bool, sigil.map (if upper then Char.toUpper else id) ∈ sigils := by decide
  refine (all _ ?_).imp_left fun ascii => by simpa [IsAscii] using ascii
  unfold basePrefix
  split
  · exact List.mem_cons_of_mem _ known
  · exact List.mem_cons_self

theorem render_based {base : Nat} {conversion : Conversion}
    (bounds : 2 ≤ base ∧ base ≤ 16) (plain : specifier.flags.parenthesize = false)
    (found : Conversion.ofLetter? specifier.letter = some conversion) (sigil : List Char)
    (known : sigil ∈ [['0'], ['0', 'x']])
    (filled : specifier.fill helper conversion (.number (.integer n)) =
      .ok (specifier.padNumber (specifier.basePrefix sigil) (digits base (unsigned n.value)))) :
    ∃ text, specifier.render helper (.number (.integer n)) = .ok text ∧
      readBased? base text = some (n.value % 2 ^ 64) := by
  let cased : Char → Char := if specifier.letter.isUpper then Char.toUpper else id
  have value : (unsigned n.value : Int) = n.value % 2 ^ 64 := by
    unfold unsigned
    omega
  obtain ⟨ascii, marks⟩ := specifier.basePrefix_cases known
  refine ⟨specifier.padNumber ((specifier.basePrefix sigil).map cased)
    ((digits base (unsigned n.value)).map cased), ?_, ?_⟩
  · refine render_eq_ok_iff.mpr ⟨by simp [plain], conversion, _, found, filled, ?_⟩
    unfold cased
    split
    · exact toUpper_padNumber ascii (isAscii_digits bounds _) specifier
    · simp only [List.map_id]
  · rw [readBased?_padNumber bounds (marks _), value]

/-- Each signed integer of 64 bits has a text from which its meaning is read, and no other has the same
text. -/
def Decodable (specifier : Specifier) (helper : Helper) (read : List Char → Option Int)
    (meaning : Int → Int) : Prop :=
  ∀ n : Integer64, n.value ≤ int64Max → ∃ text,
    specifier.render helper (.number (.integer n)) = .ok text ∧ read text = some (meaning n.value) ∧
      ∀ other : Integer64, other.value ≤ int64Max →
        specifier.render helper (.number (.integer other)) = .ok text → other = n

theorem decodable_of_read {read : List Char → Option Int} {meaning : Int → Int}
    (each : ∀ n : Integer64, n.value ≤ int64Max → ∃ text,
      specifier.render helper (.number (.integer n)) = .ok text ∧ read text = some (meaning n.value))
    (apart : ∀ n other, int64Min ≤ n → n ≤ int64Max → int64Min ≤ other → other ≤ int64Max →
      meaning other = meaning n → other = n) :
    specifier.Decodable helper read meaning := by
  intro n signed
  obtain ⟨text, rendered, means⟩ := each n signed
  refine ⟨text, rendered, means, fun other signedToo same => ?_⟩
  obtain ⟨textToo, renderedToo, meansToo⟩ := each other signedToo
  obtain rfl := Except.ok.inj (same.symm.trans renderedToo)
  have equal := apart n.value other.value n.least signed other.least signedToo
    (Option.some.inj (meansToo.symm.trans means))
  cases n
  cases other
  cases equal
  rfl

end Specifier

/-- The signed integers of 64 bits are read back from their decimal texts, and modulo `2 ^ 64` from their
hexadecimal and octal texts, whatever the flags and the width are; so no two have the same text. -/
theorem integers_decodable (specifier : Specifier) (helper : Helper) :
    (specifier.letter = 'd' → specifier.Decodable helper readInteger? id) ∧
    (specifier.letter ∈ ['x', 'X'] → specifier.flags.parenthesize = false →
      specifier.Decodable helper (readBased? 16) (· % 2 ^ 64)) ∧
    (specifier.letter = 'o' → specifier.flags.parenthesize = false →
      specifier.Decodable helper (readBased? 8) (· % 2 ^ 64)) := by
  have modular (n other : Int) (least : int64Min ≤ n) (greatest : n ≤ int64Max)
      (leastToo : int64Min ≤ other) (greatestToo : other ≤ int64Max)
      (same : other % 2 ^ 64 = n % 2 ^ 64) : other = n := by
    have bounds : int64Min = -2 ^ 63 ∧ int64Max = 2 ^ 63 - 1 := by decide
    omega
  refine ⟨fun letter => ?_, fun letter plain => ?_, fun letter plain => ?_⟩
  · exact Specifier.decodable_of_read (fun n signed => Specifier.render_decimal signed letter)
      fun n other _ _ _ _ same => same
  · have found : Conversion.ofLetter? specifier.letter = some .hexadecimal := by
      have both : ∀ letter ∈ ['x', 'X'], Conversion.ofLetter? letter = some .hexadecimal := by
        simp [Conversion.ofLetter?]
      exact both _ letter
    refine Specifier.decodable_of_read (fun n signed => ?_) modular
    refine Specifier.render_based (by decide) plain found ['0', 'x'] (by decide) ?_
    simp only [Specifier.fill, Specifier.integer?_number signed]
  · have found : Conversion.ofLetter? specifier.letter = some .octal := by
      rw [letter]
      rfl
    refine Specifier.decodable_of_read (fun n signed => ?_) modular
    refine Specifier.render_based (by decide) plain found ['0'] (by decide) ?_
    simp only [Specifier.fill, Specifier.integer?_number signed]

example : readInteger? ['(', '0', '1', ',', '2', '3', '4', ')', ' '] = some (-1234) := by decide

example : readBased? 16 [' ', '0', 'X', '0', 'F', 'F'] = some 255 := by decide

end Format

end TagTemplate
