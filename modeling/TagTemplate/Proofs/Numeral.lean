import TagTemplate.Numeral.Reading
import TagTemplate.Unicode.Ranges

/-! Which texts are read as integers; those that were written in base ten are read back. -/

namespace TagTemplate.Numeral

theorem isDigit_digitChar {value : Nat} (bound : value < 10) :
    (digitChar value).isDigit = true := by
  have all : ∀ v : Fin 10, (digitChar v).isDigit = true := by decide
  exact all ⟨value, bound⟩

theorem ne_of_isDigit {c mark : Char} (digit : c.isDigit = true) (other : mark.isDigit = false) :
    c ≠ mark := by
  rintro rfl
  exact Bool.false_ne_true (other.symm.trans digit)

theorem isBlank_of_isDigit {c : Char} (digit : c.isDigit = true) :
    Unicode.isBlank c = false := by
  simp only [Char.isDigit, Bool.and_eq_true, decide_eq_true_eq] at digit
  have lower : (48 : UInt32).toNat ≤ c.val.toNat := UInt32.le_iff_toNat_le.mp digit.1
  have upper : c.val.toNat ≤ (57 : UInt32).toNat := UInt32.le_iff_toNat_le.mp digit.2
  have low : 48 ≤ c.toNat := lower
  have high : c.toNat ≤ 57 := upper
  simp only [Unicode.isBlank, Bool.or_eq_false_iff, Bool.and_eq_false_iff, decide_eq_false_iff_not,
    beq_eq_false_iff_ne]
  omega

theorem exists_of_mem_digits {base n : Nat} {c : Char} (lower : 2 ≤ base)
    (member : c ∈ digits base n) : ∃ value < base, c = digitChar value := by
  induction n using Nat.strongRecOn generalizing c with
  | ind n ih =>
      rw [digits] at member
      split at member
      next small =>
        exact ⟨n, by omega, List.mem_singleton.mp member⟩
      next large =>
        rcases List.mem_append.mp member with front | last
        · exact ih (n / base) (Nat.div_lt_self (by omega) (by omega)) front
        · exact ⟨n % base, Nat.mod_lt _ (by omega), List.mem_singleton.mp last⟩

theorem isDigit_of_mem_decimal {n : Nat} {c : Char} (member : c ∈ decimal n) :
    c.isDigit = true := by
  obtain ⟨value, bound, rfl⟩ := exists_of_mem_digits (by omega) member
  exact isDigit_digitChar bound

theorem isDigit_of_mem_zeros {count n : Nat} {c : Char}
    (member : c ∈ List.replicate count '0' ++ decimal n) : c.isDigit = true := by
  rcases List.mem_append.mp member with zero | digit
  · rw [List.eq_of_mem_replicate zero]
    decide
  · exact isDigit_of_mem_decimal digit

theorem digits_ne_nil (base n : Nat) : digits base n ≠ [] := by
  rw [digits]
  split <;> simp

theorem decimal_ne_nil (n : Nat) : decimal n ≠ [] := digits_ne_nil 10 n

theorem decimal_eq_cons (n : Nat) : ∃ c rest, decimal n = c :: rest ∧ c.isDigit = true := by
  obtain ⟨c, rest, shape⟩ := List.exists_cons_of_ne_nil (decimal_ne_nil n)
  exact ⟨c, rest, shape, isDigit_of_mem_decimal (by rw [shape]; exact List.mem_cons_self)⟩

theorem length_digits_le {base n places : Nat} (some : 0 < places)
    (bound : n < Nat.pow base places) : (digits base n).length ≤ places := by
  induction places generalizing n with
  | zero => exact absurd some (Nat.lt_irrefl 0)
  | succ places ih =>
      rw [digits]
      split
      · exact some
      next large =>
        have positive : 0 < places := by
          rw [Nat.pos_iff_ne_zero]
          rintro rfl
          exact large (.inl (Nat.lt_of_lt_of_eq bound (Nat.pow_one base)))
        have shorter := ih positive
          (Nat.div_lt_of_lt_mul (Nat.lt_of_lt_of_eq bound Nat.pow_succ'))
        rw [List.length_append]
        exact Nat.succ_le_succ shorter

theorem ofDigits_zeros (base count : Nat) (text : List Char) :
    ofDigits base (List.replicate count '0' ++ text) = ofDigits base text := by
  induction count with
  | zero => rfl
  | succ count ih => exact ih

theorem digitsOnly?_eq_some_iff (text : List Char) (n : Nat) :
    digitsOnly? text = some n ↔
      (text ≠ [] ∧ ∀ c ∈ text, c.isDigit = true) ∧ ofDigits 10 text = n := by
  simp [digitsOnly?, List.all_eq_true]

inductive Spells : List Char → Int → Prop
  | unsigned {ds : List Char} (some : ds ≠ []) (ascii : ∀ c ∈ ds, c.isDigit = true)
      (fits : (ofDigits 10 ds : Int) ≤ int64Max) : Spells ds (ofDigits 10 ds)
  | plus {ds : List Char} (some : ds ≠ []) (ascii : ∀ c ∈ ds, c.isDigit = true)
      (fits : (ofDigits 10 ds : Int) ≤ int64Max) : Spells ('+' :: ds) (ofDigits 10 ds)
  | minus {ds : List Char} (some : ds ≠ []) (ascii : ∀ c ∈ ds, c.isDigit = true)
      (fits : int64Min ≤ -(ofDigits 10 ds : Int)) : Spells ('-' :: ds) (-(ofDigits 10 ds : Int))

theorem signed_eq_some_iff (sign : Int → Int) (fits : Int → Prop) [DecidablePred fits]
    (text : List Char) (k : Int) :
    (Option.map sign (do let n ← digitsOnly? text; pure (n : Int))).filter (fits ·) = some k ↔
      ((text ≠ [] ∧ ∀ c ∈ text, c.isDigit = true) ∧ sign (ofDigits 10 text) = k) ∧ fits k := by
  rw [Option.filter_eq_some_iff, decide_eq_true_eq]
  refine and_congr_left fun _ => ?_
  constructor
  · intro read
    obtain ⟨m, lifted, rfl⟩ := Option.map_eq_some_iff.mp read
    obtain ⟨n, digits, same⟩ := Option.bind_eq_some_iff.mp lifted
    obtain rfl := Option.some.inj same
    obtain ⟨shape, rfl⟩ := (digitsOnly?_eq_some_iff text n).mp digits
    exact ⟨shape, rfl⟩
  · rintro ⟨shape, rfl⟩
    rw [(digitsOnly?_eq_some_iff text _).mpr ⟨shape, rfl⟩]
    rfl

theorem readInt64?_eq_some_iff (text : List Char) (k : Int) :
    readInt64? text = some k ↔ Spells text k := by
  constructor
  · intro read
    unfold readInt64? at read
    split at read
    · obtain ⟨⟨⟨some, ascii⟩, rfl⟩, fits⟩ :=
        (signed_eq_some_iff _ (int64Min ≤ ·) _ k).mp read
      exact .minus some ascii fits
    · obtain ⟨⟨⟨some, ascii⟩, rfl⟩, fits⟩ :=
        (signed_eq_some_iff _ (· ≤ int64Max) _ k).mp read
      exact .plus some ascii fits
    · obtain ⟨⟨⟨some, ascii⟩, rfl⟩, fits⟩ :=
        (signed_eq_some_iff _ (· ≤ int64Max) _ k).mp read
      exact .unsigned some ascii fits
  · intro spelled
    cases spelled with
    | minus some ascii fits =>
        exact (signed_eq_some_iff _ (int64Min ≤ ·) _ _).mpr ⟨⟨⟨some, ascii⟩, rfl⟩, fits⟩
    | plus some ascii fits =>
        exact (signed_eq_some_iff _ (· ≤ int64Max) _ _).mpr ⟨⟨⟨some, ascii⟩, rfl⟩, fits⟩
    | unsigned some ascii fits =>
        unfold readInt64?
        split
        · exact absurd (ascii '-' (by simp)) (by decide)
        · exact absurd (ascii '+' (by simp)) (by decide)
        · exact (signed_eq_some_iff _ (· ≤ int64Max) _ _).mpr ⟨⟨⟨some, ascii⟩, rfl⟩, fits⟩

def Integer64.ofSigned (n : Int) (least : int64Min ≤ n) (greatest : n ≤ int64Max) : Integer64 :=
  ⟨n, least, Int.le_trans greatest (by decide)⟩

theorem Integer64.ofInt?_signed {n : Int} (least : int64Min ≤ n) (greatest : n ≤ int64Max) :
    ofInt? n = some (ofSigned n least greatest) := by
  have wider : int64Max ≤ word64Max := by decide
  rw [ofInt?, dif_pos least, dif_pos (Int.le_trans greatest wider)]
  rfl

theorem readInt64?_signedDecimal {n : Int} (least : int64Min ≤ n) (greatest : n ≤ int64Max) :
    readInt64? (signedDecimal n) = some n := by
  have some := decimal_ne_nil n.natAbs
  have ascii : ∀ c ∈ decimal n.natAbs, c.isDigit = true := fun _ => isDigit_of_mem_decimal
  have value : ofDigits 10 (decimal n.natAbs) = n.natAbs := ofDigits_decimal n.natAbs
  rw [readInt64?_eq_some_iff]
  unfold signedDecimal
  split
  next negative =>
    have same : -(ofDigits 10 (decimal n.natAbs) : Int) = n := by omega
    have spelled := Spells.minus some ascii (by omega)
    rwa [same] at spelled
  next positive =>
    have same : (ofDigits 10 (decimal n.natAbs) : Int) = n := by omega
    have spelled := Spells.unsigned some ascii (by omega)
    rwa [same] at spelled

end TagTemplate.Numeral
