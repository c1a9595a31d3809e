import TagTemplate.Unicode.Casing

/-! Texts of ASCII characters, and their upper case. -/

namespace TagTemplate.Unicode

def IsAscii (text : List Char) : Prop := ∀ c ∈ text, c.toNat < 0x80

section
variable {first second text : List Char} {c : Char}

theorem IsAscii.append (ascii : IsAscii first) (asciiToo : IsAscii second) :
    IsAscii (first ++ second) := by
  intro c member
  exact (List.mem_append.mp member).elim (ascii c) (asciiToo c)

theorem IsAscii.cons (ascii : c.toNat < 0x80) (asciiToo : IsAscii text) : IsAscii (c :: text) :=
  List.forall_mem_cons.mpr ⟨ascii, asciiToo⟩

theorem IsAscii.of_subset (ascii : IsAscii text) (within : first ⊆ text) : IsAscii first :=
  fun c member => ascii c (within member)

theorem toNat_lt_of_isDigit (digit : c.isDigit = true) : c.toNat < 0x80 := by
  have bounds := Bool.and_eq_true_iff.mp digit
  have upper : c.toNat ≤ 57 := UInt32.le_iff_toNat_le.mp (of_decide_eq_true bounds.2)
  omega

theorem isAscii_of_isDigit (digits : ∀ c ∈ text, c.isDigit = true) : IsAscii text :=
  fun c member => toNat_lt_of_isDigit (digits c member)

theorem isAscii_replicate {count : Nat} (ascii : c.toNat < 0x80) :
    IsAscii (List.replicate count c) := by
  intro d member
  rwa [List.eq_of_mem_replicate member]

theorem toUpper_append (first second : List Char) :
    toUpper (first ++ second) = toUpper first ++ toUpper second :=
  List.flatMap_append

theorem toUpper_eq_map (ascii : IsAscii text) : toUpper text = text.map Char.toUpper := by
  induction text with
  | nil => rfl
  | cons c text ih =>
      have later := ih fun d member => ascii d (List.mem_cons_of_mem _ member)
      rw [toUpper] at later ⊢
      rw [List.flatMap_cons, later, upperChar, if_pos (ascii c List.mem_cons_self),
        List.singleton_append, List.map_cons]

theorem toUpper_replicate {count : Nat} (ascii : c.toNat < 0x80) (same : c.toUpper = c) :
    toUpper (List.replicate count c) = List.replicate count c := by
  rw [toUpper_eq_map (isAscii_replicate ascii), List.map_replicate, same]

theorem toUpper_spaces (count : Nat) :
    toUpper (List.replicate count ' ') = List.replicate count ' ' :=
  toUpper_replicate (by decide) (by decide)

theorem toUpper_zeros (count : Nat) :
    toUpper (List.replicate count '0') = List.replicate count '0' :=
  toUpper_replicate (by decide) (by decide)

theorem isDigit_toUpper (ascii : c.toNat < 0x80) : c.toUpper.isDigit = c.isDigit := by
  have all : ∀ code : Fin 0x80,
      (Char.ofNat code).toUpper.isDigit = (Char.ofNat code).isDigit := by decide
  have here := all ⟨c.toNat, ascii⟩
  rwa [Char.ofNat_toNat] at here

end

end TagTemplate.Unicode
