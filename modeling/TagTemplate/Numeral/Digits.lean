/-! Natural numbers written in a base, and their value read back from the digits. -/

namespace TagTemplate.Numeral

def digitChar (value : Nat) : Char :=
  if value < 10 then Char.ofNat (48 + value) else Char.ofNat (87 + value)

def digitValue (c : Char) : Nat :=
  if c.toNat < 65 then c.toNat - 48 else if c.toNat < 97 then c.toNat - 55 else c.toNat - 87

def digits (base n : Nat) : List Char :=
  if n < base ∨ base < 2 then [digitChar n]
  else digits base (n / base) ++ [digitChar (n % base)]
termination_by n
decreasing_by exact Nat.div_lt_self (by omega) (by omega)

def ofDigits (base : Nat) (text : List Char) : Nat :=
  text.foldl (fun value c => base * value + digitValue c) 0

def decimal (n : Nat) : List Char := digits 10 n

def signedDecimal (n : Int) : List Char :=
  if n < 0 then '-' :: decimal n.natAbs else decimal n.natAbs

def padZeros (width : Nat) (text : List Char) : List Char :=
  List.replicate (width - text.length) '0' ++ text

theorem digitValue_digitChar (value : Nat) (bound : value < 36) :
    digitValue (digitChar value) = value := by
  have all : ∀ v : Fin 36, digitValue (digitChar v) = v := by decide
  exact all ⟨value, bound⟩

theorem ofDigits_append_singleton (base : Nat) (text : List Char) (c : Char) :
    ofDigits base (text ++ [c]) = base * ofDigits base text + digitValue c := by
  simp [ofDigits, List.foldl_append]

theorem ofDigits_digits (base n : Nat) (lower : 2 ≤ base) (upper : base ≤ 36) :
    ofDigits base (digits base n) = n := by
  induction n using Nat.strongRecOn with
  | ind n ih =>
      rw [digits]
      split
      next small =>
        have : n < base := by omega
        simp [ofDigits, digitValue_digitChar n (by omega)]
      next large =>
        have positive : 0 < n := by omega
        rw [ofDigits_append_singleton, ih (n / base) (Nat.div_lt_self positive lower),
          digitValue_digitChar _ (Nat.lt_of_lt_of_le (Nat.mod_lt _ (by omega)) upper)]
        exact Nat.div_add_mod n base

theorem ofDigits_decimal (n : Nat) : ofDigits 10 (decimal n) = n :=
  ofDigits_digits 10 n (by omega) (by omega)

end TagTemplate.Numeral
