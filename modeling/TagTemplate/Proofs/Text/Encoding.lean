import Mathlib.Data.List.Induction
import TagTemplate.Proofs.Text.ByteOrder
import TagTemplate.Template.Stream

/-! The bytes of texts: a character below 128 is one byte, which no other character has a part in. -/

namespace TagTemplate.Text

open TagStream (byteOf)

theorem encode_cons (c : Char) (text : List Char) :
    encode (c :: text) = String.utf8EncodeChar c ++ encode text :=
  List.flatMap_cons

theorem encode_append (front rest : List Char) :
    encode (front ++ rest) = encode front ++ encode rest :=
  List.flatMap_append

theorem length_encode (text : List Char) : (encode text).length = byteLength text := by
  induction text with
  | nil => rfl
  | cons c rest ih =>
      rw [encode_cons, List.length_append, String.length_utf8EncodeChar, ih, byteLength]

theorem utf8EncodeChar_narrow {c : Char} (narrow : c.toNat < 128) :
    String.utf8EncodeChar c = [byteOf c] := by
  rw [utf8EncodeChar_eq, if_pos (by omega)]
  rfl

theorem byteOf_toNat {c : Char} (narrow : c.toNat < 128) : (byteOf c).toNat = c.toNat := by
  rw [byteOf, UInt8.toNat_ofNat', Nat.mod_eq_of_lt (by omega)]

theorem le_of_mem_trail {count code : Nat} {byte : UInt8} (member : byte ∈ trail count code) :
    128 ≤ byte.toNat := by
  induction count with
  | zero => simp [trail] at member
  | succ count ih =>
      rw [trail] at member
      rcases List.mem_cons.mp member with rfl | later
      · rw [UInt8.toNat_ofNat']
        omega
      · exact ih later

theorem le_of_mem_utf8EncodeChar {c : Char} (wide : 128 ≤ c.toNat) {byte : UInt8}
    (member : byte ∈ String.utf8EncodeChar c) : 128 ≤ byte.toNat := by
  have led {lead count code : Nat} (high : 128 ≤ lead % 256)
      (among : byte ∈ UInt8.ofNat lead :: trail count code) : 128 ≤ byte.toNat := by
    rcases List.mem_cons.mp among with rfl | later
    · rwa [UInt8.toNat_ofNat']
    · exact le_of_mem_trail later
  rw [utf8EncodeChar_eq, if_neg (by omega)] at member
  split at member
  · exact led (by omega) member
  · split at member
    · exact led (by omega) member
    · exact led (by omega) member

theorem mem_utf8EncodeChar_iff {a : Char} (narrow : a.toNat < 128) (c : Char) :
    byteOf a ∈ String.utf8EncodeChar c ↔ c = a := by
  constructor
  · intro member
    rcases Nat.lt_or_ge c.toNat 128 with narrowToo | wide
    · rw [utf8EncodeChar_narrow narrowToo, List.mem_singleton] at member
      have codes := congrArg UInt8.toNat member
      rw [byteOf_toNat narrow, byteOf_toNat narrowToo] at codes
      exact (Char.toNat_inj.mp codes).symm
    · have above := le_of_mem_utf8EncodeChar wide member
      rw [byteOf_toNat narrow] at above
      omega
  · rintro rfl
    rw [utf8EncodeChar_narrow narrow]
    exact List.mem_singleton_self _

structure Spelt (c : Char) (lead : UInt8) (others : List UInt8) : Prop where
  bytes : String.utf8EncodeChar c = lead :: others
  size : others.length + 1 = c.utf8Size
  lead_iff : ∀ {a : Char}, a.toNat < 128 → (lead = byteOf a ↔ c = a)
  not_mem : ∀ {a : Char}, a.toNat < 128 → byteOf a ∉ others

theorem exists_spelt (c : Char) : ∃ lead others, Spelt c lead others := by
  obtain ⟨lead, others, bytes⟩ := List.exists_cons_of_ne_nil (@String.utf8EncodeChar_ne_nil c)
  have size : others.length + 1 = c.utf8Size := by
    rw [← String.length_utf8EncodeChar, bytes, List.length_cons]
  refine ⟨lead, others, bytes, size, ?_, ?_⟩
  · intro a narrow
    constructor
    · rintro rfl
      exact (mem_utf8EncodeChar_iff narrow c).mp (bytes ▸ List.mem_cons_self)
    · rintro rfl
      rw [utf8EncodeChar_narrow narrow] at bytes
      exact (List.cons.inj bytes).1.symm
  · intro a narrow member
    have same := (mem_utf8EncodeChar_iff narrow c).mp (bytes ▸ List.mem_cons_of_mem _ member)
    rw [← same] at narrow
    rw [utf8EncodeChar_narrow narrow] at bytes
    rw [← (List.cons.inj bytes).2] at member
    exact List.not_mem_nil member

section
variable {a : Char} (narrow : a.toNat < 128)
include narrow

theorem encode_cons_narrow (text : List Char) : encode (a :: text) = byteOf a :: encode text := by
  rw [encode_cons, utf8EncodeChar_narrow narrow, List.singleton_append]

theorem encode_concat_narrow (text : List Char) :
    encode (text ++ [a]) = encode text ++ [byteOf a] := by
  rw [encode_append, encode_cons_narrow narrow]
  rfl

theorem head?_encode_iff (text : List Char) :
    (encode text).head? = some (byteOf a) ↔ text.head? = some a := by
  cases text with
  | nil => simp [encode]
  | cons c rest =>
      obtain ⟨lead, others, spelt⟩ := exists_spelt c
      rw [encode_cons, spelt.bytes, List.cons_append, List.head?_cons, List.head?_cons,
        Option.some.injEq, Option.some.injEq]
      exact spelt.lead_iff narrow

theorem getLast?_encode_iff (text : List Char) :
    (encode text).getLast? = some (byteOf a) ↔ text.getLast? = some a := by
  rcases List.eq_nil_or_concat text with rfl | ⟨front, c, rfl⟩
  · simp [encode]
  · obtain ⟨before, byte, shape⟩ :=
      (List.eq_nil_or_concat (String.utf8EncodeChar c)).resolve_left String.utf8EncodeChar_ne_nil
    have single : encode [c] = String.utf8EncodeChar c := List.flatMap_singleton ..
    rw [List.concat_eq_append, encode_append, single, shape, List.concat_eq_append,
      ← List.append_assoc, List.getLast?_concat, List.getLast?_concat, Option.some.injEq,
      Option.some.injEq]
    constructor
    · rintro rfl
      exact (mem_utf8EncodeChar_iff narrow c).mp (by simp [shape])
    · rintro rfl
      rw [utf8EncodeChar_narrow narrow] at shape
      have last := congrArg List.getLast? shape
      simpa using last.symm

end

section
variable {word : List Char} (narrow : ∀ a ∈ word, a.toNat < 128)
include narrow

theorem encode_narrow : encode word = word.map byteOf := by
  induction word with
  | nil => rfl
  | cons a rest ih =>
      rw [encode_cons_narrow (narrow a List.mem_cons_self), List.map_cons,
        ih fun other member => narrow other (List.mem_cons_of_mem _ member)]

theorem isPrefix_encode_iff (text : List Char) : word.map byteOf <+: encode text ↔ word <+: text := by
  constructor
  · intro begins
    induction word generalizing text with
    | nil => exact List.nil_prefix
    | cons a rest ih =>
        have narrowHere := narrow a List.mem_cons_self
        have head : (encode text).head? = some (byteOf a) := by
          obtain ⟨behind, whole⟩ := begins
          rw [← whole]
          rfl
        cases text with
        | nil => simp [encode] at head
        | cons c others =>
            rw [head?_encode_iff narrowHere, List.head?_cons, Option.some.injEq] at head
            subst head
            rw [encode_cons_narrow narrowHere, List.map_cons, List.cons_prefix_cons] at begins
            rw [List.cons_prefix_cons]
            exact ⟨rfl, ih (fun other member => narrow other (List.mem_cons_of_mem _ member))
              others begins.2⟩
  · rintro ⟨behind, rfl⟩
    rw [encode_append, encode_narrow narrow]
    exact List.prefix_append _ _

theorem isSuffix_encode_iff (text : List Char) : word.map byteOf <:+ encode text ↔ word <:+ text := by
  constructor
  · intro ends
    induction word using List.reverseRecOn generalizing text with
    | nil => exact List.nil_suffix
    | append_singleton rest a ih =>
        have narrowHere := narrow a (by simp)
        have last : (encode text).getLast? = some (byteOf a) := by
          obtain ⟨before, whole⟩ := ends
          rw [← whole, List.map_append, List.map_singleton, ← List.append_assoc,
            List.getLast?_concat]
        rcases List.eq_nil_or_concat text with rfl | ⟨front, c, rfl⟩
        · simp [encode] at last
        · rw [getLast?_encode_iff narrowHere, List.concat_eq_append, List.getLast?_concat,
            Option.some.injEq] at last
          subst last
          rw [List.concat_eq_append] at ends ⊢
          rw [encode_concat_narrow narrowHere, List.map_append, List.map_singleton,
            List.suffix_append_self_iff] at ends
          rw [List.suffix_append_self_iff]
          exact ih (fun other member => narrow other (List.mem_append_left _ member)) front ends
  · rintro ⟨before, rfl⟩
    rw [encode_append, encode_narrow narrow]
    exact List.suffix_append _ _

end

theorem ofBytes_encode (text : List Char) : ofBytes (encode text) = text := by
  have bytes : (⟨(encode text).toArray⟩ : ByteArray) = (String.ofList text).toUTF8 := by
    refine ByteArray.ext (Array.toList_inj.mp ?_)
    rw [toList_toUTF8, String.toList_ofList]
    rfl
  unfold ofBytes
  rw [fromUTF8?_eq_some_iff.mpr bytes, Option.getD_some, String.toList_ofList]

end TagTemplate.Text
