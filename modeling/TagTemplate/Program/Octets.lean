/-! Texts as programs see them: sequences of bytes, each written as the character of its number. A
replacement character stands for bytes that are no text. -/

namespace TagTemplate.Text

structure Pending where
  bits : Nat
  needed : Nat
  low : Nat
  high : Nat

def replacementChar : Char := '\ufffd'

def beginChar (byte : Nat) : List Char × Option Pending :=
  if byte < 0x80 then ([Char.ofNat byte], none)
  else if byte < 0xC2 then ([replacementChar], none)
  else if byte < 0xE0 then ([], some ⟨byte - 0xC0, 1, 0x80, 0xBF⟩)
  else if byte < 0xF0 then
    let low := if byte = 0xE0 then 0xA0 else 0x80
    let high := if byte = 0xED then 0x9F else 0xBF
    ([], some ⟨byte - 0xE0, 2, low, high⟩)
  else if byte < 0xF5 then
    let low := if byte = 0xF0 then 0x90 else 0x80
    let high := if byte = 0xF4 then 0x8F else 0xBF
    ([], some ⟨byte - 0xF0, 3, low, high⟩)
  else ([replacementChar], none)

/-- The text of bytes after a character that is begun. The longest part of a character that is not
completed becomes one replacement character. -/
def decodeFrom : Option Pending → List UInt8 → List Char
  | none, [] => []
  | some _, [] => [replacementChar]
  | none, byte :: rest =>
      let (chars, pending) := beginChar byte.toNat
      chars ++ decodeFrom pending rest
  | some pending, byte :: rest =>
      let n := byte.toNat
      if pending.low ≤ n ∧ n ≤ pending.high then
        let bits := pending.bits * 64 + (n - 0x80)
        if pending.needed = 1 then Char.ofNat bits :: decodeFrom none rest
        else decodeFrom (some ⟨bits, pending.needed - 1, 0x80, 0xBF⟩) rest
      else
        let (chars, next) := beginChar n
        replacementChar :: chars ++ decodeFrom next rest

def decode (bytes : List UInt8) : List Char := decodeFrom none bytes

end TagTemplate.Text

namespace TagTemplate

abbrev Octets := List Char

namespace Octets

def ofBytes (bytes : List UInt8) : Octets := bytes.map fun byte => Char.ofNat byte.toNat

def toBytes (octets : Octets) : List UInt8 := octets.map fun c => UInt8.ofNat c.toNat

def ofString (text : String) : Octets := ofBytes text.toUTF8.toList

def ofText (text : List Char) : Octets := ofString (String.ofList text)

def toText (octets : Octets) : List Char := Text.decode octets.toBytes

def display (octets : Octets) : String := String.ofList octets.toText

def quoted (octets : Octets) : String := "'" ++ octets.display ++ "'"

end Octets

end TagTemplate
