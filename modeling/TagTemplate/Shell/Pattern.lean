import TagTemplate.Program.Octets

/-! Patterns for texts and for names of files: stars, question marks and sets in brackets. -/

namespace TagTemplate.Shell

abbrev Glyph := Char × Bool

abbrev Pattern := List Glyph

namespace Pattern

def literal (text : Octets) : Pattern := text.map fun c => (c, false)

def text (pattern : Pattern) : Octets := pattern.map (·.1)

def isGeneral (pattern : Pattern) : Bool :=
  pattern.any fun glyph => glyph.2 && "*?[".contains glyph.1

def isInClass (name : Octets) (c : Char) : Bool :=
  match String.ofList name with
  | "alpha" => c.isAlpha
  | "digit" => c.isDigit
  | "alnum" => c.isAlphanum
  | "upper" => c.isUpper
  | "lower" => c.isLower
  | "space" => c == ' ' || (9 ≤ c.toNat && c.toNat ≤ 13)
  | "blank" => c == ' ' || c == '\t'
  | "punct" => 33 ≤ c.toNat && c.toNat ≤ 126 && !c.isAlphanum
  | "cntrl" => c.toNat < 32 || c.toNat == 127
  | "print" => 32 ≤ c.toNat && c.toNat ≤ 126
  | "graph" => 33 ≤ c.toNat && c.toNat ≤ 126
  | "xdigit" => c.isDigit || "abcdefABCDEF".contains c
  | _ => false

def className? (text : Octets) : Option (Octets × Octets) :=
  match text.dropWhile Char.isAlpha with
  | ':' :: ']' :: rest => some (text.takeWhile Char.isAlpha, rest)
  | _ => none

/-- A set of characters as a test, after its first character has been read. The bracket that ends it
does not do so as its first member. Nothing when no bracket ends it. -/
def setMembers? : Nat → (first : Bool) → Octets → Option ((Char → Bool) × Octets)
  | 0, _, _ => none
  | _, _, [] => none
  | _, false, ']' :: rest => some (fun _ => false, rest)
  | fuel + 1, _, '[' :: ':' :: text =>
      match className? text with
      | some (name, rest) =>
          (setMembers? fuel false rest).map fun (more, after) =>
            (fun c => isInClass name c || more c, after)
      | none =>
          (setMembers? fuel false (':' :: text)).map fun (more, after) =>
            (fun c => c == '[' || more c, after)
  | fuel + 1, _, low :: '-' :: high :: rest =>
      if high = ']' then
        (setMembers? fuel false ('-' :: high :: rest)).map fun (more, after) =>
          (fun c => c == low || more c, after)
      else
        (setMembers? fuel false rest).map fun (more, after) =>
          (fun c => (low.toNat ≤ c.toNat && c.toNat ≤ high.toNat) || more c, after)
  | fuel + 1, _, member :: rest =>
      (setMembers? fuel false rest).map fun (more, after) =>
        (fun c => c == member || more c, after)

def set? (turning : List Char) (text : Octets) : Option ((Char → Bool) × Octets) :=
  match text with
  | c :: rest =>
      if turning.contains c then
        (setMembers? (rest.length + 1) true rest).map fun (members, after) =>
          (fun c => !members c, after)
      else setMembers? (text.length + 1) true text
  | [] => none

def matchesWithin : Nat → Pattern → Octets → Bool
  | 0, _, _ => false
  | _, [], text => text.isEmpty
  | fuel + 1, (c, general) :: pattern, text =>
      if general && c == '*' then
        matchesWithin fuel pattern text ||
          match text with
          | [] => false
          | _ :: rest => matchesWithin fuel ((c, general) :: pattern) rest
      else
        match text with
        | [] => false
        | d :: rest =>
            if general && c == '?' then matchesWithin fuel pattern rest
            else if general && c == '[' then
              match set? ['!', '^'] (Pattern.text pattern) with
              | some (members, after) =>
                  members d &&
                    matchesWithin fuel (pattern.drop (pattern.length - after.length)) rest
              | none => d == c && matchesWithin fuel pattern rest
            else d == c && matchesWithin fuel pattern rest

def accepts (pattern : Pattern) (text : Octets) : Bool :=
  matchesWithin (pattern.length + text.length + 1) pattern text

def withoutStart (pattern : Pattern) (longest : Bool) (text : Octets) : Octets :=
  let cuts := List.range (text.length + 1)
  let cuts := if longest then cuts.reverse else cuts
  match cuts.find? fun cut => accepts pattern (text.take cut) with
  | some cut => text.drop cut
  | none => text

def withoutEnd (pattern : Pattern) (longest : Bool) (text : Octets) : Octets :=
  let cuts := List.range (text.length + 1)
  let cuts := if longest then cuts else cuts.reverse
  match cuts.find? fun cut => accepts pattern (text.drop cut) with
  | some cut => text.take cut
  | none => text

end Pattern

end TagTemplate.Shell
