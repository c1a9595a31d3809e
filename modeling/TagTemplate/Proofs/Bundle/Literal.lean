import TagTemplate.Proofs.Bundle.Readback

/-! Single-quoted string literals of JavaScript in code units, as ECMAScript 5 has them, and the
literals that a bundle holds. -/

/-! ### Code units in UTF-16 -/

namespace TagTemplate.Text

/-- The code units of a character: one, or a pair of surrogates. -/
def unitsOf (c : Char) : List Nat :=
  if c.toNat < 0x10000 then [c.toNat]
  else [0xd800 + (c.toNat - 0x10000) / 0x400, 0xdc00 + (c.toNat - 0x10000) % 0x400]

def codeUnits (text : List Char) : List Nat := text.flatMap unitsOf

theorem codeUnits_append (front rest : List Char) :
    codeUnits (front ++ rest) = codeUnits front ++ codeUnits rest :=
  List.flatMap_append

theorem codeUnits_cons (c : Char) (rest : List Char) :
    codeUnits (c :: rest) = unitsOf c ++ codeUnits rest :=
  List.flatMap_cons

theorem codeUnits_singleton (c : Char) : codeUnits [c] = unitsOf c :=
  List.flatMap_singleton ..

theorem toNat_bounds (c : Char) : c.toNat < 0xd800 ∨ 0xdfff < c.toNat ∧ c.toNat < 0x110000 :=
  c.valid

theorem unitsOf_inj {c d : Char} {rest others : List Nat}
    (same : unitsOf c ++ rest = unitsOf d ++ others) : c = d ∧ rest = others := by
  have one := toNat_bounds c
  have two := toNat_bounds d
  unfold unitsOf at same
  by_cases narrow : c.toNat < 0x10000
  · by_cases narrowToo : d.toNat < 0x10000
    · rw [if_pos narrow, if_pos narrowToo] at same
      obtain ⟨unit, behind⟩ := List.cons.inj same
      exact ⟨Char.toNat_inj.mp unit, behind⟩
    -- the first of a pair is no character of its own
    · rw [if_pos narrow, if_neg narrowToo] at same
      have unit := (List.cons.inj same).1
      omega
  · by_cases narrowToo : d.toNat < 0x10000
    · rw [if_neg narrow, if_pos narrowToo] at same
      have unit := (List.cons.inj same).1
      omega
    · rw [if_neg narrow, if_neg narrowToo] at same
      obtain ⟨high, later⟩ := List.cons.inj same
      obtain ⟨low, behind⟩ := List.cons.inj later
      exact ⟨Char.toNat_inj.mp (by omega), behind⟩

theorem unitsOf_ne_nil (c : Char) : unitsOf c ≠ [] := by
  unfold unitsOf
  split <;> simp

theorem codeUnits_inj {first second : List Char} :
    codeUnits first = codeUnits second ↔ first = second := by
  constructor
  · intro same
    induction first generalizing second with
    | nil =>
        cases second with
        | nil => rfl
        | cons d others =>
            rw [codeUnits_cons] at same
            exact absurd (List.append_eq_nil_iff.mp same.symm).1 (unitsOf_ne_nil d)
    | cons c rest ih =>
        cases second with
        | nil =>
            rw [codeUnits_cons] at same
            exact absurd (List.append_eq_nil_iff.mp same).1 (unitsOf_ne_nil c)
        | cons d others =>
            rw [codeUnits_cons, codeUnits_cons] at same
            obtain ⟨rfl, behind⟩ := unitsOf_inj same
            rw [ih behind]
  · rintro rfl
    rfl

end TagTemplate.Text

/-! ### Literals -/

namespace TagTemplate.Bundle.Quoted

def quote : Nat := '\''.toNat

def backslash : Nat := '\\'.toNat

def lineEnds : List Nat := ['\n', '\r', '\u2028', '\u2029'].map Char.toNat

def isDigit (unit : Nat) : Bool := '0'.toNat ≤ unit && unit ≤ '9'.toNat

def hexDigit? (unit : Nat) : Option Nat :=
  if isDigit unit then some (unit - '0'.toNat)
  else if 'a'.toNat ≤ unit ∧ unit ≤ 'f'.toNat then some (unit - 'a'.toNat + 10)
  else if 'A'.toNat ≤ unit ∧ unit ≤ 'F'.toNat then some (unit - 'A'.toNat + 10)
  else none

def numbered? (count : Nat) (following : List Nat) : Option (List Nat × List Nat) :=
  if following.length < count then none
  else
    ((following.take count).foldlM (fun unit digit => (hexDigit? digit).map (16 * unit + ·)) 0).map
      fun unit => ([unit], following.drop count)

def letters : List (Nat × Nat) :=
  [('b'.toNat, 0x08), ('t'.toNat, 0x09), ('n'.toNat, 0x0a), ('v'.toNat, 0x0b), ('f'.toNat, 0x0c),
    ('r'.toNat, 0x0d)]

/-- What is meant by an escape, given all that follows its backslash, and what follows the escape. A
line end behind a backslash is left out, and all others but digits stand for themselves. -/
def escape? : List Nat → Option (List Nat × List Nat)
  | [] => none
  | letter :: rest =>
      if letter = 'u'.toNat then numbered? 4 rest
      else if letter = 'x'.toNat then numbered? 2 rest
      else if isDigit letter then
        if letter = '0'.toNat ∧ rest.head?.any isDigit = false then some ([0], rest) else none
      else if letter = '\r'.toNat ∧ rest.head? = some '\n'.toNat then some ([], rest.tail)
      else if letter ∈ lineEnds then some ([], rest)
      else some ([(letters.lookup letter).getD letter], rest)

inductive Content : List Nat → List Nat → Prop
  | nil : Content [] []
  | plain {unit rest value} (ordinary : unit ∉ quote :: backslash :: lineEnds)
      (later : Content rest value) : Content (unit :: rest) (unit :: value)
  | escape {following meant rest value} (here : escape? following = some (meant, rest))
      (later : Content rest value) : Content (backslash :: following) (meant ++ value)

def IsLiteral (source value : List Nat) : Prop :=
  ∃ content, source = quote :: content ++ [quote] ∧ Content content value

section
variable {following meant rest tail : List Nat}

theorem numbered?_append {count : Nat} (found : numbered? count following = some (meant, rest)) :
    numbered? count (following ++ tail) = some (meant, rest ++ tail) := by
  unfold numbered? at found ⊢
  split at found
  · simp at found
  · next enough =>
      have longer : ¬ (following ++ tail).length < count := by
        rw [List.length_append]
        omega
      have taken : (following ++ tail).take count = following.take count :=
        List.take_append_of_le_length (by omega)
      have dropped : (following ++ tail).drop count = following.drop count ++ tail :=
        List.drop_append_of_le_length (by omega)
      obtain ⟨unit, number, same⟩ := Option.map_eq_some_iff.mp found
      obtain ⟨rfl, rfl⟩ := Prod.mk.inj same
      rw [if_neg longer, taken, dropped, number, Option.map_some]

theorem any_head?_append : (following ++ quote :: tail).head?.any isDigit =
    following.head?.any isDigit := by
  cases following with
  | nil => rfl
  | cons unit more => rfl

theorem head?_append_eq_newline_iff : (following ++ quote :: tail).head? = some '\n'.toNat ↔
    following.head? = some '\n'.toNat := by
  cases following with
  | nil => simp [quote]
  | cons unit more => rfl

theorem escape?_append (found : escape? following = some (meant, rest)) :
    escape? (following ++ quote :: tail) = some (meant, rest ++ quote :: tail) := by
  cases following with
  | nil => simp [escape?] at found
  | cons letter behind =>
      rw [List.cons_append, escape?]
      rw [escape?] at found
      split at found
      · next four => rw [if_pos four, numbered?_append found]
      next four =>
      rw [if_neg four]
      split at found
      · next two => rw [if_pos two, numbered?_append found]
      next two =>
      rw [if_neg two]
      split at found
      · next digit =>
          rw [if_pos digit, any_head?_append]
          split at found
          · next alone =>
              obtain ⟨rfl, rfl⟩ : [0] = meant ∧ behind = rest := by simpa using found
              rw [if_pos alone]
          · simp at found
      next digit =>
      rw [if_neg digit]
      simp only [head?_append_eq_newline_iff]
      split at found
      · next pair =>
          obtain ⟨rfl, rfl⟩ : [] = meant ∧ behind.tail = rest := by simpa using found
          have some : behind ≠ [] := by
            rintro rfl
            simp at pair
          rw [if_pos pair, List.tail_append_of_ne_nil some]
      next pair =>
      rw [if_neg pair]
      split at found
      · next ends =>
          obtain ⟨rfl, rfl⟩ : [] = meant ∧ behind = rest := by simpa using found
          rw [if_pos ends]
      · next ends =>
          obtain ⟨rfl, rfl⟩ : [(letters.lookup letter).getD letter] = meant ∧ behind = rest := by
            simpa using found
          rw [if_neg ends]

end

theorem Content.unique {source value other valueToo tail tailToo : List Nat}
    (content : Content source value) (contentToo : Content other valueToo)
    (same : source ++ quote :: tail = other ++ quote :: tailToo) :
    source = other ∧ value = valueToo := by
  induction content generalizing other valueToo with
  | nil =>
      cases contentToo with
      | nil => exact ⟨rfl, rfl⟩
      | plain ordinary _ =>
          have unit := (List.cons.inj same).1
          simp [← unit] at ordinary
      | escape _ _ => exact absurd (List.cons.inj same).1 (by decide)
  | plain ordinary _ ih =>
      cases contentToo with
      | nil =>
          have unit := (List.cons.inj same).1
          simp [unit] at ordinary
      | plain _ laterToo =>
          obtain ⟨rfl, behind⟩ := List.cons.inj same
          obtain ⟨rfl, rfl⟩ := ih laterToo behind
          exact ⟨rfl, rfl⟩
      | escape _ _ =>
          have unit := (List.cons.inj same).1
          simp [unit] at ordinary
  | escape here _ ih =>
      cases contentToo with
      | nil => exact absurd (List.cons.inj same).1 (by decide)
      | plain ordinary _ =>
          have unit := (List.cons.inj same).1
          simp [← unit] at ordinary
      | escape hereToo laterToo =>
          rw [List.cons_append, List.cons_append, List.cons_inj_right] at same
          have read := @escape?_append _ _ _ tail here
          rw [same, escape?_append hereToo, Option.some.injEq, Prod.mk.injEq] at read
          obtain ⟨rfl, rests⟩ := read
          obtain ⟨rfl, rfl⟩ := ih laterToo rests.symm
          obtain rfl := (List.cons.inj (List.append_cancel_left rests)).2
          rw [List.append_cancel_right same]
          exact ⟨rfl, rfl⟩

theorem Content.plain_append {units rest value : List Nat}
    (ordinary : ∀ unit ∈ units, unit ∉ quote :: backslash :: lineEnds)
    (later : Content rest value) : Content (units ++ rest) (units ++ value) := by
  induction units with
  | nil => exact later
  | cons unit more ih =>
      exact .plain (ordinary unit List.mem_cons_self)
        (ih fun other member => ordinary other (List.mem_cons_of_mem _ member))

theorem ordinary_of_mem_unitsOf {c : Char} (free : c ∉ escaped) :
    ∀ unit ∈ Text.unitsOf c, unit ∉ quote :: backslash :: lineEnds := by
  intro unit member special
  unfold Text.unitsOf at member
  split at member
  · obtain rfl := List.mem_singleton.mp member
    have named : c.toNat ∈ escaped.map Char.toNat := by
      have reordered : ∀ unit ∈ quote :: backslash :: lineEnds,
          unit ∈ escaped.map Char.toNat := by decide
      exact reordered _ special
    obtain ⟨other, inside, equal⟩ := List.mem_map.mp named
    exact free (Char.toNat_inj.mp equal ▸ inside)
  · have low : ∀ unit ∈ quote :: backslash :: lineEnds, unit < 0xd800 := by decide
    have below := low unit special
    simp only [List.mem_cons, List.not_mem_nil, or_false] at member
    omega

theorem content_escape (text : List Char) :
    Content (Text.codeUnits (escape text)) (Text.codeUnits text) := by
  induction text with
  | nil => exact .nil
  | cons c rest ih =>
      have split : escape (c :: rest) = escapeChar c ++ escape rest := rfl
      rw [split, Text.codeUnits_append, Text.codeUnits_cons]
      by_cases special : c ∈ escaped
      · simp only [escaped, List.mem_cons, List.not_mem_nil, or_false] at special
        rcases special with rfl | rfl | rfl | rfl | rfl | rfl <;> exact .escape rfl ih
      · rw [escapeChar_of_not_mem special, Text.codeUnits_singleton]
        exact .plain_append (ordinary_of_mem_unitsOf special) ih

theorem codeUnits_literal (text : String) :
    Text.codeUnits (literal text) = quote :: Text.codeUnits (escape text.toList) ++ [quote] := by
  have shape : literal text = '\'' :: escape text.toList ++ ['\''] := rfl
  rw [shape, Text.codeUnits_append, Text.codeUnits_cons]
  rfl

theorem isLiteral_literal (text : String) :
    IsLiteral (Text.codeUnits (literal text)) (Text.codeUnits text.toList) :=
  ⟨_, codeUnits_literal text, content_escape text.toList⟩

theorem IsLiteral.unique {source value part valueToo behind : List Nat}
    (literal : IsLiteral source value) (literalToo : IsLiteral part valueToo)
    (begins : part <+: source ++ behind) : part = source ∧ valueToo = value := by
  obtain ⟨content, rfl, derived⟩ := literal
  obtain ⟨contentToo, rfl, derivedToo⟩ := literalToo
  obtain ⟨more, whole⟩ := begins
  have same : contentToo ++ quote :: more = content ++ quote :: behind := by
    simpa using whole
  obtain ⟨rfl, rfl⟩ := derivedToo.unique derived same
  exact ⟨rfl, rfl⟩

theorem not_mem_lineEnds_escapeChar (c : Char) :
    ∀ unit ∈ Text.codeUnits (escapeChar c), unit ∉ lineEnds := by
  by_cases special : c ∈ escaped
  · simp only [escaped, List.mem_cons, List.not_mem_nil, or_false] at special
    rcases special with rfl | rfl | rfl | rfl | rfl | rfl <;> decide
  · rw [escapeChar_of_not_mem special, Text.codeUnits_singleton]
    intro unit member ends
    exact ordinary_of_mem_unitsOf special unit member (by simp [ends])

theorem not_mem_lineEnds_literal (text : String) :
    ∀ unit ∈ Text.codeUnits (literal text), unit ∉ lineEnds := by
  intro unit member
  have enclosing : quote ∉ lineEnds := by decide
  rw [codeUnits_literal, List.mem_append, List.mem_cons, List.mem_singleton] at member
  rcases member with (rfl | inside) | rfl
  · exact enclosing
  · rw [Text.codeUnits, escape, List.flatMap_assoc] at inside
    obtain ⟨c, -, own⟩ := List.mem_flatMap.mp inside
    exact not_mem_lineEnds_escapeChar c unit own
  · exact enclosing

/-- The literal of a text is a literal of the script, with that text and no other for its value. No
line end stands in it as it is, and whatever follows it, it ends at its own last quote. -/
theorem literal_denotes (text : String) :
    let source := Text.codeUnits (literal text)
    (∀ other : String, IsLiteral source (Text.codeUnits other.toList) ↔ other = text) ∧
      (∀ unit ∈ source, unit ∉ lineEnds) ∧
      ∀ behind part value, part <+: source ++ behind → IsLiteral part value →
        part = source ∧ value = Text.codeUnits text.toList := by
  intro source
  have own := isLiteral_literal text
  refine ⟨fun other => ⟨fun denoted => ?_, ?_⟩, not_mem_lineEnds_literal text,
    fun behind part value begins denoted => own.unique denoted begins⟩
  · have value := (own.unique denoted (List.prefix_append source [])).2
    exact String.toList_inj.mp (Text.codeUnits_inj.mp value)
  · rintro rfl
    exact own

theorem literal_denotes_lookalike :
    let text := "\\u2028'\n\u2029𝄞\\"
    let source := Text.codeUnits (literal text)
    let behind := Text.codeUnits "'] = template('".toList
    let part := Text.codeUnits "'\\\\u2028\\'\\n\\u2029𝄞\\\\'".toList
    let value := Text.codeUnits text.toList
    (part <+: source ++ behind ∧ IsLiteral part value) ∧ part = source ∧
      value = Text.codeUnits text.toList ∧
      ¬ IsLiteral source (Text.codeUnits "\u2028'\n\u2029𝄞\\".toList) := by
  intro text source behind part value
  obtain ⟨denotes, -, ends⟩ := literal_denotes text
  have written : part = source := by decide
  have begins : part <+: source ++ behind := written ▸ List.prefix_append source behind
  have own : IsLiteral part value := written ▸ (denotes text).mpr rfl
  obtain ⟨whole, same⟩ := ends behind part value begins own
  exact ⟨⟨begins, own⟩, whole, same, fun other => absurd ((denotes _).mp other) (by decide)⟩

end TagTemplate.Bundle.Quoted
