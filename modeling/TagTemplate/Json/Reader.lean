import TagTemplate.Value

/-! Reading JSON: text to tokens, tokens to a value. Texts are nested at most 127 deep. -/

namespace TagTemplate.Json

inductive Token where
  | openList
  | closeList
  | openRecord
  | closeRecord
  | comma
  | colon
  | text (content : String)
  | scalar (value : Value)
deriving Repr

def hexValue? (c : Char) : Option Nat :=
  if c.isDigit || ('a' ≤ c && c ≤ 'f') || ('A' ≤ c && c ≤ 'F') then some (Numeral.digitValue c)
  else none

def codeUnit? (a b c d : Char) : Option Nat := do
  some ((((← hexValue? a) * 16 + (← hexValue? b)) * 16 + (← hexValue? c)) * 16 + (← hexValue? d))

def simpleEscape? (c : Char) : Option Char :=
  if c = '"' ∨ c = '\\' ∨ c = '/' then some c
  else if c = 'b' then some '\x08'
  else if c = 'f' then some '\x0c'
  else if c = 'n' then some '\n'
  else if c = 'r' then some '\r'
  else if c = 't' then some '\t'
  else none

/-- The first character of the rest of a quoted text as it is meant, and how many characters write
it. Surrogates count only as a pair. -/
def quotedChar? : List Char → Option (Char × Nat)
  | '\\' :: 'u' :: a :: b :: c :: d :: rest =>
      match codeUnit? a b c d with
      | none => none
      | some unit =>
          if unit < 0xd800 ∨ 0xdfff < unit then some (Char.ofNat unit, 6)
          else if 0xdc00 ≤ unit then none
          else
            match rest with
            | '\\' :: 'u' :: e :: f :: g :: h :: _ =>
                match codeUnit? e f g h with
                | none => none
                | some low =>
                    if 0xdc00 ≤ low ∧ low ≤ 0xdfff then
                      some (Char.ofNat (0x10000 + (unit - 0xd800) * 0x400 + (low - 0xdc00)), 12)
                    else none
            | _ => none
  | '\\' :: c :: _ => (simpleEscape? c).map fun meant => (meant, 2)
  | '\\' :: [] => none
  | c :: _ => if c.toNat < 0x20 then none else some (c, 1)
  | [] => none

def quotedBody? (text : List Char) : Option (List Char × List Char) :=
  match text with
  | [] => none
  | first :: others =>
      if first = '"' then some ([], others)
      else
        match quotedChar? (first :: others) with
        | none => none
        | some (meant, width) =>
            (quotedBody? (others.drop (width - 1))).map fun (content, rest) =>
              (meant :: content, rest)
termination_by text.length
decreasing_by simp only [List.length_drop, List.length_cons]; omega

theorem quotedBody?_length {text content rest : List Char}
    (found : quotedBody? text = some (content, rest)) : rest.length < text.length := by
  fun_induction quotedBody? text generalizing content rest with
  | case1 => simp at found
  | case2 => simp_all
  | case3 => simp at found
  | case4 first others _ meant width _ ih =>
      simp only [Option.map_eq_some_iff, Prod.mk.injEq, Prod.exists] at found
      obtain ⟨inner, after, body, _, rfl⟩ := found
      have shorter := ih body
      simp only [List.length_drop, List.length_cons] at shorter ⊢
      omega

def isNumberChar (c : Char) : Bool :=
  c.isDigit || c == '-' || c == '+' || c == '.' || c == 'e' || c == 'E'

/-- The value of the text of a number. Integers that fit in 64 bits stay integers. -/
def readNumber? (text : List Char) : Option Number :=
  match Numeral.readParts text with
  | (parts, []) =>
      if parts.whole = [] ∨ (parts.whole.head? = some '0' ∧ parts.whole.length ≠ 1)
          ∨ parts.fraction = some [] then none
      else if parts.fraction.isSome ∨ parts.exponent.isSome then
        parts.toBinary64?.map .double
      else
        let n : Int := Numeral.ofDigits 10 parts.whole
        -- a zero with a minus sign would lose it as an integer
        if parts.negative ∧ n = 0 then parts.toBinary64?.map .double
        else
          match Numeral.Integer64.ofInt? (if parts.negative then -n else n) with
          | some whole => some (.integer whole)
          | none => parts.toBinary64?.map .double
  | _ => none

def mark? (c : Char) : Option Token :=
  if c = '[' then some .openList
  else if c = ']' then some .closeList
  else if c = '\x7b' then some .openRecord
  else if c = '\x7d' then some .closeRecord
  else if c = ',' then some .comma
  else if c = ':' then some .colon
  else none

def word? (word : List Char) : Option Value :=
  if word = "true".toList then some (.boolean true)
  else if word = "false".toList then some (.boolean false)
  else if word = "null".toList then some .null
  else none

theorem length_dropWhile_le {α : Type} (p : α → Bool) (xs : List α) :
    (xs.dropWhile p).length ≤ xs.length :=
  (List.dropWhile_sublist p).length_le

def tokens? (text : List Char) : Option (List Token) :=
  match text with
  | [] => some []
  | c :: rest =>
      if c = ' ' ∨ c = '\t' ∨ c = '\n' ∨ c = '\r' then tokens? rest
      else if c = '"' then
        match _found : quotedBody? rest with
        | none => none
        | some (content, after) => (tokens? after).map (.text (String.ofList content) :: ·)
      else
        match mark? c with
        | some token => (tokens? rest).map (token :: ·)
        | none =>
            if c.isAlpha then
              match word? (c :: rest.takeWhile Char.isAlpha) with
              | none => none
              | some value => (tokens? (rest.dropWhile Char.isAlpha)).map (.scalar value :: ·)
            else
              match readNumber? (c :: rest.takeWhile isNumberChar) with
              | none => none
              | some n =>
                  (tokens? (rest.dropWhile isNumberChar)).map (.scalar (.number n) :: ·)
termination_by text.length
decreasing_by
  · simp
  · have := quotedBody?_length (by assumption)
    simp only [List.length_cons]
    omega
  · simp
  · have := length_dropWhile_le Char.isAlpha rest
    simp only [List.length_cons]
    omega
  · have := length_dropWhile_le isNumberChar rest
    simp only [List.length_cons]
    omega

inductive Frame where
  | list (items : List Value)
  | record (fields : List (String × Value)) (name : String)

inductive Expectation where
  | value
  | firstItem
  | firstName
  | name
  | colon (name : String)
  | continuation
  | finished (value : Value)

structure Reader where
  frames : List Frame
  expects : Expectation

def Reader.accept (frames : List Frame) (value : Value) : Reader :=
  match frames with
  | [] => ⟨[], .finished value⟩
  | .list items :: outer => ⟨.list (value :: items) :: outer, .continuation⟩
  | .record fields name :: outer => ⟨.record ((name, value) :: fields) name :: outer, .continuation⟩

def depthLimit : Nat := 127

def Reader.enter (frames : List Frame) (frame : Frame) (expects : Expectation) : Option Reader :=
  if frames.length < depthLimit then some ⟨frame :: frames, expects⟩ else none

def Reader.begin (frames : List Frame) : Token → Option Reader
  | .scalar value => some (accept frames value)
  | .text content => some (accept frames (.string content))
  | .openList => enter frames (.list []) .firstItem
  | .openRecord => enter frames (.record [] "") .firstName
  | _ => none

def Reader.close : List Frame → Token → Option Reader
  | .list items :: outer, .closeList => some (accept outer (.array items.reverse))
  | .record fields _ :: outer, .closeRecord =>
      some (accept outer (.object (Fields.ofList fields.reverse)))
  | _, _ => none

def Reader.step (reader : Reader) (token : Token) : Option Reader :=
  match reader.expects with
  | .value => begin reader.frames token
  | .firstItem =>
      match token with
      | .closeList => close reader.frames token
      | other => begin reader.frames other
  | .firstName =>
      match token with
      | .closeRecord => close reader.frames token
      | .text name => some ⟨reader.frames, .colon name⟩
      | _ => none
  | .name =>
      match token with
      | .text name => some ⟨reader.frames, .colon name⟩
      | _ => none
  | .colon name =>
      match token, reader.frames with
      | .colon, .record fields _ :: outer => some ⟨.record fields name :: outer, .value⟩
      | _, _ => none
  | .continuation =>
      match token, reader.frames with
      | .comma, .list _ :: _ => some ⟨reader.frames, .value⟩
      | .comma, .record _ _ :: _ => some ⟨reader.frames, .name⟩
      | other, frames => close frames other
  | .finished _ => none

def read? (text : String) : Option Value := do
  let tokens ← tokens? text.toList
  let reader ← tokens.foldlM Reader.step ⟨[], .value⟩
  match reader.expects with
  | .finished value => some value
  | _ => none

end TagTemplate.Json
