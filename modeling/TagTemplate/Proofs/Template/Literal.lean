import TagTemplate.Proofs.Numeral
import TagTemplate.Proofs.Text
import TagTemplate.Template.Expression

/-! Literals and names as tags write them, and how they are read back. -/

namespace TagTemplate

namespace Unicode

def blankCodes : List Nat :=
  [0x9, 0xa, 0xb, 0xc, 0xd, 0x20, 0x85, 0xa0, 0x1680, 0x2000, 0x2001, 0x2002, 0x2003, 0x2004,
    0x2005, 0x2006, 0x2007, 0x2008, 0x2009, 0x200a, 0x2028, 0x2029, 0x202f, 0x205f, 0x3000]

theorem mem_blankCodes {c : Char} (blank : isBlank c = true) : c.toNat ∈ blankCodes := by
  simp only [isBlank, Bool.or_eq_true, Bool.and_eq_true, decide_eq_true_eq, beq_iff_eq] at blank
  simp only [blankCodes, List.mem_cons, List.not_mem_nil, or_false]
  omega

theorem isBlank_of_isAlphanumeric {c : Char} (letter : isAlphanumeric c = true) :
    isBlank c = false := by
  have all : ∀ code ∈ blankCodes, isAlphanumeric (Char.ofNat code) = false := by decide +kernel
  cases blank : isBlank c with
  | false => rfl
  | true =>
      have none := all c.toNat (mem_blankCodes blank)
      rw [Char.ofNat_toNat, letter] at none
      cases none

theorem isAlphanumeric_of_isDigit {c : Char} (digit : c.isDigit = true) :
    isAlphanumeric c = true := by
  have small : c.toNat < 0x80 := by
    simp only [Char.isDigit, Bool.and_eq_true, decide_eq_true_eq] at digit
    have upper : c.val.toNat ≤ (57 : UInt32).toNat := UInt32.le_iff_toNat_le.mp digit.2
    exact Nat.lt_of_le_of_lt upper (by decide)
  simp [isAlphanumeric, isLetterOrNumber, small, Char.isAlphanum, digit]

end Unicode

namespace Expression

def escaped (quote c : Char) : List Char := if c = '\\' ∨ c = quote then ['\\', c] else [c]

def quotedIn (quote : Char) (text : List Char) : List Char :=
  quote :: (text.flatMap (escaped quote) ++ [quote])

def quoteChar (c : Char) : List Char := if c = '\\' ∨ c = '"' then ['\\', c] else [c]

def quoted (text : List Char) : List Char := '"' :: (text.flatMap quoteChar ++ ['"'])

inductive Literal where
  | text (text : String)
  | integer (n : Int) (least : Numeral.int64Min ≤ n) (greatest : n ≤ Numeral.int64Max)
  | boolean (b : Bool)
  | null

namespace Literal

def value : Literal → Value
  | .text letters => .string letters
  | .integer n least greatest => .number (.integer (.ofSigned n least greatest))
  | .boolean b => .boolean b
  | .null => .null

def written : Literal → List Char
  | .text letters => quoted letters.toList
  | .integer n _ _ => Numeral.signedDecimal n
  | .boolean true => "true".toList
  | .boolean false => "false".toList
  | .null => "null".toList

end Literal

structure IsName (word : List Char) : Prop where
  named : word ≠ []
  all : word.all isKeyChar = true

structure Key where
  letters : List Char
  isName : IsName letters

def Key.assigned (key : Key) (literal : Literal) : List Char :=
  key.letters ++ '=' :: literal.written

theorem isKeyChar_plain {c : Char} (member : isKeyChar c = true) :
    Unicode.isBlank c = false ∧ isQuote c = false := by
  constructor
  · simp only [isKeyChar, Bool.or_eq_true, beq_iff_eq] at member
    rcases member with (letter | rfl) | rfl
    · exact Unicode.isBlank_of_isAlphanumeric letter
    · decide
    · decide
  · cases quote : isQuote c with
    | false => rfl
    | true =>
        simp only [isQuote, Bool.or_eq_true, beq_iff_eq] at quote
        rcases quote with rfl | rfl
        · exact absurd member (by decide)
        · exact absurd member (by decide)

theorem IsName.signedDecimal (n : Int) : IsName (Numeral.signedDecimal n) := by
  have digits : ∀ c ∈ Numeral.decimal n.natAbs, isKeyChar c = true := by
    intro c member
    have letter := Unicode.isAlphanumeric_of_isDigit (Numeral.isDigit_of_mem_decimal member)
    simp [isKeyChar, letter]
  unfold Numeral.signedDecimal
  split
  · refine ⟨by simp, ?_⟩
    rw [List.all_cons, List.all_eq_true.mpr digits]
    decide
  · exact ⟨Numeral.decimal_ne_nil _, List.all_eq_true.mpr digits⟩

theorem Literal.written_shape (literal : Literal) :
    (∃ text, literal.written = quoted text) ∨ IsName literal.written := by
  cases literal with
  | text text => exact Or.inl ⟨text.toList, rfl⟩
  | integer n least greatest => exact Or.inr (.signedDecimal n)
  | boolean b => cases b <;> exact Or.inr ⟨by decide, by decide⟩
  | null => exact Or.inr ⟨by decide, by decide⟩

theorem unescape_cons {c : Char} (plain : c ≠ '\\') (rest : List Char) :
    unescape (c :: rest) = c :: unescape rest := by
  rw [unescape]
  · rintro other others same
    exact absurd same plain
  · intro same
    exact absurd same plain

theorem unescape_flatMap_escaped (quote : Char) (text : List Char) :
    unescape (text.flatMap (escaped quote)) = text := by
  induction text with
  | nil => rfl
  | cons c rest ih =>
      rw [List.flatMap_cons]
      by_cases special : c = '\\' ∨ c = quote
      · rw [escaped, if_pos special]
        show c :: unescape (rest.flatMap (escaped quote)) = c :: rest
        rw [ih]
      · rw [escaped, if_neg special, List.singleton_append,
          unescape_cons fun backslash => special (Or.inl backslash), ih]

theorem operand_quotedIn {quote : Char} (quotes : isQuote quote = true) (text : List Char) :
    operand (quotedIn quote text) = .ok (.literal (.string (String.ofList text))) := by
  have inner : unquote? quote (text.flatMap (escaped quote) ++ [quote]) = some text := by
    simp [unquote?, unescape_flatMap_escaped]
  simp only [quotedIn, operand, quotes, inner, ↓reduceIte]

theorem number?_signedDecimal {n : Int} (least : Numeral.int64Min ≤ n)
    (greatest : n ≤ Numeral.int64Max) :
    number? (Numeral.signedDecimal n) = some (.integer (.ofSigned n least greatest)) := by
  have value := Numeral.readInt64?_signedDecimal least greatest
  have bounded := Numeral.Integer64.ofInt?_signed least greatest
  obtain ⟨c, rest, shape, digit⟩ := Numeral.decimal_eq_cons n.natAbs
  unfold Numeral.signedDecimal at value ⊢
  rw [shape] at value ⊢
  split
  next negative =>
    rw [if_pos negative] at value
    simp [number?, digit, value, bounded]
  next positive =>
    rw [if_neg positive] at value
    unfold number?
    split
    next minus =>
      cases minus
      simp at digit
    next => simp [digit, value, bounded]

theorem operand_of_number {word : List Char} {n : Number} (name : IsName word)
    (value : number? word = some n) : operand word = .ok (.literal (.number n)) := by
  obtain ⟨c, rest, shape⟩ := List.exists_cons_of_ne_nil name.named
  subst shape
  have member : isKeyChar c = true := by
    have all := name.all
    rw [List.all_cons, Bool.and_eq_true] at all
    exact all.1
  have unquoted : isQuote c = false := (isKeyChar_plain member).2
  have single : c ≠ '(' := by
    rintro rfl
    exact absurd member (by decide)
  have words : ∀ word ∈ ["true".toList, "false".toList, "null".toList, "undefined".toList],
      number? word = none := by decide
  have other : ∀ word ∈ ["true".toList, "false".toList, "null".toList, "undefined".toList],
      c :: rest ≠ word := by
    rintro word among rfl
    rw [words _ among] at value
    cases value
  unfold operand
  simp only [unquoted, single, Bool.false_eq_true, ↓reduceIte]
  rw [if_neg (other _ (by simp)), if_neg (other _ (by simp)),
    if_neg (not_or.mpr ⟨other _ (by simp), other _ (by simp)⟩), value]

theorem operand_written (literal : Literal) :
    operand literal.written = .ok (.literal literal.value) := by
  cases literal with
  | text text =>
      have quote : isQuote '"' = true := by decide
      have read := operand_quotedIn quote text.toList
      rwa [String.ofList_toList] at read
  | integer n least greatest =>
      exact operand_of_number (.signedDecimal n) (number?_signedDecimal least greatest)
  | boolean b => cases b <;> rfl
  | null => rfl

/-- A stretch of text that stays in one word: read outside of quotes, it ends outside of quotes. -/
def InWord (part : List Char) : Prop :=
  ∀ word rest, wordsFrom word none false (part ++ rest) =
    wordsFrom (some (part.reverse ++ word.getD [])) none false rest

theorem InWord.append {part other : List Char} (within : InWord part) (withinToo : InWord other) :
    InWord (part ++ other) := by
  intro word rest
  rw [List.append_assoc, within, withinToo]
  simp

theorem InWord.single {c : Char} (blank : Unicode.isBlank c = false)
    (quote : isQuote c = false) : InWord [c] := by
  intro word rest
  simp [wordsFrom, blank, quote]

theorem InWord.of_plain {word : List Char} (named : word ≠ [])
    (plain : ∀ c ∈ word, Unicode.isBlank c = false ∧ isQuote c = false) : InWord word := by
  induction word with
  | nil => exact absurd rfl named
  | cons c rest ih =>
      obtain ⟨blank, quote⟩ := plain c List.mem_cons_self
      have first := InWord.single blank quote
      cases rest with
      | nil => exact first
      | cons next others =>
          exact first.append (ih (by simp) fun c member => plain c (List.mem_cons_of_mem _ member))

theorem IsName.inWord {word : List Char} (name : IsName word) : InWord word :=
  .of_plain name.named fun c member => isKeyChar_plain (List.all_eq_true.mp name.all c member)

theorem isQuote_plain {quote : Char} (quotes : isQuote quote = true) :
    Unicode.isBlank quote = false ∧ quote ≠ '\\' := by
  simp only [isQuote, Bool.or_eq_true, beq_iff_eq] at quotes
  rcases quotes with rfl | rfl
  · exact ⟨by decide, by decide⟩
  · exact ⟨by decide, by decide⟩

theorem wordsFrom_escaped {quote : Char} (quotes : isQuote quote = true)
    (word rest text : List Char) :
    wordsFrom (some word) (some quote) false (text.flatMap (escaped quote) ++ rest) =
      wordsFrom (some ((text.flatMap (escaped quote)).reverse ++ word)) (some quote) false
        rest := by
  have other := (isQuote_plain quotes).2
  induction text generalizing word with
  | nil => rfl
  | cons c others ih =>
      rw [List.flatMap_cons, List.append_assoc]
      by_cases special : c = '\\' ∨ c = quote
      · rw [escaped, if_pos special]
        simp [wordsFrom, ih]
      · obtain ⟨backslash, inner⟩ := not_or.mp special
        rw [escaped, if_neg special]
        simp [wordsFrom, ih, backslash, inner]

theorem inWord_quotedIn {quote : Char} (quotes : isQuote quote = true) (text : List Char) :
    InWord (quotedIn quote text) := by
  obtain ⟨blank, other⟩ := isQuote_plain quotes
  intro word rest
  simp [quotedIn, wordsFrom, blank, quotes, other, wordsFrom_escaped]

theorem inWord_quoted (text : List Char) : InWord (quoted text) := by
  have quote : isQuote '"' = true := by decide
  exact inWord_quotedIn quote text

theorem Literal.inWord (literal : Literal) : InWord literal.written := by
  rcases literal.written_shape with ⟨text, quotes⟩ | name
  · rw [quotes]
    exact inWord_quoted text
  · exact name.inWord

theorem Key.inWord (key : Key) (literal : Literal) : InWord (key.assigned literal) := by
  have equals : InWord ['='] := .single (by decide) (by decide)
  exact key.isName.inWord.append (equals.append literal.inWord)

structure Gap where
  letters : List Char
  wide : letters ≠ []
  blank : ∀ c ∈ letters, Unicode.isBlank c = true

def Gap.space : Gap where
  letters := [' ']
  wide := by simp
  blank c member := by
    cases List.mem_singleton.mp member
    decide

theorem words?_blank {blanks : List Char} (blank : ∀ c ∈ blanks, Unicode.isBlank c = true)
    (rest : List Char) : words? (blanks ++ rest) = words? rest := by
  induction blanks with
  | nil => rfl
  | cons c others ih =>
      have here := blank c List.mem_cons_self
      have later := ih fun c member => blank c (List.mem_cons_of_mem _ member)
      unfold words? at later ⊢
      simpa only [List.cons_append, wordsFrom, here, ↓reduceIte] using later

theorem InWord.words?_gap {word : List Char} (within : InWord word) (gap : Gap) (rest : List Char) :
    words? (word ++ (gap.letters ++ rest)) = (words? rest).map (word :: ·) := by
  obtain ⟨letters, wide, blank⟩ := gap
  obtain ⟨c, others, rfl⟩ := List.exists_cons_of_ne_nil wide
  have here := blank c List.mem_cons_self
  have later := words?_blank (fun c member => blank c (List.mem_cons_of_mem _ member)) rest
  rw [words?, within]
  unfold words? at later
  simp only [List.cons_append, wordsFrom, here, ↓reduceIte, later]
  simp [words?]

theorem InWord.words?_self {word : List Char} (within : InWord word) :
    words? word = some [word] := by
  have ended := within none []
  simpa [words?, wordsFrom] using ended

theorem words?_intercalate {word : List Char} {words : List (List Char)} (within : InWord word)
    (all : ∀ other ∈ words, InWord other) :
    words? (List.intercalate [' '] (word :: words)) = some (word :: words) := by
  induction words generalizing word with
  | nil => simpa [List.intercalate] using within.words?_self
  | cons next others ih =>
      have first := all next (by simp)
      have rest := ih first fun other member => all other (List.mem_cons_of_mem _ member)
      have split : List.intercalate [' '] (word :: next :: others) =
          word ++ (Gap.space.letters ++ List.intercalate [' '] (next :: others)) := by
        simp [List.intercalate, List.intersperse, Gap.space]
      rw [split, within.words?_gap .space, rest]
      rfl

theorem IsName.no_equals {word : List Char} (name : IsName word) :
    ∀ c ∈ word, (c == '=') = false := by
  intro c member
  have letter := List.all_eq_true.mp name.all c member
  cases equals : c == '=' with
  | false => rfl
  | true =>
      cases beq_iff_eq.mp equals
      exact absurd letter (by decide)

theorem namedPair?_of_isName {word : List Char} (name : IsName word) : namedPair? word = none := by
  simp [namedPair?, Text.splitFirst?_eq_none name.no_equals]

theorem namedPair?_written (literal : Literal) : namedPair? literal.written = none := by
  rcases literal.written_shape with ⟨text, quotes⟩ | name
  · rw [quotes]
    rfl
  · exact namedPair?_of_isName name

theorem Key.namedPair?_eq (key : Key) (word : List Char) :
    namedPair? (key.letters ++ '=' :: word) = some (key.letters, word) := by
  obtain ⟨letters, name⟩ := key
  have split : Text.splitFirst? (· == '=') (letters ++ '=' :: word) = some (letters, word) :=
    Text.splitFirst?_append name.no_equals rfl
  have unquoted : (letters ++ '=' :: word).head?.any isQuote = false := by
    obtain ⟨c, rest, shape⟩ := List.exists_cons_of_ne_nil name.named
    have member := List.all_eq_true.mp name.all c (by simp [shape])
    simp [shape, (isKeyChar_plain member).2]
  unfold namedPair?
  rw [unquoted, split]
  simp only [Bool.false_eq_true, ↓reduceIte]
  rw [if_pos ⟨name.named, name.all⟩]

section
variable {α : Type} (word : α → List Char) (found : α → Operand)

theorem operands_positional (params : List Operand) (entries : List α) (words : List (List Char))
    (unnamed : ∀ entry, namedPair? (word entry) = none)
    (read : ∀ entry, operand (word entry) = .ok (found entry)) :
    operands params [] (entries.map word ++ words) =
      operands (params ++ entries.map found) [] words := by
  induction entries generalizing params with
  | nil => simp
  | cons entry rest ih =>
      simp only [List.map_cons, List.cons_append, operands, unnamed, read, List.isEmpty_nil,
        ↓reduceIte, ih]
      simp

theorem operands_named (key : α → Key) (params : List Operand) (hash : List (String × Operand))
    (entries : List α) (read : ∀ entry, operand (word entry) = .ok (found entry)) :
    operands params hash (entries.map fun entry => (key entry).letters ++ '=' :: word entry) =
      .ok (params, hash ++ entries.map fun entry =>
        (String.ofList (key entry).letters, found entry)) := by
  induction entries generalizing hash with
  | nil => simp [operands]
  | cons entry rest ih =>
      simp only [List.map_cons, operands, (key entry).namedPair?_eq, read, ih]
      simp

end

def EndsSolid (text : List Char) : Prop :=
  ∃ front c, text = front ++ [c] ∧ Unicode.isBlank c = false ∧ c ≠ '\x7d'

theorem EndsSolid.append {text : List Char} (solid : EndsSolid text) (front : List Char) :
    EndsSolid (front ++ text) := by
  obtain ⟨start, c, rfl, ends⟩ := solid
  exact ⟨front ++ start, c, by simp, ends⟩

theorem EndsSolid.getLast? {text : List Char} (solid : EndsSolid text) :
    (∀ c ∈ text.getLast?, Unicode.isBlank c = false) ∧ text.getLast? ≠ some '\x7d' := by
  obtain ⟨front, c, rfl, blank, brace⟩ := solid
  simp [blank, brace]

theorem IsName.endsSolid {word : List Char} (name : IsName word) : EndsSolid word := by
  have shape := List.dropLast_concat_getLast name.named
  have member := List.all_eq_true.mp name.all _ (List.getLast_mem name.named)
  refine ⟨_, _, shape.symm, (isKeyChar_plain member).1, ?_⟩
  intro brace
  rw [brace] at member
  exact absurd member (by decide)

theorem endsSolid_written (literal : Literal) : EndsSolid literal.written := by
  rcases literal.written_shape with ⟨text, quotes⟩ | name
  · rw [quotes]
    exact ⟨'"' :: text.flatMap quoteChar, '"', rfl, by decide, by decide⟩
  · exact name.endsSolid

theorem endsSolid_intercalate {word : List Char} {words : List (List Char)}
    (solid : EndsSolid word) (all : ∀ other ∈ words, EndsSolid other) :
    EndsSolid (List.intercalate [' '] (word :: words)) := by
  induction words generalizing word with
  | nil => simpa [List.intercalate] using solid
  | cons next others ih =>
      have rest := ih (all next (by simp))
        fun other member => all other (List.mem_cons_of_mem _ member)
      have split : List.intercalate [' '] (word :: next :: others) =
          (word ++ [' ']) ++ List.intercalate [' '] (next :: others) := by
        simp [List.intercalate, List.intersperse]
      rw [split]
      exact rest.append _

theorem prefix_intercalate (word : List Char) (words : List (List Char)) :
    word <+: List.intercalate [' '] (word :: words) := by
  cases words with
  | nil => simp [List.intercalate]
  | cons next others => exact ⟨_, by simp [List.intercalate, List.intersperse]; rfl⟩

end Expression

namespace Helper

theorem isName_name (helper : Helper) : Expression.IsName helper.name.toList := by
  cases helper <;> exact ⟨by decide, by decide⟩

theorem operand_name (helper : Helper) :
    Expression.operand helper.name.toList = .ok (.path [helper.name]) := by
  cases helper <;> rfl

end Helper

end TagTemplate
