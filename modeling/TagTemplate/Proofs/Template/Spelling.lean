import TagTemplate.Proofs.Template.Literal

/-! Expressions as they can be written, and how they are read back. -/

namespace TagTemplate.Expression

structure Segment where
  letters : List Char
  named : letters ≠ []
  plain : ∀ c ∈ letters, Unicode.isBlank c = false ∧ isQuote c = false
  unmarked : ∀ c ∈ letters, isPathMark c = false

namespace Segment

def text (segment : Segment) : String := String.ofList segment.letters

def behind (segments : List Segment) : List Char :=
  segments.flatMap fun segment => '.' :: segment.letters

def path (segments : List Segment) : List Char := "this".toList ++ behind segments

end Segment

inductive Spelling where
  | literal (plain : Literal)
  | singleQuoted (text : String)
  | path (segments : List Segment)

namespace Spelling

def written : Spelling → List Char
  | .literal plain => plain.written
  | .singleQuoted text => quotedIn '\'' text.toList
  | .path segments => Segment.path segments

def operand : Spelling → Operand
  | .literal plain => .literal plain.value
  | .singleQuoted text => .literal (.string text)
  | .path segments => .path (segments.map Segment.text)

end Spelling

/-- The first word of an expression: the name of a helper, a path from the data itself, or any other
word that is read as a path and not as a named operand. -/
inductive Head where
  | helper (called : Helper)
  | path (segments : List Segment)
  | word (letters : List Char) (segments : List String) (named : letters ≠ [])
      (plain : ∀ c ∈ letters, Unicode.isBlank c = false ∧ isQuote c = false)
      (read : operand letters = .ok (.path segments)) (unnamed : namedPair? letters = none)

namespace Head

def letters : Head → List Char
  | .helper called => called.name.toList
  | .path segments => Segment.path segments
  | .word letters _ _ _ _ _ => letters

def segments : Head → List String
  | .helper called => [called.name]
  | .path segments => segments.map Segment.text
  | .word _ segments _ _ _ _ => segments

end Head

structure Sentence where
  head : Head
  positional : List (Gap × Spelling)
  named : List (Gap × Key × Spelling)

namespace Sentence

def rest (sentence : Sentence) : List (Gap × List Char) :=
  sentence.positional.map (fun entry => (entry.1, entry.2.written)) ++
    sentence.named.map fun entry => (entry.1, entry.2.1.letters ++ '=' :: entry.2.2.written)

def written (sentence : Sentence) : List Char :=
  sentence.head.letters ++ sentence.rest.flatMap fun entry => entry.1.letters ++ entry.2

def expression (sentence : Sentence) : Expression where
  head := String.ofList sentence.head.letters
  target := .path sentence.head.segments
  params := sentence.positional.map fun entry => entry.2.operand
  hash := sentence.named.map fun entry => (String.ofList entry.2.1.letters, entry.2.2.operand)

end Sentence

theorem Segment.plain_path (segments : List Segment) :
    ∀ c ∈ path segments, Unicode.isBlank c = false ∧ isQuote c = false := by
  intro c member
  rcases List.mem_append.mp member with start | later
  · have name : IsName "this".toList := ⟨by decide, by decide⟩
    exact isKeyChar_plain (List.all_eq_true.mp name.all c start)
  · obtain ⟨segment, -, within⟩ := List.mem_flatMap.mp later
    rcases List.mem_cons.mp within with rfl | letter
    · exact ⟨by decide, by decide⟩
    · exact segment.plain c letter

theorem Segment.path_ne_nil (segments : List Segment) : path segments ≠ [] := by
  simp [path]

theorem Segment.inWord_path (segments : List Segment) : InWord (path segments) :=
  .of_plain (path_ne_nil segments) (plain_path segments)

theorem Segment.pieces_behind (segment : Segment) (segments : List Segment) :
    Text.pieces isPathMark (segment.letters ++ behind segments) =
      segment.letters :: segments.map Segment.letters := by
  induction segments generalizing segment with
  | nil => simpa [behind] using Text.pieces_eq_singleton segment.unmarked
  | cons next others ih =>
      have split : segment.letters ++ behind (next :: others) =
          segment.letters ++ '.' :: (next.letters ++ behind others) := by
        simp [behind]
      rw [split, Text.pieces_append segment.unmarked (by decide), ih, List.map_cons]

theorem Segment.relativePart_path (segments : List Segment) :
    relativePart (path segments) = (behind segments).dropWhile isPathMark := by
  have marked : (behind segments).isEmpty = true ∨
      (behind segments).head?.any isPathMark = true := by
    cases segments with
    | nil => exact .inl rfl
    | cons segment others => exact .inr (by simp [behind, isPathMark])
  unfold relativePart path
  rw [Text.stripStart?_append]
  simp only [Bool.or_eq_true, marked, ↓reduceIte]

theorem Segment.path?_path (segments : List Segment) :
    path? (path segments) = .ok (segments.map Segment.text) := by
  have inner : ¬ (path segments = ['.', '.'] ∨
      (Text.stripStart? ['.', '.', '/'] (path segments)).isSome = true) := by
    simp [path, Text.stripStart?]
  unfold path?
  rw [if_neg inner, relativePart_path]
  cases segments with
  | nil => rfl
  | cons segment others =>
      obtain ⟨c, letters, shape⟩ := List.exists_cons_of_ne_nil segment.named
      have unmarked := segment.unmarked c (by simp [shape])
      have relative : (behind (segment :: others)).dropWhile isPathMark =
          segment.letters ++ behind others := by
        have mark : isPathMark '.' = true := by decide
        simp [behind, shape, mark, unmarked]
      have full : (segment.letters :: others.map Segment.letters).any List.isEmpty = false := by
        simp only [List.any_eq_false, List.isEmpty_iff]
        intro letters member
        rcases List.mem_cons.mp member with rfl | later
        · exact segment.named
        · obtain ⟨other, -, rfl⟩ := List.mem_map.mp later
          exact other.named
      rw [relative]
      split
      · next empty => simp [segment.named] at empty
      · rw [pieces_behind, if_neg (by simpa using full)]
        simp [Segment.text]

theorem Segment.operand_path (segments : List Segment) :
    Expression.operand (path segments) = .ok (.path (segments.map Segment.text)) := by
  have shape : path segments = 't' :: ("his".toList ++ behind segments) := rfl
  have other : ∀ word ∈ ["true".toList, "false".toList, "null".toList, "undefined".toList],
      path segments ≠ word := by
    intro word among same
    simp only [List.mem_cons, List.not_mem_nil, or_false] at among
    rcases among with rfl | rfl | rfl | rfl <;> simp [path] at same
  have wordless : number? (path segments) = none := by simp [number?, path]
  have read := path?_path segments
  rw [shape] at other wordless read ⊢
  unfold Expression.operand
  have quote : isQuote 't' = false := by decide
  simp only [quote, Bool.false_eq_true, ↓reduceIte]
  rw [if_neg (by decide), if_neg (other _ (by simp)), if_neg (other _ (by simp)),
    if_neg (not_or.mpr ⟨other _ (by simp), other _ (by simp)⟩), wordless, read]
  rfl

theorem Segment.namedPair?_path (segments : List Segment) : namedPair? (path segments) = none := by
  cases segments with
  | nil => rfl
  | cons segment others =>
      have shape : path (segment :: others) =
          "this.".toList ++ (segment.letters ++ behind others) := by simp [path, behind]
      have mark : isKeyChar '.' = false := by decide
      rw [shape]
      -- what stands in front of the first equals sign, if there is one, holds the mark
      cases parts : Text.splitFirst? (· == '=') (segment.letters ++ behind others) with
      | none => simp [namedPair?, Text.splitFirst?, parts]
      | some found => simp [namedPair?, Text.splitFirst?, parts, mark]

section
variable (spelling : Spelling) (head : Head)

theorem Spelling.inWord : InWord spelling.written := by
  cases spelling with
  | literal plain => exact plain.inWord
  | singleQuoted text => exact inWord_quotedIn (by decide) text.toList
  | path segments => exact Segment.inWord_path segments

theorem Spelling.operand_written : Expression.operand spelling.written = .ok spelling.operand := by
  cases spelling with
  | literal plain => exact Expression.operand_written plain
  | singleQuoted text =>
      have quote : isQuote '\'' = true := by decide
      have read := operand_quotedIn quote text.toList
      rwa [String.ofList_toList] at read
  | path segments => exact Segment.operand_path segments

theorem Spelling.namedPair?_written : namedPair? spelling.written = none := by
  cases spelling with
  | literal plain => exact Expression.namedPair?_written plain
  | singleQuoted text => rfl
  | path segments => exact Segment.namedPair?_path segments

theorem Head.inWord : InWord head.letters := by
  cases head with
  | helper called => exact called.isName_name.inWord
  | path segments => exact Segment.inWord_path segments
  | word letters segments named plain read unnamed => exact .of_plain named plain

theorem Head.operand_letters : Expression.operand head.letters = .ok (.path head.segments) := by
  cases head with
  | helper called => exact called.operand_name
  | path segments => exact Segment.operand_path segments
  | word letters segments named plain read unnamed => exact read

theorem Head.namedPair?_letters : namedPair? head.letters = none := by
  cases head with
  | helper called => exact namedPair?_of_isName called.isName_name
  | path segments => exact Segment.namedPair?_path segments
  | word letters segments named plain read unnamed => exact unnamed

end

theorem words?_flatMap {word : List Char} (within : InWord word) {rest : List (Gap × List Char)}
    (all : ∀ entry ∈ rest, InWord entry.2) :
    words? (word ++ rest.flatMap fun entry => entry.1.letters ++ entry.2) =
      some (word :: rest.map Prod.snd) := by
  induction rest generalizing word with
  | nil => simpa using within.words?_self
  | cons entry others ih =>
      have later := ih (all entry List.mem_cons_self)
        fun other member => all other (List.mem_cons_of_mem _ member)
      rw [List.flatMap_cons, List.append_assoc, within.words?_gap, later]
      rfl

theorem Sentence.inWord_rest (sentence : Sentence) : ∀ entry ∈ sentence.rest, InWord entry.2 := by
  intro entry member
  rcases List.mem_append.mp member with positional | named
  · obtain ⟨⟨gap, spelling⟩, -, rfl⟩ := List.mem_map.mp positional
    exact spelling.inWord
  · obtain ⟨⟨gap, key, spelling⟩, -, rfl⟩ := List.mem_map.mp named
    have equals : InWord ['='] := .single (by decide) (by decide)
    exact key.isName.inWord.append (equals.append spelling.inWord)

/-- An expression is read back from any way to write it. -/
theorem parse_written (sentence : Sentence) :
    Expression.parse sentence.written = .ok sentence.expression := by
  have split := words?_flatMap sentence.head.inWord sentence.inWord_rest
  have words : sentence.rest.map Prod.snd =
      sentence.positional.map (fun entry => entry.2.written) ++
        sentence.named.map fun entry => entry.2.1.letters ++ '=' :: entry.2.2.written := by
    simp [Sentence.rest, Function.comp_def]
  have positional := operands_positional (fun entry : Gap × Spelling => entry.2.written)
    (fun entry => entry.2.operand) [] sentence.positional
    (sentence.named.map fun entry => entry.2.1.letters ++ '=' :: entry.2.2.written)
    (fun entry => entry.2.namedPair?_written) fun entry => entry.2.operand_written
  have named := operands_named (fun entry : Gap × Key × Spelling => entry.2.2.written)
    (fun entry => entry.2.2.operand) (fun entry => entry.2.1)
    (sentence.positional.map fun entry => entry.2.operand) [] sentence.named
    fun entry => entry.2.2.operand_written
  have read := positional.trans named
  unfold Expression.parse Sentence.written
  rw [split, words]
  simp only [ofWords, read, sentence.head.operand_letters, sentence.head.namedPair?_letters]
  rfl

example : Expression.parse "page.next\t'a=\\'b' 7 n-1=\"\\\\ '\"".toList =
    .ok ⟨"page.next", .path ["page", "next"],
      [.literal (.string "a='b"), .literal (.number (.integer ⟨7, by decide, by decide⟩))],
      [("n-1", .literal (.string "\\ '"))]⟩ := rfl

end TagTemplate.Expression
