import TagTemplate.Unicode.Ranges

/-! Taking texts apart: trimming, lines and words. -/

namespace TagTemplate.Text

def dropEndWhile (p : Char → Bool) (text : List Char) : List Char :=
  (text.reverse.dropWhile p).reverse

def trim (text : List Char) : List Char :=
  dropEndWhile Unicode.isBlank (text.dropWhile Unicode.isBlank)

def trimEnd (text : List Char) : List Char := dropEndWhile Unicode.isBlank text

def pieces (separates : Char → Bool) : List Char → List (List Char)
  | [] => [[]]
  | c :: rest =>
      if separates c then [] :: pieces separates rest
      else (pieces separates rest).modifyHead (c :: ·)

def lines (text : List Char) : List (List Char) := pieces (· == '\n') text

def words (text : List Char) : List (List Char) :=
  (pieces Unicode.isBlank text).filter fun word => !word.isEmpty

def splitFirst? (separates : Char → Bool) : List Char → Option (List Char × List Char)
  | [] => none
  | c :: rest =>
      if separates c then some ([], rest)
      else (splitFirst? separates rest).map fun (before, after) => (c :: before, after)

def stripStart? : (beginning text : List Char) → Option (List Char)
  | [], text => some text
  | _ :: _, [] => none
  | b :: beginning, c :: text => if b = c then stripStart? beginning text else none

/-- Whether a text comes before another one, or is the same: the first characters in which they
differ decide, and a text comes before its continuations. -/
def isAtMost : List Char → List Char → Bool
  | [], _ => true
  | _ :: _, [] => false
  | a :: first, b :: second =>
      if a = b then isAtMost first second else decide (a.toNat < b.toNat)

def byteLength : List Char → Nat
  | [] => 0
  | c :: rest => c.utf8Size + byteLength rest

theorem byteLength_append (first second : List Char) :
    byteLength (first ++ second) = byteLength first + byteLength second := by
  induction first with
  | nil => simp [byteLength]
  | cons c rest ih => simp only [List.cons_append, byteLength, ih, Nat.add_assoc]

theorem stripStart?_eq_some_iff (beginning text rest : List Char) :
    stripStart? beginning text = some rest ↔ text = beginning ++ rest := by
  induction beginning generalizing text with
  | nil => simp [stripStart?, eq_comm]
  | cons b beginning ih =>
      cases text with
      | nil => simp [stripStart?]
      | cons c text => by_cases same : b = c <;> simp [stripStart?, same, ih, eq_comm]

theorem pieces_ne_nil (separates : Char → Bool) (text : List Char) :
    pieces separates text ≠ [] := by
  induction text with
  | nil => simp [pieces]
  | cons c rest ih =>
      simp only [pieces]
      split
      · simp
      · obtain ⟨first, others, shape⟩ := List.exists_cons_of_ne_nil ih
        simp [shape]

theorem intercalate_pieces (text : List Char) (separator : Char) :
    List.intercalate [separator] (pieces (· == separator) text) = text := by
  induction text with
  | nil => rfl
  | cons c rest ih =>
      obtain ⟨first, others, shape⟩ :=
        List.exists_cons_of_ne_nil (pieces_ne_nil (· == separator) rest)
      rw [shape] at ih
      by_cases same : c = separator
      · subst same
        simp only [pieces, beq_self_eq_true, ↓reduceIte, shape]
        rw [← ih]
        simp [List.intercalate, List.intersperse]
      · have : (c == separator) = false := by simpa using same
        simp only [pieces, this, Bool.false_eq_true, ↓reduceIte, shape, List.modifyHead]
        rw [← ih]
        cases others <;> simp [List.intercalate, List.intersperse]

end TagTemplate.Text
