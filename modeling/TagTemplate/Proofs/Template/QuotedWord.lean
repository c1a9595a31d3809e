import Mathlib.Data.List.Basic
import TagTemplate.Proofs.Template.Literal
import TagTemplate.Proofs.Template.Operands
import TagTemplate.Template.Render

/-! The words of an expression that begin with a quote: each has a closing quote, and what stands
behind it decides whether the word is read. -/

namespace TagTemplate.Expression

/-- What stands between two quotes, and the text it stands for. A backslash makes a pair with the
character behind it, and only in a pair does the quote itself stand there. -/
inductive Body (quote : Char) : List Char → List Char → Prop
  | nil : Body quote [] []
  | plain {c body text} (other : c ≠ quote) (single : c ≠ '\\') (rest : Body quote body text) :
      Body quote (c :: body) (c :: text)
  | pair {c body text} (rest : Body quote body text) : Body quote ('\\' :: c :: body) (c :: text)

inductive Balanced : List Char → Prop
  | nil : Balanced []
  | letter {c rest} (unquoted : isQuote c = false) (behind : Balanced rest) : Balanced (c :: rest)
  | quoted {quote body text rest} (quotes : isQuote quote = true) (between : Body quote body text)
      (behind : Balanced rest) : Balanced (quote :: (body ++ quote :: rest))

inductive Pending : Option Char → Bool → List Char → Prop
  | outside {letters} (balanced : Balanced letters) : Pending none false letters
  | inside {front quote body text} (balanced : Balanced front) (quotes : isQuote quote = true)
      (between : Body quote body text) : Pending (some quote) false (front ++ quote :: body)
  | backslash {front quote body text} (balanced : Balanced front) (quotes : isQuote quote = true)
      (between : Body quote body text) :
      Pending (some quote) true (front ++ quote :: (body ++ ['\\']))

section
variable {quote : Char} {body text : List Char}

theorem Body.append {other otherText : List Char} (between : Body quote body text)
    (behind : Body quote other otherText) : Body quote (body ++ other) (text ++ otherText) := by
  induction between with
  | nil => exact behind
  | plain other single _ ih => exact .plain other single ih
  | pair _ ih => exact .pair ih

theorem Body.unescape_append (between : Body quote body text) (rest : List Char) :
    unescape (body ++ rest) = text ++ unescape rest := by
  induction between with
  | nil => rfl
  | plain _ single _ ih => rw [List.cons_append, unescape_cons single, ih, List.cons_append]
  | pair _ ih => rw [List.cons_append, List.cons_append, unescape, ih, List.cons_append]

theorem Body.unescape_eq (between : Body quote body text) : unescape body = text := by
  have whole := between.unescape_append []
  rwa [List.append_nil, unescape, List.append_nil] at whole

theorem Balanced.append {front rest : List Char} (balanced : Balanced front)
    (behind : Balanced rest) : Balanced (front ++ rest) := by
  induction balanced with
  | nil => exact behind
  | letter unquoted _ ih => exact .letter unquoted ih
  | quoted quotes between _ ih =>
      rw [List.cons_append, List.append_assoc]
      exact .quoted quotes between ih

theorem Balanced.tail {c : Char} {rest : List Char} (balanced : Balanced (c :: rest))
    (unquoted : isQuote c = false) : Balanced rest := by
  cases balanced with
  | letter _ behind => exact behind
  | quoted quotes _ _ => simp [unquoted] at quotes

theorem Balanced.behind {front rest : List Char} (unquoted : ∀ c ∈ front, isQuote c = false)
    (balanced : Balanced (front ++ rest)) : Balanced rest := by
  induction front with
  | nil => exact balanced
  | cons c others ih =>
      rw [List.forall_mem_cons] at unquoted
      exact ih unquoted.2 (balanced.tail unquoted.1)

theorem Balanced.exists_body {rest : List Char} (balanced : Balanced (quote :: rest))
    (quotes : isQuote quote = true) :
    ∃ body text after, rest = body ++ quote :: after ∧ Body quote body text := by
  cases balanced with
  | letter unquoted _ => simp [quotes] at unquoted
  | quoted _ between _ => exact ⟨_, _, _, rfl, between⟩

end

theorem Pending.next {word : Option (List Char)} {quote c : Char} {escaped : Bool}
    {letters rest : List Char} {words : List (List Char)}
    (pending : Pending (some quote) escaped letters)
    (split : wordsFrom word (some quote) escaped (c :: rest) = some words) :
    ∃ open? after, wordsFrom (some (c :: word.getD [])) open? after rest = some words ∧
      Pending open? after (letters ++ [c]) := by
  rw [wordsFrom] at split
  cases pending with
  | @inside front _ body text balanced quotes between =>
      rw [if_neg Bool.false_ne_true] at split
      rw [List.append_assoc, List.cons_append]
      by_cases backslash : c = '\\'
      · rw [if_pos backslash] at split
        rw [backslash] at split ⊢
        exact ⟨_, _, split, .backslash balanced quotes between⟩
      rw [if_neg backslash] at split
      by_cases closes : c = quote
      · rw [if_pos closes] at split
        rw [closes] at split ⊢
        exact ⟨_, _, split, .outside (balanced.append (.quoted quotes between .nil))⟩
      · rw [if_neg closes] at split
        have longer := between.append (.plain closes backslash .nil)
        exact ⟨_, _, split, .inside balanced quotes longer⟩
  | @backslash front _ body text balanced quotes between =>
      rw [if_pos rfl] at split
      rw [List.append_assoc, List.cons_append, List.append_assoc]
      exact ⟨_, _, split, .inside balanced quotes (between.append (.pair .nil))⟩

theorem wordsFrom_balanced {word : Option (List Char)} {quote : Option Char} {escaped : Bool}
    {rest : List Char} {words : List (List Char)}
    (split : wordsFrom word quote escaped rest = some words)
    (pending : Pending quote escaped (word.getD []).reverse) : ∀ word ∈ words, Balanced word := by
  -- what has been read of the word stays pending until a blank or the end of the text
  induction rest generalizing word quote escaped words with
  | nil =>
      cases quote with
      | some quote => simp [wordsFrom] at split
      | none =>
          cases pending with
          | outside balanced =>
              cases word with
              | none =>
                  simp only [wordsFrom, Option.some.injEq] at split
                  simp [← split]
              | some letters =>
                  simp only [wordsFrom, Option.some.injEq] at split
                  simpa [← split] using balanced
  | cons c rest ih =>
      cases quote with
      | some quote =>
          obtain ⟨open?, after, goesOn, longer⟩ := pending.next split
          exact ih goesOn (by simpa using longer)
      | none =>
          cases pending with
          | outside balanced =>
              unfold wordsFrom at split
              by_cases blank : Unicode.isBlank c = true
              · rw [if_pos blank] at split
                cases word with
                | none => exact ih split (.outside .nil)
                | some letters =>
                    obtain ⟨others, later, rfl⟩ := Option.map_eq_some_iff.mp split
                    rw [List.forall_mem_cons]
                    exact ⟨balanced, ih later (.outside .nil)⟩
              · rw [if_neg blank] at split
                refine ih split ?_
                rw [Option.getD_some, List.reverse_cons]
                cases quotes : isQuote c with
                | true => exact .inside balanced quotes .nil
                | false => exact .outside (balanced.append (.letter quotes .nil))

theorem namedPair?_eq_some {word key value : List Char} (pair : namedPair? word = some (key, value)) :
    word = key ++ '=' :: value ∧ ∀ c ∈ key, isQuote c = false := by
  unfold namedPair? at pair
  split at pair
  · contradiction
  split at pair
  · next other front behind =>
      split at pair
      · next named =>
          obtain ⟨rfl, rfl⟩ : other = key ∧ front = value := by simpa using pair
          obtain ⟨c, equals, rfl, -⟩ := Text.splitFirst?_eq_some behind
          rw [eq_of_beq equals]
          exact ⟨rfl, fun c member => (isKeyChar_plain (List.all_eq_true.mp named.2 c member)).2⟩
      · contradiction
  · contradiction

theorem IsOperand.balanced {source text : List Char} (isOperand : IsOperand source text) :
    Balanced text := by
  obtain ⟨words, word, split, member, rfl⟩ := isOperand
  have whole := wordsFrom_balanced split (.outside .nil) word member
  unfold operandPart
  split
  · next key value pair =>
      obtain ⟨rfl, unquoted⟩ := namedPair?_eq_some pair
      exact (whole.behind unquoted).tail rfl
  · exact whole

theorem Body.unique {quote : Char} {body text other otherText after behind : List Char}
    (single : quote ≠ '\\') (between : Body quote body text)
    (betweenToo : Body quote other otherText)
    (same : body ++ quote :: after = other ++ quote :: behind) : body = other ∧ after = behind := by
  -- both bodies are read from the same end, so neither can close before the other
  induction between generalizing other otherText with
  | nil =>
      cases betweenToo with
      | nil => simpa using same
      | plain different _ _ => simp [Ne.symm different] at same
      | pair _ => simp [single] at same
  | plain different unpaired _ ih =>
      cases betweenToo with
      | nil => simp [different] at same
      | plain _ _ rest =>
          simp only [List.cons_append, List.cons.injEq] at same
          obtain ⟨rfl, rfl⟩ := ih rest same.2
          exact ⟨by rw [same.1], rfl⟩
      | pair _ => simp [unpaired] at same
  | pair _ ih =>
      cases betweenToo with
      | nil => simp [Ne.symm single] at same
      | plain _ unpaired _ => simp [Ne.symm unpaired] at same
      | pair rest =>
          simp only [List.cons_append, List.cons.injEq, true_and] at same
          obtain ⟨rfl, rfl⟩ := ih rest same.2
          exact ⟨by rw [same.1], rfl⟩

def Closed (quote : Char) (rest text : List Char) : Prop :=
  ∃ body, rest = body ++ [quote] ∧ Body quote body text

/-- A body and more behind the quote that closes it, with the same quote at the end once more. All
between the first quote and the last one is read as if it stood between quotes. -/
def Glued (quote : Char) (rest text : List Char) : Prop :=
  ∃ body front after, rest = body ++ quote :: (after ++ [quote]) ∧ Body quote body front ∧
    text = front ++ quote :: unescape after

section
variable {quote : Char} {rest text : List Char}

theorem unquote?_eq_some_iff :
    unquote? quote rest = some text ↔ ∃ inner, rest = inner ++ [quote] ∧ text = unescape inner := by
  rcases List.eq_nil_or_concat rest with rfl | ⟨inner, last, rfl⟩
  · simp [unquote?]
  · by_cases same : last = quote
    · simp [unquote?, same, eq_comm]
    · simp [unquote?, same]

theorem Closed.unquote?_eq (closed : Closed quote rest text) : unquote? quote rest = some text := by
  obtain ⟨body, rfl, between⟩ := closed
  exact unquote?_eq_some_iff.mpr ⟨body, rfl, between.unescape_eq.symm⟩

theorem Glued.unquote?_eq (quotes : isQuote quote = true) (glued : Glued quote rest text) :
    unquote? quote rest = some text := by
  obtain ⟨body, front, after, rfl, between, rfl⟩ := glued
  refine unquote?_eq_some_iff.mpr ⟨body ++ quote :: after, by simp, ?_⟩
  rw [between.unescape_append, unescape_cons (isQuote_plain quotes).2]

theorem Balanced.closed_or_glued (balanced : Balanced (quote :: rest))
    (quotes : isQuote quote = true) (read : unquote? quote rest = some text) :
    Closed quote rest text ∨ Glued quote rest text := by
  obtain ⟨inner, whole, rfl⟩ := unquote?_eq_some_iff.mp read
  obtain ⟨body, front, after, divided, between⟩ := balanced.exists_body quotes
  rcases List.eq_nil_or_concat after with rfl | ⟨behind, last, rfl⟩
  · have same : body ++ [quote] = inner ++ [quote] := divided.symm.trans whole
    rw [← List.append_cancel_right same, between.unescape_eq]
    exact .inl ⟨body, divided, between⟩
  · have same : (body ++ quote :: behind) ++ [last] = inner ++ [quote] := by
      rw [← whole, divided]
      simp
    obtain ⟨rfl, closing⟩ := List.append_inj' same rfl
    obtain rfl : last = quote := by simpa using closing
    refine .inr ⟨body, front, behind, by simpa using divided, between, ?_⟩
    rw [between.unescape_append, unescape_cons (isQuote_plain quotes).2]

theorem Closed.not_glued (quotes : isQuote quote = true) (closed : Closed quote rest text)
    (other : List Char) : ¬ Glued quote rest other := by
  obtain ⟨body, rfl, between⟩ := closed
  rintro ⟨first, front, after, same, betweenToo, -⟩
  have nothing := (between.unique (isQuote_plain quotes).2 betweenToo same).2
  simp at nothing

theorem operand_of_isQuote (quotes : isQuote quote = true) (rest : List Char) :
    operand (quote :: rest) =
      match unquote? quote rest with
      | some text => .ok (.literal (.string (String.ofList text)))
      | none => .error (.afterText (String.ofList (quote :: rest))) := by
  cases read : unquote? quote rest with
  | none => simp only [operand, quotes, ↓reduceIte, read]
  | some text => simp only [operand, quotes, ↓reduceIte, read]

end

/-- A word that begins with a quote is read when its body is closed by the last character, or when
the last character is that quote at least; all others are refused, with the expression that they are
in. -/
theorem operand_quoted {source rest : List Char} {quote : Char} (quotes : isQuote quote = true)
    (isOperand : IsOperand source (quote :: rest)) :
    (∀ found, operand (quote :: rest) = .ok found ↔
      ∃ text, (Closed quote rest text ∨ Glued quote rest text) ∧
        found = .literal (.string (String.ofList text))) ∧
    (∀ text other, Closed quote rest text → ¬ Glued quote rest other) ∧
    (∀ fault, operand (quote :: rest) = .error fault ↔
      (∀ text, ¬ Closed quote rest text ∧ ¬ Glued quote rest text) ∧
        fault = .afterText (String.ofList (quote :: rest))) ∧
    ∀ fault, operand (quote :: rest) = .error fault → ∃ other, parse source = .error other := by
  have read : ∀ text, unquote? quote rest = some text ↔
      Closed quote rest text ∨ Glued quote rest text := by
    intro text
    constructor
    · exact isOperand.balanced.closed_or_glued quotes
    · rintro (closed | glued)
      · exact closed.unquote?_eq
      · exact glued.unquote?_eq quotes
  rw [operand_of_isQuote quotes]
  simp only [← read, ← not_or]
  refine ⟨?_, fun text other closed => closed.not_glued quotes other, ?_, ?_⟩
  · intro found
    cases unquote? quote rest with
    | none => simp
    | some text => simp [eq_comm]
  · intro fault
    cases unquote? quote rest with
    | none => simp [eq_comm]
    | some text => simp
  · intro fault refused
    exact isOperand.refused ((operand_of_isQuote quotes rest).trans refused)

theorem operand_quoted_escape :
    isQuote '\'' = true ∧ IsOperand "upper 'it\\'s'".toList "'it\\'s'".toList ∧
      operand "'it\\'s'".toList = .ok (.literal (.string "it's")) := by
  have isOperand : IsOperand "upper 'it\\'s'".toList "'it\\'s'".toList :=
    ⟨["upper".toList, _], "'it\\'s'".toList, by decide, .tail _ (.head _), rfl⟩
  have between : Body '\'' "it\\'s".toList "it's".toList :=
    .plain (by decide) (by decide) (.plain (by decide) (by decide) (.pair
      (.plain (by decide) (by decide) .nil)))
  have closed : Closed '\'' "it\\'s'".toList "it's".toList := ⟨_, rfl, between⟩
  exact ⟨rfl, isOperand, ((operand_quoted rfl isOperand).1 _).mpr ⟨_, .inl closed, rfl⟩⟩

/-- Two texts in quotes, and a letter between them, are read as one text. -/
theorem glued_quotes :
    IsOperand "upper \"a\"x\"b\"".toList "\"a\"x\"b\"".toList ∧
      (∀ text, ¬ Closed '"' "a\"x\"b\"".toList text) ∧
      render "\x7b\x7b\x7bupper \"a\"x\"b\"\x7d\x7d\x7d" .null = .ok "A\"X\"B" := by
  have between : Body '"' ['a'] ['a'] := .plain (by decide) (by decide) .nil
  have glued : Glued '"' "a\"x\"b\"".toList _ :=
    ⟨['a'], ['a'], ['x', '"', 'b'], rfl, between, rfl⟩
  have isOperand : IsOperand "upper \"a\"x\"b\"".toList "\"a\"x\"b\"".toList :=
    ⟨["upper".toList, _], "\"a\"x\"b\"".toList, by decide, .tail _ (.head _), rfl⟩
  refine ⟨isOperand, ?_, by decide +kernel⟩
  intro text closed
  exact closed.not_glued rfl _ glued

end TagTemplate.Expression
