import TagTemplate.Template.Expression

/-! The operands of an expression: where they stand in it, and that one which is refused is enough
for all of it to be refused. -/

namespace TagTemplate.Expression

def operandPart (word : List Char) : List Char :=
  match namedPair? word with
  | some (_, value) => value
  | none => word

def IsOperand (source text : List Char) : Prop :=
  ∃ words word, words? source = some words ∧ word ∈ words ∧ text = operandPart word

theorem operands_readable {params : List Operand} {hash : List (String × Operand)}
    {words : List (List Char)} {read : List Operand × List (String × Operand)}
    (ok : operands params hash words = .ok read) :
    ∀ word ∈ words, ∃ found, operand (operandPart word) = .ok found := by
  induction words generalizing params hash with
  | nil => simp
  | cons first rest ih =>
      rw [List.forall_mem_cons]
      rw [operands] at ok
      split at ok
      · next key value pair =>
          split at ok
          · simp at ok
          · next found here =>
              refine ⟨⟨found, ?_⟩, ih ok⟩
              simpa only [operandPart, pair] using here
      · next unnamed =>
          split at ok
          · split at ok
            · simp at ok
            · next found here =>
                refine ⟨⟨found, ?_⟩, ih ok⟩
                simpa only [operandPart, unnamed] using here
          · simp at ok

theorem ofWords_readable {words : List (List Char)} {expression : Expression}
    (ok : ofWords words = .ok expression) :
    ∀ word ∈ words, ∃ found, operand (operandPart word) = .ok found := by
  cases words with
  | nil => simp
  | cons head rest =>
      rw [List.forall_mem_cons]
      rw [ofWords] at ok
      split at ok
      · simp at ok
      next named =>
      split at ok
      · simp at ok
      next params hash read =>
      split at ok
      · simp at ok
      next target here =>
      have unnamed : namedPair? head = none := Option.not_isSome_iff_eq_none.mp named
      refine ⟨⟨target, ?_⟩, operands_readable read⟩
      simpa only [operandPart, unnamed] using here

theorem IsOperand.refused {source text : List Char} (isOperand : IsOperand source text)
    {fault : SyntaxFault} (refused : operand text = .error fault) :
    ∃ other, parse source = .error other := by
  obtain ⟨words, word, split, member, rfl⟩ := isOperand
  cases read : parse source with
  | error other => exact ⟨other, rfl⟩
  | ok expression =>
      rw [parse, split] at read
      obtain ⟨found, ok⟩ := ofWords_readable read word member
      rw [refused] at ok
      cases ok

end TagTemplate.Expression
