import TagTemplate.Proofs.Helper.Refusal

/-! Values joined by a helper, given as a list or one by one. -/

namespace TagTemplate.Helper

def joinedText (separator : Value) (items : List Value) (hash : Fields Value) : String :=
  let around (name : String) : String := ((Fields.get? hash name).map Value.display).getD ""
  around "prefix" ++ String.intercalate separator.display (items.map Value.display) ++
    around "suffix"

section
variable (separator : Value) (hash : Fields Value)

theorem textOf_named (arguments : Arguments) (name : String) :
    textOf (arguments.named name (.string "")) =
      (((Fields.get? arguments.hash name).map Value.display).getD "").toList := by
  unfold textOf Arguments.named
  cases Fields.get? arguments.hash name <;> rfl

theorem rendered_joined (items params : List Value) :
    rendered (textOf (Arguments.named ⟨params, hash⟩ "prefix" (.string "")) ++
        List.intercalate (textOf separator) (items.map textOf) ++
        textOf (Arguments.named ⟨params, hash⟩ "suffix" (.string ""))) =
      some (.string (joinedText separator items hash)) := by
  have texts : items.map textOf = (items.map Value.display).map String.toList := by
    rw [List.map_map]
    rfl
  rw [rendered, textOf_named, textOf_named, texts, textOf, ← String.toList_intercalate,
    ← String.toList_append, ← String.toList_append, String.ofList_toList, joinedText]

theorem applyJoin_listed (item : Value) (items more : List Value) :
    applyJoin (.array (item :: items)) ⟨separator :: more, hash⟩ =
      .ok (some (.string (joinedText separator (item :: items) hash))) := by
  rw [← rendered_joined separator hash (item :: items) (separator :: more)]
  rfl

theorem applyJoin_spread {context : Value} (noArray : ∀ items, context ≠ .array items)
    (present : context ≠ .null) (items : List Value) :
    applyJoin context ⟨items ++ [separator], hash⟩ =
      .ok (some (.string (joinedText separator (context :: items) hash))) := by
  have joined := rendered_joined separator hash (context :: items) (items ++ [separator])
  cases context with
  | null => exact absurd rfl present
  | array listed => exact absurd rfl (noArray listed)
  | _ =>
      simp only [applyJoin, List.getLast?_concat, List.dropLast_concat, ← joined]
      rfl

end

theorem apply_join (context : Value) (arguments : Arguments) :
    Helper.join.apply context arguments = applyJoin context arguments := rfl

/-- Values are joined in the same way whether they are given as a list or as the context and the
arguments behind it. -/
theorem join_forms {context : Value} (noArray : ∀ items, context ≠ .array items)
    (present : context ≠ .null) (items : List Value) (separator : Value) (hash : Fields Value) :
    let spread (params : List Value) := Helper.join.apply context ⟨params, hash⟩
    let listed (params : List Value) := Helper.join.apply (.array (context :: items)) ⟨params, hash⟩
    let joined := some (.string (joinedText separator (context :: items) hash))
    spread (items ++ [separator]) = listed [separator] ∧
      spread (items ++ [separator]) = .ok joined ∧ listed [separator] = .ok joined ∧
      spread [] = .error (.missingArgument .join "separator") ∧
      listed [] = .error (.missingArgument .join "separator") := by
  intro spread listed joined
  have first : spread (items ++ [separator]) = .ok joined :=
    (apply_join context _).trans (applyJoin_spread separator hash noArray present items)
  have second : listed [separator] = .ok joined :=
    (apply_join _ _).trans (applyJoin_listed separator hash context items [])
  have lacking (value : Value) :
      Helper.join.apply value ⟨[], hash⟩ = .error (.missingArgument .join "separator") :=
    (apply_join value _).trans (applyJoin_lacking value hash)
  exact ⟨first.trans second.symm, first, second, lacking context, lacking _⟩

theorem join_forms_mixed :
    let context := Value.object [("a", .boolean true)]
    let items := [.null, .array [.string "x", .null]]
    let separator := Value.number (.integer ⟨0, by decide, by decide⟩)
    let hash := Fields.insert "prefix" (Value.string "<") []
    let spread (params : List Value) := Helper.join.apply context ⟨params, hash⟩
    let listed (params : List Value) := Helper.join.apply (.array (context :: items)) ⟨params, hash⟩
    let joined := some (.string (joinedText separator (context :: items) hash))
    (∀ items, context ≠ .array items) ∧ context ≠ .null ∧
      joinedText separator (context :: items) hash = "<\x7b\"a\":true\x7d00x," ∧
      spread (items ++ [separator]) = listed [separator] ∧
      spread (items ++ [separator]) = .ok joined ∧ listed [separator] = .ok joined ∧
      spread [] = .error (.missingArgument .join "separator") ∧
      listed [] = .error (.missingArgument .join "separator") := by
  intro context items separator hash spread listed joined
  have noArray : ∀ items, context ≠ .array items := by
    intro items
    simp [context]
  have present : context ≠ .null := by simp [context]
  exact ⟨noArray, present, by decide +kernel, join_forms noArray present items separator hash⟩

end TagTemplate.Helper
