import TagTemplate.Template.Escape
import TagTemplate.Text.Pieces

/-! Escaped texts read back: each entity, from left to right, stands for its character. -/

namespace TagTemplate.Markup

def entities : List (Char × List Char) :=
  [('&', "&amp;".toList), ('<', "&lt;".toList), ('>', "&gt;".toList), ('"', "&quot;".toList),
    ('\'', "&#x27;".toList), ('\x60', "&#x60;".toList), ('=', "&#x3D;".toList)]

def entity? (text : List Char) : Option (Char × List Char) :=
  entities.findSome? fun entity => (Text.stripStart? entity.2 text).map (entity.1, ·)

theorem entities_begin : ∀ entity ∈ entities, ∃ name, entity.2 = '&' :: name := by
  simp [entities]

theorem entity?_eq_some {text rest : List Char} {c : Char} (found : entity? text = some (c, rest)) :
    ∃ entity ∈ entities, entity.1 = c ∧ text = entity.2 ++ rest := by
  obtain ⟨entity, member, read⟩ := List.exists_of_findSome?_eq_some found
  obtain ⟨after, stripped, same⟩ := Option.map_eq_some_iff.mp read
  obtain ⟨rfl, rfl⟩ := Prod.mk.inj same
  exact ⟨entity, member, rfl, (Text.stripStart?_eq_some_iff _ _ _).mp stripped⟩

theorem entity?_length {text rest : List Char} {c : Char} (found : entity? text = some (c, rest)) :
    rest.length < text.length := by
  obtain ⟨entity, member, -, rfl⟩ := entity?_eq_some found
  obtain ⟨name, shape⟩ := entities_begin entity member
  simp only [shape, List.cons_append, List.length_cons, List.length_append]
  omega

def unescape (text : List Char) : List Char :=
  match text with
  | [] => []
  | c :: rest =>
      match _found : entity? (c :: rest) with
      | some (meant, after) => meant :: unescape after
      | none => c :: unescape rest
termination_by text.length
decreasing_by
  · exact entity?_length (by assumption)
  · simp

theorem entity?_append : ∀ entity ∈ entities, ∀ rest,
    entity? (entity.2 ++ rest) = some (entity.1, rest) := by
  simp [entities, entity?, Text.stripStart?]

theorem entity?_plain {c : Char} (plain : c ≠ '&') (rest : List Char) :
    entity? (c :: rest) = none := by
  cases found : entity? (c :: rest) with
  | none => rfl
  | some pair =>
      obtain ⟨entity, member, -, shape⟩ := entity?_eq_some found
      obtain ⟨name, begins⟩ := entities_begin entity member
      rw [begins, List.cons_append] at shape
      exact absurd (List.cons.inj shape).1 plain

theorem unescape_entity {entity : Char × List Char} (member : entity ∈ entities)
    (rest : List Char) : unescape (entity.2 ++ rest) = entity.1 :: unescape rest := by
  obtain ⟨name, begins⟩ := entities_begin entity member
  have found := entity?_append entity member rest
  rw [begins, List.cons_append] at found ⊢
  rw [unescape]
  split
  · next meant after again =>
      obtain ⟨rfl, rfl⟩ := Prod.mk.inj (Option.some.inj (again.symm.trans found))
      rfl
  · next none => cases none.symm.trans found

theorem unescape_plain {c : Char} (plain : c ≠ '&') (rest : List Char) :
    unescape (c :: rest) = c :: unescape rest := by
  rw [unescape]
  split
  · next found => cases found.symm.trans (entity?_plain plain rest)
  · rfl

theorem escapeChar_cases (c : Char) :
    (c, escapeChar c) ∈ entities ∨ c ≠ '&' ∧ escapeChar c = [c] := by
  by_cases special : c ∈ entities.map Prod.fst
  · have each : ∀ entity ∈ entities, escapeChar entity.1 = entity.2 := by decide
    obtain ⟨entity, member, rfl⟩ := List.mem_map.mp special
    rw [each entity member]
    exact .inl member
  · simp only [entities, List.map_cons, List.map_nil, List.mem_cons, List.not_mem_nil, or_false,
      not_or] at special
    obtain ⟨amp, less, greater, quote, apostrophe, tick, equals⟩ := special
    exact .inr ⟨amp, by simp [escapeChar, amp, less, greater, quote, apostrophe, tick, equals]⟩

theorem escape_cons (c : Char) (text : List Char) :
    escape (c :: text) = escapeChar c ++ escape text := rfl

theorem unescape_escape (text : List Char) : unescape (escape text) = text := by
  induction text with
  | nil => rw [escape, List.flatMap_nil, unescape]
  | cons c text ih =>
      rw [escape_cons]
      rcases escapeChar_cases c with entity | ⟨plain, alone⟩
      · rw [unescape_entity entity, ih]
      · rw [alone, List.singleton_append, unescape_plain plain, ih]

theorem entities_tail : ∀ entity ∈ entities, '&' ∉ entity.2.tail := by decide

theorem entity_of_ampersand {text before rest : List Char}
    (here : escape text = before ++ '&' :: rest) :
    ∃ entity ∈ entities, entity.2 <+: '&' :: rest := by
  induction text generalizing before with
  | nil => simp [escape] at here
  | cons c text ih =>
      rw [escape_cons] at here
      rcases List.append_eq_append_iff.mp here with ⟨later, -, behind⟩ | ⟨inner, shape, behind⟩
      · exact ih behind
      · cases inner with
        | nil =>
            have here : escape text = [] ++ '&' :: rest := by simpa using behind.symm
            exact ih here
        | cons d inner =>
            obtain ⟨rfl, rfl⟩ := List.cons.inj behind
            rcases escapeChar_cases c with entity | ⟨plain, alone⟩
            · -- The ampersand is the first character of the entity: no other place has one.
              cases before with
              | nil => exact ⟨_, entity, by simp [shape]⟩
              | cons first before =>
                  refine absurd ?_ (entities_tail _ entity)
                  simp [shape]
            · rw [alone] at shape
              have member : '&' ∈ [c] := by simp [shape]
              exact absurd (List.mem_singleton.mp member).symm plain

/-- Escaping is undone by reading the entities from left to right, whatever the text looks like; no
other ampersands are left in an escaped text, and no two texts are escaped alike. -/
theorem escape_reversible (text : List Char) :
    unescape (escape text) = text ∧
      (∀ before rest, escape text = before ++ '&' :: rest →
        ∃ entity ∈ entities, entity.2 <+: '&' :: rest) ∧
      ∀ other, escape other = escape text → other = text := by
  refine ⟨unescape_escape text, fun before rest => entity_of_ampersand, fun other same => ?_⟩
  rw [← unescape_escape other, same, unescape_escape]

example : unescape "&amp;lt;&#x3d".toList = "&lt;&#x3d".toList := by decide +kernel

end TagTemplate.Markup
