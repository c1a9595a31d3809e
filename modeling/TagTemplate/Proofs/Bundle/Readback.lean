import TagTemplate.Json.Reader
import TagTemplate.Proofs.Bundle
import TagTemplate.Proofs.Text

/-! The script of a bundle can be read back: its format, and every name with its body. -/

namespace TagTemplate.Bundle

def isLineBreak (c : Char) : Bool := ['\n', '\r', '\u2028', '\u2029'].contains c

def letterChar? (c : Char) : Option Char := if c = '\'' then some c else Json.simpleEscape? c

def unitChar? (a b c d : Char) : Option Char :=
  (Json.codeUnit? a b c d).bind fun unit =>
    if unit.isValidChar then some (Char.ofNat unit) else none

def readOn (meant : Option Char) (found : Option (List Char × List Char)) :
    Option (List Char × List Char) :=
  match meant, found with
  | some c, some (text, rest) => some (c :: text, rest)
  | _, _ => none

def readLiteral? : List Char → Option (List Char × List Char)
  | [] => none
  | '\'' :: rest => some ([], rest)
  -- four hexadecimal digits follow
  | '\\' :: 'u' :: a :: b :: c :: d :: rest => readOn (unitChar? a b c d) (readLiteral? rest)
  | '\\' :: c :: rest => readOn (letterChar? c) (readLiteral? rest)
  -- a backslash alone and a line break belong to no literal
  | c :: rest => readOn (if c = '\\' ∨ isLineBreak c then none else some c) (readLiteral? rest)

def readQuoted? : List Char → Option (List Char × List Char)
  | '\'' :: rest => readLiteral? rest
  | _ => none

def readHeader? (script : List Char) : Option (ModuleFormat × List Char) :=
  match Text.stripStart? (header .plain) script with
  | some rest => some (.plain, rest)
  | none => do
      let rest ← Text.stripStart? "define([".toList script
      let (runtime, rest) ← readQuoted? rest
      let rest ← Text.stripStart? "], function (Handlebars) \x7b\n".toList rest
      some (.amd (String.ofList runtime), rest)

def readEntry? (line : List Char) : Option (String × String) := do
  let rest ← Text.stripStart? "  templates[".toList line
  let (name, rest) ← readQuoted? rest
  let rest ← Text.stripStart? "] = template(".toList rest
  let body ← Text.stripStart? ");".toList.reverse rest.reverse
  some (String.ofList name, String.ofList body.reverse)

def readEntries? (closing : List (List Char)) : List (List Char) → Option (List (String × String))
  | [] => none
  | line :: rest =>
      match readEntry? line with
      | some entry => (readEntries? closing rest).map (entry :: ·)
      | none => if line :: rest = closing then some [] else none

def read? (script : String) : Option (ModuleFormat × List (String × String)) := do
  let (format, rest) ← readHeader? script.toList
  let rest ← Text.stripStart? preamble rest
  let entries ← readEntries? (Text.lines (footer format)) (Text.lines rest)
  some (format, entries)

def Flat (entries : List (String × String)) : Prop := ∀ entry ∈ entries, '\n' ∉ entry.2.toList

instance (entries : List (String × String)) : Decidable (Flat entries) :=
  inferInstanceAs (Decidable (∀ entry ∈ entries, '\n' ∉ entry.2.toList))

def escaped : List Char := ['\\', '\'', '\n', '\r', '\u2028', '\u2029']

theorem escapeChar_of_not_mem {c : Char} (plain : c ∉ escaped) : escapeChar c = [c] := by
  simp only [escaped, List.mem_cons, List.not_mem_nil, or_false, not_or] at plain
  obtain ⟨backslash, quote, newline, carriage, line, paragraph⟩ := plain
  simp [escapeChar, backslash, quote, newline, carriage, line, paragraph]

theorem not_mem_escapeChar (c : Char) : '\n' ∉ escapeChar c := by
  by_cases special : c ∈ escaped
  · simp only [escaped, List.mem_cons, List.not_mem_nil, or_false] at special
    rcases special with rfl | rfl | rfl | rfl | rfl | rfl <;> decide
  · rw [escapeChar_of_not_mem special, List.mem_singleton]
    rintro rfl
    exact special (by decide)

theorem not_mem_literal (text : String) : '\n' ∉ literal text := by
  simp only [literal, escape, List.cons_append, List.mem_cons, List.mem_append, List.mem_flatMap,
    List.mem_nil_iff, or_false, not_or, not_exists, not_and]
  exact ⟨by decide, fun c _ => not_mem_escapeChar c, by decide⟩

theorem readLiteral?_escapeChar (c : Char) (rest : List Char) :
    readLiteral? (escapeChar c ++ rest) = readOn (some c) (readLiteral? rest) := by
  by_cases special : c ∈ escaped
  · simp only [escaped, List.mem_cons, List.not_mem_nil, or_false] at special
    rcases special with rfl | rfl | rfl | rfl | rfl | rfl <;> rfl
  · rw [escapeChar_of_not_mem special, List.singleton_append]
    simp only [escaped, List.mem_cons, List.not_mem_nil, or_false, not_or] at special
    obtain ⟨backslash, quote, breaks⟩ := special
    have unbroken : isLineBreak c = false := by simp [isLineBreak, breaks]
    rw [readLiteral?]
    · simp [backslash, unbroken]
    · exact quote
    · intro a b c d others same
      exact absurd same backslash
    · intro letter others same
      exact absurd same backslash

theorem readLiteral?_escape (text behind : List Char) :
    readLiteral? (escape text ++ '\'' :: behind) = some (text, behind) := by
  induction text with
  | nil => rfl
  | cons c rest ih =>
      have split : escape (c :: rest) = escapeChar c ++ escape rest := rfl
      rw [split, List.append_assoc, readLiteral?_escapeChar, ih]
      rfl

theorem readQuoted?_literal (text : String) (behind : List Char) :
    readQuoted? (literal text ++ behind) = some (text.toList, behind) := by
  rw [literal, List.append_assoc]
  exact readLiteral?_escape text.toList behind

def entryText (entry : String × String) : List Char :=
  "  templates[".toList ++ literal entry.1 ++ "] = template(".toList ++ entry.2.toList ++
    ");".toList

theorem entryLine_eq (entry : String × String) (behind : List Char) :
    entryLine entry ++ behind = entryText entry ++ '\n' :: behind := by
  have ending : ");\n".toList = ");".toList ++ ['\n'] := rfl
  unfold entryLine entryText
  rw [ending]
  simp only [List.append_assoc, List.singleton_append]

theorem not_mem_entryText {entry : String × String} (flat : '\n' ∉ entry.2.toList) :
    '\n' ∉ entryText entry := by
  unfold entryText
  simp only [List.mem_append, not_or]
  exact ⟨⟨⟨⟨by decide, not_mem_literal entry.1⟩, by decide⟩, flat⟩, by decide⟩

theorem readEntry?_entryText (entry : String × String) :
    readEntry? (entryText entry) = some entry := by
  unfold readEntry? entryText
  simp only [List.append_assoc, Text.stripStart?_append, readQuoted?_literal, Option.bind_eq_bind,
    Option.bind_some, List.reverse_append, List.reverse_reverse, String.ofList_toList]

theorem readEntries?_lines (format : ModuleFormat) {entries : List (String × String)}
    (flat : Flat entries) :
    readEntries? (Text.lines (footer format))
      (Text.lines (entries.flatMap entryLine ++ footer format)) = some entries := by
  induction entries with
  | nil => cases format <;> rfl
  | cons entry rest ih =>
      have unbroken := not_mem_entryText (flat entry (by simp))
      have later := ih fun other member => flat other (List.mem_cons_of_mem _ member)
      rw [List.flatMap_cons, List.append_assoc, entryLine_eq, Text.lines_append unbroken,
        readEntries?, readEntry?_entryText, later]
      rfl

theorem readHeader?_header (format : ModuleFormat) (rest : List Char) :
    readHeader? (header format ++ rest) = some (format, rest) := by
  cases format with
  | plain => simp [readHeader?, Text.stripStart?_append]
  | amd runtime =>
      have other : Text.stripStart? (header .plain) (header (.amd runtime) ++ rest) = none := rfl
      unfold readHeader?
      rw [other]
      unfold header
      simp only [List.append_assoc, Text.stripStart?_append, readQuoted?_literal,
        Option.bind_eq_bind, Option.bind_some, String.ofList_toList]

theorem read?_render (bundle : Bundle) (format : ModuleFormat) (flat : Flat bundle.entries) :
    read? (bundle.render format) = some (format, bundle.entries) := by
  have entries := readEntries?_lines format flat
  simp only [read?, render, script, String.toList_ofList, List.append_assoc, readHeader?_header,
    Text.stripStart?_append, entries, Option.bind_eq_bind, Option.bind_some]

/-- From the script of a bundle its format and its entries are read back in order, each name from
the literal that holds it. No other bundle or format has the same script. -/
theorem render_read {added : List (String × String)} {bundle : Bundle}
    (built : empty.insertAll added = .ok bundle) (flat : Flat added) (format : ModuleFormat) :
    read? (bundle.render format) = some (format, added) ∧
      ∀ other formatToo, Flat other.entries →
        bundle.render format = other.render formatToo → bundle = other ∧ format = formatToo := by
  have entries : bundle.entries = added := insertAll_eq_ok built
  have read : read? (bundle.render format) = some (format, added) := by
    rw [← entries]
    exact read?_render bundle format (entries ▸ flat)
  refine ⟨read, fun other formatToo flatToo same => ?_⟩
  rw [same, read?_render other formatToo flatToo, ← entries] at read
  cases bundle
  cases other
  cases read
  exact ⟨rfl, rfl⟩

theorem lookalikes_read :
    let added := [("'] = template();\n  templates['b", "'] = template("), ("b\\", "\x7d)();")]
    let format := ModuleFormat.amd "'], function (Handlebars) \x7b\n"
    ∃ bundle, (empty.insertAll added = .ok bundle ∧ Flat added) ∧
      read? (bundle.render format) = some (format, added) ∧
        ∀ other formatToo, Flat other.entries →
          bundle.render format = other.render formatToo → bundle = other ∧ format = formatToo := by
  intro added format
  have built : empty.insertAll added = .ok ⟨added, by decide⟩ := insertAll_of_nodup (by decide)
  have flat : Flat added := by decide
  exact ⟨_, ⟨built, flat⟩, render_read built flat format⟩

end TagTemplate.Bundle
