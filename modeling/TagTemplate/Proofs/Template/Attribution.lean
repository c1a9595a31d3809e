import TagTemplate.Proofs.Template.Asking
import TagTemplate.Proofs.Template.Composition

/-! Which of the errors of a template rendering reports, and at which line. -/

namespace TagTemplate

open Leftmost

inductive Tag.Refused (tag : Tag) : TemplateError → Prop
  | expression {source fault} (plain : tag.Unescaped) (asks : tag.Asks (.output source))
      (parsed : Expression.parse source = .error fault) :
      Refused tag (.malformed fault tag.line)
  | sectionStart {keyword arguments} (plain : tag.Unescaped)
      (asks : tag.Asks (.sectionStart keyword arguments)) :
      Refused tag (.malformed (.sectionTag (String.ofList tag.source)) tag.line)
  | sectionEnd {keyword} (plain : tag.Unescaped) (asks : tag.Asks (.sectionEnd keyword)) :
      Refused tag (.malformed (.sectionTag (String.ofList tag.source)) tag.line)
  | inclusion {name} (plain : tag.Unescaped) (asks : tag.Asks (.inclusion name)) :
      Refused tag (.malformed (.partialTag (String.ofList tag.source)) tag.line)

/-- How the output of a tag fails: its head has operands and names no helper, or the helper it names
gives an error. -/
inductive Tag.Fails (data : Value) (tag : Tag) : TemplateError → Prop
  | unknownHelper {source expression} (plain : tag.Unescaped)
      (asks : tag.Asks (.output source)) (parsed : Expression.parse source = .ok expression)
      (unnamed : Helper.ofName? expression.head = none) (operands : expression.isBare = false) :
      Fails data tag (.unknownHelper expression.head tag.line)
  | helper {source expression called cause} (plain : tag.Unescaped)
      (asks : tag.Asks (.output source)) (parsed : Expression.parse source = .ok expression)
      (named : Helper.ofName? expression.head = some called)
      (applied : called.apply (expression.call data).1 (expression.call data).2 = .error cause) :
      Fails data tag (.helper expression.head tag.line cause)

def FirstError (errors : Tag → TemplateError → Prop) (tags : List Tag) (error : TemplateError) :
    Prop :=
  ∃ front tag back, tags = front ++ tag :: back ∧ errors tag error ∧
    ∀ earlier ∈ front, ∀ other, ¬ errors earlier other

/-- The error that a text has with some data. A tag that never closes comes before all others, and
what can be told without the data comes before what cannot. -/
inductive Attributed (source : List Char) (data : Value) : TemplateError → Prop
  | unclosed {tags line} (scanned : Scanned source 0 tags (some line)) :
      Attributed source data (.malformed .unclosedTag line)
  | refused {tags error} (scanned : Scanned source 0 tags none)
      (first : FirstError Tag.Refused tags error) : Attributed source data error
  | failed {tags error} (scanned : Scanned source 0 tags none)
      (accepted : ∀ tag ∈ tags, ∀ other, ¬ tag.Refused other)
      (first : FirstError (Tag.Fails data) tags error) : Attributed source data error

section
variable {data : Value} {errors : Tag → TemplateError → Prop} {tag : Tag} {tags : List Tag}
  {error : TemplateError}

theorem not_firstError_nil : ¬ FirstError errors [] error := by
  rintro ⟨front, tag, back, shape, -⟩
  simp at shape

theorem firstError_cons_iff {rest : List Tag} :
    FirstError errors (tag :: rest) error ↔
      errors tag error ∨ (∀ other, ¬ errors tag other) ∧ FirstError errors rest error := by
  constructor
  · rintro ⟨front, found, back, shape, wrong, before⟩
    cases front with
    | nil =>
        cases shape
        exact .inl wrong
    | cons earlier others =>
        cases shape
        refine .inr ⟨before tag List.mem_cons_self, others, found, back, rfl, wrong, ?_⟩
        intro other member
        exact before other (List.mem_cons_of_mem _ member)
  · rintro (wrong | ⟨clear, front, found, back, rfl, wrong, before⟩)
    · exact ⟨[], tag, rest, rfl, wrong, by simp⟩
    · refine ⟨tag :: front, found, back, rfl, wrong, ?_⟩
      intro earlier member
      rcases List.mem_cons.mp member with rfl | later
      · exact clear
      · exact before earlier later

theorem clear_of_not_firstError (clear : ∀ error, ¬ FirstError errors tags error) :
    ∀ tag ∈ tags, ∀ error, ¬ errors tag error := by
  induction tags with
  | nil => simp
  | cons tag rest ih =>
      have here : ∀ error, ¬ errors tag error := by
        intro error wrong
        exact clear error (firstError_cons_iff.mpr (.inl wrong))
      have later := ih fun error first => clear error (firstError_cons_iff.mpr (.inr ⟨here, first⟩))
      intro other member
      rcases List.mem_cons.mp member with rfl | member
      · exact here
      · exact later other member

theorem not_firstError_of_clear (clear : ∀ tag ∈ tags, ∀ error, ¬ errors tag error) :
    ¬ FirstError errors tags error := by
  rintro ⟨front, tag, back, rfl, wrong, -⟩
  exact clear tag (by simp) error wrong

theorem Tag.Refused.plain (refused : tag.Refused error) : tag.Unescaped := by
  cases refused with
  | expression plain _ _ => exact plain
  | sectionStart plain _ => exact plain
  | sectionEnd plain _ => exact plain
  | inclusion plain _ => exact plain

theorem nodesOfTag_eq_error_iff : Template.nodesOfTag tag = .error error ↔ tag.Refused error := by
  unfold Template.nodesOfTag Template.nodeOfTag
  cases escaped : tag.isEscaped with
  | true =>
      constructor
      · intro made
        simp at made
      · intro refused
        exact absurd (escaped.symm.trans (Tag.isEscaped_eq_false_iff.mpr refused.plain)) (by decide)
  | false =>
      have plain := Tag.isEscaped_eq_false_iff.mp escaped
      constructor
      · intro made
        simp only [Bool.false_eq_true, ↓reduceIte] at made
        cases kind : tag.kind with
        | comment => simp [kind, Except.map] at made
        | output source =>
            cases parsed : Expression.parse source with
            | ok expression => simp [kind, parsed, Except.map] at made
            | error fault =>
                simp only [kind, parsed, Except.map, Except.error.injEq] at made
                exact made ▸ .expression plain (Tag.kind_eq_iff.mp kind) parsed
        | sectionStart keyword arguments =>
            simp only [kind, Except.map, Except.error.injEq] at made
            exact made ▸ .sectionStart plain (Tag.kind_eq_iff.mp kind)
        | sectionEnd keyword =>
            simp only [kind, Except.map, Except.error.injEq] at made
            exact made ▸ .sectionEnd plain (Tag.kind_eq_iff.mp kind)
        | inclusion name =>
            simp only [kind, Except.map, Except.error.injEq] at made
            exact made ▸ .inclusion plain (Tag.kind_eq_iff.mp kind)
      · intro refused
        cases refused with
        | expression _ asks parsed => simp [Tag.kind_eq_iff.mpr asks, parsed, Except.map]
        | sectionStart _ asks => simp [Tag.kind_eq_iff.mpr asks, Except.map]
        | sectionEnd _ asks => simp [Tag.kind_eq_iff.mpr asks, Except.map]
        | inclusion _ asks => simp [Tag.kind_eq_iff.mpr asks, Except.map]

theorem nodesOfTags_eq_error_iff :
    Template.nodesOfTags tags = .error error ↔ FirstError Tag.Refused tags error := by
  induction tags with
  | nil => simp [Template.nodesOfTags, not_firstError_nil]
  | cons tag rest ih =>
      rw [firstError_cons_iff, Template.nodesOfTags, ← ih]
      simp only [← nodesOfTag_eq_error_iff]
      cases Template.nodesOfTag tag with
      | error fault => simp
      | ok nodes => cases Template.nodesOfTags rest <;> simp

theorem renderNodes_append (nodes rest : List Node) :
    Template.renderNodes data (nodes ++ rest) =
      match Template.renderNodes data nodes with
      | .error fault => .error fault
      | .ok text => (Template.renderNodes data rest).map (text ++ ·) := by
  induction nodes with
  | nil => cases outcome : Template.renderNodes data rest <;>
      simp [Template.renderNodes, outcome, Except.map]
  | cons node others ih =>
      simp only [List.cons_append, Template.renderNodes, ih]
      cases node.render data with
      | error fault => rfl
      | ok text =>
          cases Template.renderNodes data others with
          | error fault => rfl
          | ok second => cases Template.renderNodes data rest <;> simp [Except.map]

theorem renderOutput_eq_error_iff (expression : Expression) (raw : Bool) (line : Nat) :
    (Node.output expression raw line).render data = .error error ↔
      expression.evaluate data line = .error error := by
  simp only [Node.render]
  cases expression.evaluate data line with
  | error fault => simp
  | ok value => cases value <;> simp

theorem Tag.fails_iff : tag.Fails data error ↔ tag.Unescaped ∧
    ∃ source expression, tag.kind = .output source ∧ Expression.parse source = .ok expression ∧
      expression.evaluate data tag.line = .error error := by
  constructor
  · intro fails
    cases fails with
    | unknownHelper plain asks parsed unnamed operands =>
        refine ⟨plain, _, _, Tag.kind_eq_iff.mpr asks, parsed, ?_⟩
        simp [Expression.evaluate, unnamed, operands]
    | helper plain asks parsed named applied =>
        refine ⟨plain, _, _, Tag.kind_eq_iff.mpr asks, parsed, ?_⟩
        simp only [Expression.evaluate, named, applied]
  · rintro ⟨plain, source, expression, kind, parsed, failed⟩
    unfold Expression.evaluate at failed
    split at failed
    · next helper named =>
        split at failed
        · simp at failed
        · next cause applied =>
            cases failed
            exact .helper plain (Tag.kind_eq_iff.mp kind) parsed named applied
    · next unnamed =>
        split at failed
        · simp at failed
        · next operands =>
            cases failed
            exact .unknownHelper plain (Tag.kind_eq_iff.mp kind) parsed unnamed (by simpa using operands)

theorem renderTag_eq_error_iff {nodes : List Node} (made : Template.nodesOfTag tag = .ok nodes) :
    Template.renderNodes data nodes = .error error ↔ tag.Fails data error := by
  rw [Tag.fails_iff, ← Tag.isEscaped_eq_false_iff]
  unfold Template.nodesOfTag at made
  cases escaped : tag.isEscaped with
  | true =>
      simp only [escaped, ↓reduceIte, Except.ok.injEq] at made
      subst made
      simp [Template.renderNodes, Node.render]
  | false =>
      simp only [escaped, Bool.false_eq_true, ↓reduceIte, Template.nodeOfTag] at made
      cases kind : tag.kind with
      | comment =>
          simp only [kind, Except.map, Except.ok.injEq] at made
          subst made
          simp [Template.renderNodes, Node.render]
      | output source =>
          cases parsed : Expression.parse source with
          | error fault => simp [kind, parsed, Except.map] at made
          | ok expression =>
              simp only [kind, parsed, Except.map, Except.ok.injEq] at made
              subst made
              have whole : Template.renderNodes data [.text (Template.textBefore tag),
                    .output expression tag.raw tag.line] = .error error ↔
                  expression.evaluate data tag.line = .error error := by
                rw [← renderOutput_eq_error_iff expression tag.raw tag.line]
                simp only [Template.renderNodes, Node.render.eq_1]
                cases (Node.output expression tag.raw tag.line).render data <;> simp
              rw [whole]
              simp [parsed]
      | sectionStart keyword arguments => simp [kind, Except.map] at made
      | sectionEnd keyword => simp [kind, Except.map] at made
      | inclusion name => simp [kind, Except.map] at made

theorem renderTags_eq_error_iff {nodes : List Node} (made : Template.nodesOfTags tags = .ok nodes) :
    Template.renderNodes data nodes = .error error ↔ FirstError (Tag.Fails data) tags error := by
  induction tags generalizing nodes with
  | nil =>
      cases made
      simp [Template.renderNodes, not_firstError_nil]
  | cons tag rest ih =>
      rw [Template.nodesOfTags] at made
      split at made
      · simp at made
      next first madeFirst =>
      split at made
      · simp at made
      next others madeOthers =>
      cases made
      have here : ∀ error, Template.renderNodes data first = .error error ↔ tag.Fails data error :=
        fun error => renderTag_eq_error_iff madeFirst
      rw [firstError_cons_iff, ← ih madeOthers, renderNodes_append]
      simp only [← here]
      cases Template.renderNodes data first with
      | error fault => simp
      | ok text => cases Template.renderNodes data others <;> simp [Except.map]

theorem renderTemplate_eq_error_iff {template : Template} :
    template.render data = .error error ↔
      Template.renderNodes data template.nodes = .error error := by
  rw [Template.render]
  cases Template.renderNodes data template.nodes <;> simp [Except.map]

theorem render_of_unclosed {source : String} {line : Nat}
    (unclosed : (Scan.of source.toList).unclosed = some line) :
    render source data = .error (.malformed .unclosedTag line) := by
  simp only [render, Template.parse, Scan.complete, unclosed]

theorem render_of_closed {source : String} (closed : (Scan.of source.toList).unclosed = none) :
    render source data = .error error ↔
      FirstError Tag.Refused (Scan.of source.toList).tags error ∨
        (∀ tag ∈ (Scan.of source.toList).tags, ∀ other, ¬ tag.Refused other) ∧
          FirstError (Tag.Fails data) (Scan.of source.toList).tags error := by
  simp only [render, Template.parse, Scan.complete, closed]
  cases made : Template.nodesOfTags (Scan.of source.toList).tags with
  | error fault =>
      have refused := nodesOfTags_eq_error_iff.mp made
      simp only [← nodesOfTags_eq_error_iff, made, Except.error.injEq]
      constructor
      · exact .inl
      · rintro (same | ⟨accepted, -⟩)
        · exact same
        · exact absurd refused (not_firstError_of_clear accepted)
  | ok nodes =>
      have none : ∀ other, ¬ FirstError Tag.Refused (Scan.of source.toList).tags other := by
        intro other refused
        rw [nodesOfTags_eq_error_iff.mpr refused] at made
        cases made
      have trailing : Template.renderNodes data
            (nodes ++ [.text (Scan.of source.toList).trailing]) = .error error ↔
          Template.renderNodes data nodes = .error error := by
        rw [renderNodes_append]
        cases Template.renderNodes data nodes with
        | error fault => rfl
        | ok text => simp [Template.renderNodes, Node.render, Except.map]
      rw [renderTemplate_eq_error_iff, trailing, renderTags_eq_error_iff made]
      constructor
      · intro failed
        exact .inr ⟨clear_of_not_firstError none, failed⟩
      · rintro (refused | ⟨-, failed⟩)
        · exact absurd refused (none error)
        · exact failed

theorem render_eq_error_iff {source : String} :
    render source data = .error error ↔ Attributed source.toList data error := by
  have scanned := Scan.of_scanned source.toList
  cases unclosed : (Scan.of source.toList).unclosed with
  | some line =>
      rw [unclosed] at scanned
      rw [render_of_unclosed unclosed]
      constructor
      · intro same
        cases same
        exact .unclosed scanned
      · intro attributed
        cases attributed with
        | unclosed scannedToo =>
            cases (scanned.unique scannedToo).2
            rfl
        | refused scannedToo _ => cases (scanned.unique scannedToo).2
        | failed scannedToo _ _ => cases (scanned.unique scannedToo).2
  | none =>
      rw [unclosed] at scanned
      rw [render_of_closed unclosed]
      constructor
      · rintro (first | ⟨accepted, first⟩)
        · exact .refused scanned first
        · exact .failed scanned accepted first
      · intro attributed
        cases attributed with
        | unclosed scannedToo => cases (scanned.unique scannedToo).2
        | refused scannedToo first =>
            cases (scanned.unique scannedToo).1
            exact .inl first
        | failed scannedToo accepted first =>
            cases (scanned.unique scannedToo).1
            exact .inr ⟨accepted, first⟩

theorem Leftmost.Scanned.lines {source : List Char} {cursor : Nat} {unclosed : Option Nat}
    (scanned : Scanned source cursor tags unclosed) :
    (∀ tag ∈ tags, ∃ front back, source = front ++ tag.source ++ back ∧
        tag.start = Text.byteLength front ∧ tag.line = 1 + front.count '\n') ∧
      ∀ line, unclosed = some line → ∃ start, BracesAt source '\x7b' 2 start ∧
        (∀ index, ¬ Closes source start index) ∧ line = 1 + (source.take start).count '\n' := by
  induction scanned with
  | plain _ => exact ⟨by simp, by simp⟩
  | unclosed opens never =>
      refine ⟨by simp, ?_⟩
      intro line same
      cases same
      exact ⟨_, opens.braces, never, rfl⟩
  | @tag cursor start close _ _ opens closes _ _ ih =>
      refine ⟨?_, ih.2⟩
      intro tag member
      rcases List.mem_cons.mp member with rfl | later
      · refine ⟨source.take start, source.drop (tagEnd source start close), ?_, rfl, rfl⟩
        rw [source_tagAt opens closes, take_append_between closes.start_le,
          List.take_append_drop]
      · exact ih.1 tag later

end

/-- Rendering gives the error that a text has with its data, and a text when it has none. Lines are
counted up to the opening braces of a tag. -/
theorem render_attribution (source : String) (data : Value) :
    (∀ error, render source data = .error error ↔ Attributed source.toList data error) ∧
      ((∃ text, render source data = .ok text) ↔ ∀ error, ¬ Attributed source.toList data error) ∧
      ∀ tags unclosed, Scanned source.toList 0 tags unclosed →
        (∀ tag ∈ tags, ∃ front back, source.toList = front ++ tag.source ++ back ∧
          tag.start = Text.byteLength front ∧ tag.line = 1 + front.count '\n') ∧
        ∀ line, unclosed = some line → ∃ start, BracesAt source.toList '\x7b' 2 start ∧
          (∀ index, ¬ Closes source.toList start index) ∧
          line = 1 + (source.toList.take start).count '\n' := by
  refine ⟨fun error => render_eq_error_iff, ?_, fun tags unclosed scanned => scanned.lines⟩
  simp only [← render_eq_error_iff]
  cases render source data with
  | error fault => simp
  | ok text => simp

example : render "\x7b\x7ba b\x7d\x7d\n\x7b\x7b#if\x7d\x7d\n \x7b\x7bx" .null =
    .error (.malformed .unclosedTag 3) := by decide +kernel

end TagTemplate
