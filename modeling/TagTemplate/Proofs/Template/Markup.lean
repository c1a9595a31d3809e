import Mathlib.Data.List.Basic
import TagTemplate.Template.Render

/-! Values in double braces add no markup to what a template renders. -/

namespace TagTemplate

namespace Markup

def isMark (c : Char) : Bool := ['<', '>', '"', '\'', '\x60', '='].contains c

def marks (text : List Char) : List Char := text.filter isMark

theorem marks_append (first second : List Char) :
    marks (first ++ second) = marks first ++ marks second := by
  simp [marks]

theorem marks_escapeChar (c : Char) : marks (escapeChar c) = [] := by
  by_cases special : c ∈ ['&', '<', '>', '"', '\'', '\x60', '=']
  · simp only [List.mem_cons, List.not_mem_nil, or_false] at special
    rcases special with rfl | rfl | rfl | rfl | rfl | rfl | rfl <;> decide
  · simp only [List.mem_cons, List.not_mem_nil, or_false, not_or] at special
    obtain ⟨amp, less, greater, quote, apostrophe, tick, equals⟩ := special
    have alone : escapeChar c = [c] := by
      simp [escapeChar, amp, less, greater, quote, apostrophe, tick, equals]
    have unmarked : isMark c = false := by
      simp [isMark, less, greater, quote, apostrophe, tick, equals]
    simp [alone, marks, unmarked]

theorem marks_escape (text : List Char) : marks (escape text) = [] := by
  induction text with
  | nil => rfl
  | cons c rest ih =>
      have split : escape (c :: rest) = escapeChar c ++ escape rest := rfl
      rw [split, marks_append, marks_escapeChar, ih, List.append_nil]

end Markup

open Markup

def Node.literal : Node → List Char
  | .text literal => literal
  | .output _ _ _ => []

def Node.isRaw : Node → Bool
  | .text _ => false
  | .output _ raw _ => raw

def Template.literal (template : Template) : List Char := template.nodes.flatMap Node.literal

def Scan.Guarded (scan : Scan) : Prop := ∀ tag ∈ scan.tags, tag.raw = true → tag.isEscaped = true

instance (scan : Scan) : Decidable scan.Guarded :=
  inferInstanceAs (Decidable (∀ tag ∈ scan.tags, tag.raw = true → tag.isEscaped = true))

theorem Node.marks_render {data : Value} {node : Node} {shown : List Char}
    (escaped : node.isRaw = false) (ok : node.render data = .ok shown) :
    marks shown = marks node.literal := by
  cases node with
  | text literal =>
      cases ok
      rfl
  | output expression raw line =>
      have escaped : raw = false := escaped
      subst escaped
      simp only [Node.render] at ok
      split at ok
      · simp at ok
      · cases ok
        rfl
      · next value _ =>
          cases ok
          exact marks_escape value.display.toList

namespace Template

theorem marks_renderNodes {data : Value} {nodes : List Node} {shown : List Char}
    (escaped : ∀ node ∈ nodes, node.isRaw = false) (ok : renderNodes data nodes = .ok shown) :
    marks shown = marks (nodes.flatMap Node.literal) := by
  induction nodes generalizing shown with
  | nil =>
      cases ok
      rfl
  | cons node rest ih =>
      simp only [renderNodes] at ok
      split at ok
      · simp at ok
      next text first =>
      split at ok
      · simp at ok
      next others later =>
      cases ok
      have head := Node.marks_render (escaped node (by simp)) first
      have tail := ih (fun other member => escaped other (List.mem_cons_of_mem _ member)) later
      rw [List.flatMap_cons, marks_append, marks_append, head, tail]

theorem isRaw_of_nodesOfTag {tag : Tag} {nodes : List Node} {node : Node}
    (guarded : tag.raw = true → tag.isEscaped = true) (ok : nodesOfTag tag = .ok nodes)
    (member : node ∈ nodes) : node.isRaw = false := by
  unfold nodesOfTag at ok
  split at ok
  · cases ok
    rcases List.mem_cons.mp member with rfl | later
    · rfl
    · cases List.mem_singleton.mp later
      rfl
  · next plain =>
      have double : tag.raw = false := by
        cases raw : tag.raw with
        | false => rfl
        | true => exact absurd (guarded raw) plain
      cases made : nodeOfTag tag with
      | error fault => simp [made, Except.map] at ok
      | ok parts =>
          simp only [made, Except.map, Except.ok.injEq] at ok
          subst ok
          rcases List.mem_cons.mp member with rfl | later
          · rfl
          unfold nodeOfTag at made
          split at made
          · cases made
            simp at later
          · split at made
            · cases made
              cases List.mem_singleton.mp later
              exact double
            · simp at made
          · simp at made
          · simp at made
          · simp at made

theorem isRaw_of_nodesOfTags {tags : List Tag} {nodes : List Node} {node : Node}
    (guarded : ∀ tag ∈ tags, tag.raw = true → tag.isEscaped = true)
    (ok : nodesOfTags tags = .ok nodes) (member : node ∈ nodes) : node.isRaw = false := by
  induction tags generalizing nodes with
  | nil =>
      cases ok
      simp at member
  | cons tag rest ih =>
      simp only [nodesOfTags] at ok
      split at ok
      · simp at ok
      next first made =>
      split at ok
      · simp at ok
      next others later =>
      cases ok
      rcases List.mem_append.mp member with head | tail
      · exact isRaw_of_nodesOfTag (guarded tag (by simp)) made head
      · exact ih (fun other within => guarded other (List.mem_cons_of_mem _ within)) later tail

theorem isRaw_of_parse {source : String} {template : Template} {node : Node}
    (guarded : (Scan.of source.toList).Guarded) (ok : parse source = .ok template)
    (member : node ∈ template.nodes) : node.isRaw = false := by
  unfold parse Scan.complete at ok
  simp only at ok
  split at ok
  · simp at ok
  next scan complete =>
  have same : scan = Scan.of source.toList := by
    split at complete
    · simp at complete
    · exact (Except.ok.inj complete).symm
  subst same
  split at ok
  · simp at ok
  next nodes made =>
  cases ok
  rcases List.mem_append.mp member with head | last
  · exact isRaw_of_nodesOfTags guarded made head
  · cases List.mem_singleton.mp last
    rfl

theorem marks_render {template : Template} {data : Value} {shown : String}
    (escaped : ∀ node ∈ template.nodes, node.isRaw = false)
    (ok : template.render data = .ok shown) : marks shown.toList = marks template.literal := by
  unfold render at ok
  cases rendered : renderNodes data template.nodes with
  | error fault => simp [rendered, Except.map] at ok
  | ok text =>
      simp only [rendered, Except.map, Except.ok.injEq] at ok
      subst ok
      rw [String.toList_ofList]
      exact marks_renderNodes escaped rendered

end Template

/-- Without tags in triple braces, but for escaped ones, all markup that is rendered is that of the
template's own text, whatever the data is and whatever helpers are called. -/
theorem render_marks_eq {source : String} {first second : Value} {shown shownToo : String}
    (guarded : (Scan.of source.toList).Guarded) (ok : render source first = .ok shown)
    (okToo : render source second = .ok shownToo) :
    marks shown.toList = marks shownToo.toList ∧
      ∃ template, Template.parse source = .ok template ∧
        marks shown.toList = marks template.literal := by
  unfold render at ok okToo
  cases parsed : Template.parse source with
  | error fault => simp [parsed] at ok
  | ok template =>
      simp only [parsed] at ok okToo
      have escaped : ∀ node ∈ template.nodes, node.isRaw = false :=
        fun node member => Template.isRaw_of_parse guarded parsed member
      have shows := Template.marks_render escaped ok
      have showsToo := Template.marks_render escaped okToo
      exact ⟨shows.trans showsToo.symm, template, rfl, shows⟩

theorem attribute_marks_eq :
    let source := "<b id=\x7b\x7bid\x7d\x7d>\x7b\x7bupper name\x7d\x7d\\\x7b\x7b\x7bid\x7d\x7d\x7d"
    let first := Value.object [("id", .string "'x'"), ("name", .string "a<b")]
    let second := Value.object [("id", .null), ("name", .string "=")]
    let shown := "<b id=&#x27;x&#x27;>A&lt;B\x7b\x7b\x7bid\x7d\x7d\x7d"
    let shownToo := "<b id=>&#x3D;\x7b\x7b\x7bid\x7d\x7d\x7d"
    (render source first = .ok shown ∧ render source second = .ok shownToo) ∧
      marks shown.toList = marks shownToo.toList ∧
        ∃ template, Template.parse source = .ok template ∧
          marks shown.toList = marks template.literal := by
  intro source first second shown shownToo
  have guarded : (Scan.of source.toList).Guarded := by decide +kernel
  have ok : render source first = .ok shown := by decide +kernel
  have okToo : render source second = .ok shownToo := by decide +kernel
  exact ⟨⟨ok, okToo⟩, render_marks_eq guarded ok okToo⟩

end TagTemplate
