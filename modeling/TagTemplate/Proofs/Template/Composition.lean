import Mathlib.Data.List.Basic
import TagTemplate.Proofs.Template.Seam
import TagTemplate.Template.Render

/-! Rendering goes tag by tag, so that a text in two parts renders as the parts do. -/

namespace TagTemplate

inductive Tag.Shows (data : Value) (tag : Tag) : List Char → Prop
  | literal (escaped : tag.isEscaped = true) : Shows data tag tag.source
  | nothing (plain : tag.isEscaped = false) (kind : tag.kind = .comment) : Shows data tag []
  | value {source expression shown} (plain : tag.isEscaped = false)
      (kind : tag.kind = .output source) (parsed : Expression.parse source = .ok expression)
      (rendered : (Node.output expression tag.raw tag.line).render data = .ok shown) :
      Shows data tag shown

inductive ShowsAll (data : Value) : List Tag → List Char → Prop
  | nil : ShowsAll data [] []
  | cons {tag rest shown others} (first : tag.Shows data shown)
      (later : ShowsAll data rest others) :
      ShowsAll data (tag :: rest) (Template.textBefore tag ++ shown ++ others)

def Scan.Shows (data : Value) (scan : Scan) (shown : List Char) : Prop :=
  scan.unclosed = none ∧ ∃ front, ShowsAll data scan.tags front ∧ shown = front ++ scan.trailing

section
variable {data : Value}

theorem renderNodes_cons_iff {node : Node} {rest : List Node} {shown : List Char} :
    Template.renderNodes data (node :: rest) = .ok shown ↔
      ∃ first others, node.render data = .ok first ∧
        Template.renderNodes data rest = .ok others ∧ shown = first ++ others := by
  rw [Template.renderNodes]
  cases node.render data with
  | error fault => simp
  | ok first => cases Template.renderNodes data rest <;> simp [eq_comm]

theorem renderNodes_append_iff {nodes rest : List Node} {shown : List Char} :
    Template.renderNodes data (nodes ++ rest) = .ok shown ↔
      ∃ first others, Template.renderNodes data nodes = .ok first ∧
        Template.renderNodes data rest = .ok others ∧ shown = first ++ others := by
  induction nodes generalizing shown with
  | nil => simp [Template.renderNodes]
  | cons node between ih =>
      rw [List.cons_append, renderNodes_cons_iff]
      constructor
      · rintro ⟨first, _, rendered, renderedToo, rfl⟩
        obtain ⟨second, third, middle, last, rfl⟩ := ih.mp renderedToo
        exact ⟨first ++ second, third, renderNodes_cons_iff.mpr ⟨_, _, rendered, middle, rfl⟩, last,
          (List.append_assoc _ _ _).symm⟩
      · rintro ⟨_, third, rendered, last, rfl⟩
        obtain ⟨first, second, front, middle, rfl⟩ := renderNodes_cons_iff.mp rendered
        exact ⟨first, second ++ third, front, ih.mpr ⟨_, _, middle, last, rfl⟩,
          List.append_assoc _ _ _⟩

theorem rendersNode_iff {tag : Tag} {shown : List Char} (plain : tag.isEscaped = false) :
    (∃ parts, Template.nodeOfTag tag = .ok parts ∧
        Template.renderNodes data parts = .ok shown) ↔ tag.Shows data shown := by
  constructor
  · rintro ⟨parts, made, rendered⟩
    unfold Template.nodeOfTag at made
    split at made
    · next kind =>
        cases made
        cases rendered
        exact .nothing plain kind
    · next source kind =>
        split at made
        · next expression parsed =>
            cases made
            obtain ⟨first, others, head, rest, rfl⟩ := renderNodes_cons_iff.mp rendered
            cases rest
            rw [List.append_nil]
            exact .value plain kind parsed head
        · simp at made
    · simp at made
    · simp at made
    · simp at made
  · intro shows
    cases shows with
    | literal escaped => simp [plain] at escaped
    | nothing _ kind => exact ⟨[], by rw [Template.nodeOfTag, kind], rfl⟩
    | @value source expression _ _ kind parsed rendered =>
        refine ⟨[.output expression tag.raw tag.line],
          by simp only [Template.nodeOfTag, kind, parsed], ?_⟩
        exact renderNodes_cons_iff.mpr ⟨_, [], rendered, rfl, (List.append_nil _).symm⟩

theorem rendersTag_iff {tag : Tag} {text : List Char} :
    (∃ nodes, Template.nodesOfTag tag = .ok nodes ∧
        Template.renderNodes data nodes = .ok text) ↔
      ∃ shown, tag.Shows data shown ∧ text = Template.textBefore tag ++ shown := by
  unfold Template.nodesOfTag
  cases escaped : tag.isEscaped with
  | true =>
      constructor
      · rintro ⟨nodes, made, rendered⟩
        cases made
        cases rendered
        exact ⟨tag.source, .literal escaped, by rw [List.append_nil]⟩
      · rintro ⟨shown, shows, rfl⟩
        cases shows with
        | literal _ => exact ⟨_, rfl, by simp [Template.renderNodes, Node.render]⟩
        | nothing plain _ => simp [escaped] at plain
        | value plain _ _ _ => simp [escaped] at plain
  | false =>
      constructor
      · rintro ⟨nodes, made, rendered⟩
        cases parts : Template.nodeOfTag tag with
        | error fault => simp [parts, Except.map] at made
        | ok others =>
            simp only [parts, Except.map, Bool.false_eq_true, ↓reduceIte, Except.ok.injEq] at made
            subst made
            obtain ⟨_, shown, head, rest, rfl⟩ := renderNodes_cons_iff.mp rendered
            cases head
            exact ⟨shown, (rendersNode_iff escaped).mp ⟨others, parts, rest⟩, rfl⟩
      · rintro ⟨shown, shows, rfl⟩
        obtain ⟨parts, made, rendered⟩ := (rendersNode_iff escaped).mpr shows
        refine ⟨.text (Template.textBefore tag) :: parts, by rw [made]; rfl, ?_⟩
        exact renderNodes_cons_iff.mpr ⟨_, _, rfl, rendered, rfl⟩

theorem rendersTags_iff {tags : List Tag} {text : List Char} :
    (∃ nodes, Template.nodesOfTags tags = .ok nodes ∧
        Template.renderNodes data nodes = .ok text) ↔ ShowsAll data tags text := by
  induction tags generalizing text with
  | nil =>
      constructor
      · rintro ⟨nodes, made, rendered⟩
        cases made
        cases rendered
        exact .nil
      · intro shows
        cases shows
        exact ⟨[], rfl, rfl⟩
  | cons tag rest ih =>
      constructor
      · rintro ⟨nodes, made, rendered⟩
        rw [Template.nodesOfTags] at made
        split at made
        · simp at made
        next first madeFirst =>
        split at made
        · simp at made
        next others madeOthers =>
        cases made
        obtain ⟨front, back, head, tail, rfl⟩ := renderNodes_append_iff.mp rendered
        obtain ⟨shown, shows, rfl⟩ := rendersTag_iff.mp ⟨first, madeFirst, head⟩
        exact .cons shows (ih.mp ⟨others, madeOthers, tail⟩)
      · intro shows
        cases shows with
        | cons first later =>
            obtain ⟨nodes, made, head⟩ := rendersTag_iff.mpr ⟨_, first, rfl⟩
            obtain ⟨others, madeToo, tail⟩ := ih.mpr later
            refine ⟨nodes ++ others, by simp only [Template.nodesOfTags, made, madeToo], ?_⟩
            exact renderNodes_append_iff.mpr ⟨_, _, head, tail, rfl⟩

theorem renderTemplate_eq_ok_iff {template : Template} {shown : String} :
    template.render data = .ok shown ↔
      Template.renderNodes data template.nodes = .ok shown.toList := by
  rw [Template.render]
  cases Template.renderNodes data template.nodes with
  | error fault => simp [Except.map]
  | ok text =>
      simp only [Except.map, Except.ok.injEq]
      constructor
      · rintro rfl
        exact String.toList_ofList.symm
      · rintro rfl
        exact String.ofList_toList

theorem render_eq_ok_iff {source shown : String} :
    render source data = .ok shown ↔ (Scan.of source.toList).Shows data shown.toList := by
  unfold render Template.parse Scan.complete Scan.Shows
  simp only
  cases unclosed : (Scan.of source.toList).unclosed with
  | some line => simp
  | none =>
      simp only [true_and, ← rendersTags_iff]
      cases made : Template.nodesOfTags (Scan.of source.toList).tags with
      | error fault => simp
      | ok nodes =>
          simp only [renderTemplate_eq_ok_iff, renderNodes_append_iff, Except.ok.injEq,
            exists_eq_left']
          constructor
          · rintro ⟨front, trailing, rendered, last, whole⟩
            cases last
            exact ⟨front, rendered, by simpa using whole⟩
          · rintro ⟨front, rendered, whole⟩
            exact ⟨front, _, rendered, rfl, by simpa using whole⟩

theorem evaluate_line {expression : Expression} {line : Nat} {value : Option Value}
    (evaluated : expression.evaluate data line = .ok value) (other : Nat) :
    expression.evaluate data other = .ok value := by
  unfold Expression.evaluate at evaluated ⊢
  split at evaluated
  · split at evaluated
    · exact evaluated
    · simp at evaluated
  · split at evaluated
    · next bare => rwa [if_pos bare]
    · simp at evaluated

theorem renderOutput_line {expression : Expression} {raw : Bool} {line : Nat} {shown : List Char}
    (rendered : (Node.output expression raw line).render data = .ok shown) (other : Nat) :
    (Node.output expression raw other).render data = .ok shown := by
  simp only [Node.render] at rendered ⊢
  split at rendered
  · simp at rendered
  · next evaluated => rwa [evaluate_line evaluated other]
  · next value evaluated => rwa [evaluate_line evaluated other]

theorem Tag.Shows.moved {tag other : Tag} {shown : List Char} (shows : tag.Shows data shown)
    (raw : other.raw = tag.raw) (content : other.content = tag.content)
    (backslashes : other.backslashes = tag.backslashes) : other.Shows data shown := by
  have escaped : other.isEscaped = tag.isEscaped := by rw [isEscaped, backslashes, isEscaped]
  have same : other.kind = tag.kind := by rw [Tag.kind, raw, content, Tag.kind]
  cases shows with
  | literal literal =>
      have written : other.source = tag.source := by rw [source, raw, content, source]
      rw [← written]
      exact .literal (escaped.trans literal)
  | nothing plain kind => exact .nothing (escaped.trans plain) (same.trans kind)
  | value plain kind parsed rendered =>
      refine .value (escaped.trans plain) (same.trans kind) parsed ?_
      rw [raw]
      exact renderOutput_line rendered other.line

theorem showsAll_append_iff {tags rest : List Tag} {shown : List Char} :
    ShowsAll data (tags ++ rest) shown ↔
      ∃ first others, ShowsAll data tags first ∧ ShowsAll data rest others ∧
        shown = first ++ others := by
  induction tags generalizing shown with
  | nil =>
      constructor
      · intro shows
        exact ⟨[], shown, .nil, shows, rfl⟩
      · rintro ⟨_, others, shows, showsToo, rfl⟩
        cases shows
        exact showsToo
  | cons tag between ih =>
      constructor
      · intro shows
        cases shows with
        | cons head later =>
            obtain ⟨first, others, middle, last, rfl⟩ := ih.mp later
            exact ⟨_, others, .cons head middle, last, (List.append_assoc _ _ _).symm⟩
      · rintro ⟨_, others, shows, last, rfl⟩
        cases shows with
        | cons head middle =>
            rw [List.append_assoc]
            exact .cons head (ih.mpr ⟨_, others, middle, last, rfl⟩)

theorem showsAll_behind (front : List Char) {tags : List Tag} {shown : List Char} :
    ShowsAll data (tags.map (Tag.behind front)) shown ↔ ShowsAll data tags shown := by
  induction tags generalizing shown with
  | nil => rfl
  | cons tag rest ih =>
      constructor
      · intro shows
        cases shows with
        | cons head later => exact .cons (head.moved rfl rfl rfl) (ih.mp later)
      · intro shows
        cases shows with
        | cons head later =>
            have moved : (tag.behind front).Shows data _ := head.moved rfl rfl rfl
            exact .cons moved (ih.mpr later)

theorem backslashes_after {tag : Tag} {text : List Char}
    (counted : tag.backslashes = Leftmost.backslashes tag.before)
    (solid : text.getLast? ≠ some '\\') : (tag.after text).backslashes = tag.backslashes := by
  rw [counted]
  exact Leftmost.backslashes_behind solid tag.before

theorem textBefore_after {tag : Tag} {text : List Char}
    (counted : tag.backslashes = Leftmost.backslashes tag.before)
    (solid : text.getLast? ≠ some '\\') :
    Template.textBefore (tag.after text) = text ++ Template.textBefore tag := by
  have within : tag.backslashes ≤ tag.before.length := counted ▸ Leftmost.backslashes_le tag.before
  have count : (text ++ tag.before).length - tag.backslashes =
      text.length + (tag.before.length - tag.backslashes) := by
    rw [List.length_append]
    omega
  rw [Template.textBefore, backslashes_after counted solid]
  simp only [Tag.after, count, Leftmost.take_behind, List.append_assoc, Template.textBefore]

theorem showsAll_after {tag : Tag} {rest : List Tag} {text shown : List Char}
    (counted : tag.backslashes = Leftmost.backslashes tag.before)
    (solid : text.getLast? ≠ some '\\') :
    ShowsAll data (tag.after text :: rest) shown ↔
      ∃ others, ShowsAll data (tag :: rest) others ∧ shown = text ++ others := by
  have same := backslashes_after counted solid
  constructor
  · intro shows
    cases shows with
    | cons head later =>
        refine ⟨_, .cons (head.moved rfl rfl same.symm) later, ?_⟩
        rw [textBefore_after counted solid, List.append_assoc, List.append_assoc,
          List.append_assoc]
  · rintro ⟨others, shows, rfl⟩
    cases shows with
    | @cons _ _ first second head later =>
        have moved : (tag.after text).Shows data first := head.moved rfl rfl same
        simpa only [textBefore_after counted solid, List.append_assoc] using
          ShowsAll.cons moved later

theorem showsAll_seam {front text trailing shown : List Char} {tags : List Tag}
    (counted : ∀ tag ∈ tags, tag.backslashes = Leftmost.backslashes tag.before)
    (solid : text.getLast? ≠ some '\\') :
    (∃ first, ShowsAll data ((tags.map (Tag.behind front)).modifyHead (Tag.after text)) first ∧
        shown = first ++ ((if tags = [] then text else []) ++ trailing)) ↔
      ∃ first, ShowsAll data tags first ∧ shown = text ++ (first ++ trailing) := by
  -- without a tag the text belongs to what trails, and otherwise to the first tag
  cases tags with
  | nil =>
      constructor
      · rintro ⟨_, shows, rfl⟩
        cases shows
        exact ⟨[], .nil, rfl⟩
      · rintro ⟨_, shows, rfl⟩
        cases shows
        exact ⟨[], .nil, rfl⟩
  | cons tag rest =>
      have head : (tag.behind front).backslashes =
          Leftmost.backslashes (tag.behind front).before := counted tag (by simp)
      rw [List.map_cons, List.modifyHead_cons]
      constructor
      · rintro ⟨_, shows, rfl⟩
        obtain ⟨first, showsToo, rfl⟩ := (showsAll_after head solid).mp shows
        exact ⟨first, (showsAll_behind front).mp showsToo, by simp⟩
      · rintro ⟨first, shows, rfl⟩
        have behind := (showsAll_behind front).mpr shows
        exact ⟨_, (showsAll_after head solid).mpr ⟨first, behind, rfl⟩, by simp⟩

theorem Scan.getLast?_trailing {source : List Char} {c : Char}
    (closed : (Scan.of source).unclosed = none) (last : source.getLast? ≠ some c) :
    (Scan.of source).trailing.getLast? ≠ some c := by
  intro same
  have whole := flatMap_portion_append_trailing closed
  rw [← whole, List.getLast?_append, same] at last
  exact last rfl

theorem Scan.shows_append {front back shown : List Char}
    (closed : (Scan.of front).unclosed = none) (brace : front.getLast? ≠ some '\x7b')
    (backslash : front.getLast? ≠ some '\\') :
    (Scan.of (front ++ back)).Shows data shown ↔
      ∃ first second, (Scan.of front).Shows data first ∧ (Scan.of back).Shows data second ∧
        shown = first ++ second := by
  cases open? : (Scan.of back).unclosed with
  | some line =>
      -- a tag left open in the second text is open in both
      simp [Scan.Shows, (of_append closed brace back).2, open?]
  | none =>
      have counted := (Scan.of_scanned back).backslashes_eq
      have solid := getLast?_trailing closed backslash
      simp only [Scan.Shows, of_append_closed closed open? brace, open?, closed, true_and,
        showsAll_append_iff]
      constructor
      · rintro ⟨_, ⟨first, others, shows, showsToo, rfl⟩, rfl⟩
        obtain ⟨second, shown, same⟩ := (showsAll_seam counted solid).mp ⟨others, showsToo, rfl⟩
        refine ⟨_, _, ⟨first, shows, rfl⟩, ⟨second, shown, rfl⟩, ?_⟩
        rw [List.append_assoc, List.append_assoc, same]
      · rintro ⟨_, _, ⟨first, shows, rfl⟩, ⟨second, showsToo, rfl⟩, rfl⟩
        obtain ⟨others, shown, same⟩ := (showsAll_seam counted solid).mpr ⟨second, showsToo, rfl⟩
        refine ⟨_, ⟨first, others, shows, shown, rfl⟩, ?_⟩
        rw [List.append_assoc, List.append_assoc, same]

end

end TagTemplate
