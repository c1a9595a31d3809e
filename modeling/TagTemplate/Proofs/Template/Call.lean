import Mathlib.Data.List.Basic
import TagTemplate.Proofs.Template.Literal
import TagTemplate.Proofs.Template.Lone
import TagTemplate.Template.Render

/-! A tag that calls a helper with literals renders what the helper makes of their values. -/

namespace TagTemplate

open Leftmost Expression

def Tag.alone (content : List Char) : Tag := ⟨[], 0, 0, 1, true, content⟩

section
variable {content : List Char}

theorem scan_alone (unbroken : ¬ ['\x7d', '\x7d', '\x7d'] <:+: content)
    (last : content.getLast? ≠ some '\x7d') :
    Scan.of (Tag.alone content).source = ⟨[Tag.alone content], [], none⟩ := by
  have standalone : Standalone true content := by
    refine ⟨by simp, by simp, fun front closing other => ?_⟩
    obtain ⟨more, rfl⟩ := prefix_of_closing closing
    have some : more ≠ [] := fun none => other (by rw [none, List.append_nil])
    rw [List.append_assoc, List.prefix_append_right_inj] at closing
    -- the braces are within the content, or the content ends with some of them
    rcases List.prefix_or_prefix_of_prefix closing (List.prefix_append more _) with all | few
    · exact absurd (all.isInfix.trans (List.suffix_append front more).isInfix) unbroken
    · have brace : more.getLast some = '\x7d' :=
        List.eq_of_mem_replicate (few.subset (List.getLast_mem some))
      rw [List.getLast?_append_of_ne_nil front some, List.getLast?_eq_some_getLast some, brace] at last
      exact absurd rfl last
  exact standalone.scan

end

structure Call where
  helper : Helper
  positional : List Literal
  named : List (Key × Literal)

namespace Call

def words (call : Call) : List (List Char) :=
  call.helper.name.toList :: (call.positional.map Literal.written ++
    call.named.map fun entry => entry.1.assigned entry.2)

def content (call : Call) : List Char := List.intercalate [' '] call.words

def source (call : Call) : String := String.ofList (Tag.alone call.content).source

def context (call : Call) (data : Value) : Value :=
  match call.positional with
  | [] => data
  | first :: _ => first.value

def arguments (call : Call) : Arguments where
  params := call.positional.tail.map Literal.value
  hash := Fields.ofList
    (call.named.map fun entry => (String.ofList entry.1.letters, entry.2.value))

def result (call : Call) (data : Value) : Except HelperError (Option Value) :=
  call.helper.apply (call.context data) call.arguments

def hash (call : Call) : List (String × Operand) :=
  call.named.map fun entry => (String.ofList entry.1.letters, .literal entry.2.value)

end Call

namespace Call

theorem endsSolid_content (call : Call) : EndsSolid call.content := by
  refine endsSolid_intercalate call.helper.isName_name.endsSolid fun word member => ?_
  rcases List.mem_append.mp member with literals | entries
  · obtain ⟨literal, _, rfl⟩ := List.mem_map.mp literals
    exact endsSolid_written literal
  · obtain ⟨entry, _, rfl⟩ := List.mem_map.mp entries
    rw [Key.assigned, List.append_cons]
    exact (endsSolid_written entry.2).append _

theorem trim_content (call : Call) : Text.trim call.content = call.content := by
  refine Text.trim_eq_self ?_ call.endsSolid_content.getLast?.1
  have name := call.helper.isName_name
  obtain ⟨rest, shape⟩ := prefix_intercalate call.helper.name.toList _
  obtain ⟨c, others, first⟩ := List.exists_cons_of_ne_nil name.named
  have member := List.all_eq_true.mp name.all c (by simp [first])
  rw [content, words, ← shape, first]
  simp [(isKeyChar_plain member).1]

theorem parse_content (call : Call) :
    ∃ target, Expression.parse call.content = .ok ⟨call.helper.name, target,
      call.positional.map fun literal => .literal literal.value, call.hash⟩ := by
  have readable := call.helper.operand_name
  have split : words? call.content = some call.words := by
    refine words?_intercalate call.helper.isName_name.inWord fun word member => ?_
    rcases List.mem_append.mp member with literals | entries
    · obtain ⟨literal, _, rfl⟩ := List.mem_map.mp literals
      exact literal.inWord
    · obtain ⟨entry, _, rfl⟩ := List.mem_map.mp entries
      exact entry.1.inWord entry.2
  have unnamed := namedPair?_of_isName call.helper.isName_name
  have positional := operands_positional Literal.written (fun literal => .literal literal.value) []
    call.positional (call.named.map fun entry => entry.1.assigned entry.2) namedPair?_written
    operand_written
  have named := operands_named (fun entry : Key × Literal => entry.2.written)
    (fun entry => .literal entry.2.value) Prod.fst
    (call.positional.map fun literal => .literal literal.value) [] call.named
    fun entry => operand_written entry.2
  have read := positional.trans named
  refine ⟨.path [call.helper.name], ?_⟩
  simp only [Expression.parse, split, words, ofWords, unnamed, read, readable, String.ofList_toList]
  rfl

theorem evaluate_call (call : Call) (target : Operand) (data : Value) :
    Expression.evaluate ⟨call.helper.name, target,
        call.positional.map fun literal => .literal literal.value, call.hash⟩ data 1 =
      match call.result data with
      | .ok value => .ok value
      | .error cause => .error (.helper call.helper.name 1 cause) := by
  have operands : Expression.call ⟨call.helper.name, target,
      call.positional.map fun literal => .literal literal.value, call.hash⟩ data =
        (call.context data, call.arguments) := by
    have named : (call.hash.map fun entry => (entry.1, entry.2.value data)) =
        call.named.map fun entry => (String.ofList entry.1.letters, entry.2.value) := by
      rw [hash, List.map_map]
      rfl
    have literals : ∀ positional : List Literal,
        (positional.map fun literal => Operand.literal literal.value).map (Operand.value data) =
          positional.map Literal.value := by
      intro positional
      rw [List.map_map]
      rfl
    unfold Expression.call context arguments
    rw [named]
    cases call.positional with
    | nil => rfl
    | cons first rest =>
        simp only [List.map_cons, List.tail_cons, literals]
        rfl
  unfold Expression.evaluate
  rw [Helper.ofName?_name, operands]
  cases outcome : call.helper.apply (call.context data) call.arguments <;>
    simp only [result, outcome]

end Call

/-- Rendering the tag of a call is applying the helper: the text of its value, nothing for no value,
and its own error at line one. -/
theorem render_call (call : Call) (data : Value)
    (unbroken : ¬ ['\x7d', '\x7d', '\x7d'] <:+: call.content) :
    render call.source data =
      match call.result data with
      | .ok (some value) => .ok value.display
      | .ok none => .ok ""
      | .error cause => .error (.helper call.helper.name 1 cause) := by
  obtain ⟨target, parsed⟩ := call.parse_content
  have scan := scan_alone unbroken call.endsSolid_content.getLast?.2
  have kind : (Tag.alone call.content).kind = .output call.content := by
    simp [Tag.kind, Tag.kindOf, Tag.alone, call.trim_content]
  have template : Template.parse call.source = .ok ⟨[.text [], .output
      ⟨call.helper.name, target, call.positional.map fun literal => .literal literal.value,
        call.hash⟩ true 1, .text []]⟩ := by
    have nodes : Template.nodesOfTag (Tag.alone call.content) = .ok [.text [], .output
        ⟨call.helper.name, target, call.positional.map fun literal => .literal literal.value,
          call.hash⟩ true 1] := by
      have plain : (Tag.alone call.content).isEscaped = false := by
        simp [Tag.isEscaped, Tag.alone]
      have bare : Template.textBefore (Tag.alone call.content) = [] := by
        simp [Template.textBefore, Tag.alone]
      simp only [Template.nodesOfTag, Template.nodeOfTag, kind, parsed, plain, bare]
      rfl
    simp only [Template.parse, Scan.complete, Call.source, String.toList_ofList, scan,
      Template.nodesOfTags, nodes, List.append_nil, List.cons_append, List.nil_append]
  have evaluated := call.evaluate_call target data
  simp only [render, template, Template.render, Template.renderNodes, Node.render, evaluated]
  cases call.result data with
  | error cause => rfl
  | ok value =>
      cases value with
      | none => rfl
      | some value => simp [Except.map]

theorem join_call :
    let spaced : Literal := .text "a \"b\" =c\\"
    let least : Literal := .integer (-9223372036854775808) (by decide) (by decide)
    let braces : Literal := .text "\x7d\x7d "
    let key : Key := ⟨"prefix".toList, by decide, by decide⟩
    let call : Call := ⟨.join, [spaced, least, .null, .boolean true, braces], [(key, .text "'=")]⟩
    ¬ ['\x7d', '\x7d', '\x7d'] <:+: call.content ∧
      call.source = "\x7b\x7b\x7bjoin \"a \\\"b\\\" =c\\\\\" -9223372036854775808 null " ++
        "true \"\x7d\x7d \" prefix=\"'=\"\x7d\x7d\x7d" ∧
      render call.source .null =
        .ok "'=a \"b\" =c\\\x7d\x7d -9223372036854775808\x7d\x7d \x7d\x7d true" := by
  intro spaced least braces key call
  have unbroken : ¬ ['\x7d', '\x7d', '\x7d'] <:+: call.content := by decide +kernel
  exact ⟨unbroken, by decide +kernel, (render_call call .null unbroken).trans (by decide +kernel)⟩

end TagTemplate
