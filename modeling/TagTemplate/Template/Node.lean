import TagTemplate.Template.Expression
import TagTemplate.Template.Section

/-! Templates as literal text and output tags. -/

namespace TagTemplate

inductive Node where
  | text (text : List Char)
  | output (expression : Expression) (raw : Bool) (line : Nat)

structure Template where
  nodes : List Node

namespace Template

/-- The text in front of a tag: of the backslashes that end it, every two stand for one. -/
def textBefore (tag : Tag) : List Char :=
  tag.before.take (tag.before.length - tag.backslashes) ++
    List.replicate (tag.backslashes / 2) '\\'

def nodeOfTag (tag : Tag) : Except TemplateError (List Node) :=
  match tag.kind with
  | .comment => .ok []
  | .output source =>
      match Expression.parse source with
      | .ok expression => .ok [.output expression tag.raw tag.line]
      | .error fault => .error (.malformed fault tag.line)
  | .sectionStart _ _ | .sectionEnd _ =>
      .error (.malformed (.sectionTag (String.ofList tag.source)) tag.line)
  | .inclusion _ => .error (.malformed (.partialTag (String.ofList tag.source)) tag.line)

def nodesOfTag (tag : Tag) : Except TemplateError (List Node) :=
  if tag.isEscaped then .ok [.text (textBefore tag), .text tag.source]
  else (nodeOfTag tag).map (.text (textBefore tag) :: ·)

def nodesOfTags : List Tag → Except TemplateError (List Node)
  | [] => .ok []
  | tag :: rest =>
      match nodesOfTag tag with
      | .error fault => .error fault
      | .ok nodes =>
          match nodesOfTags rest with
          | .error fault => .error fault
          | .ok others => .ok (nodes ++ others)

def parse (source : String) : Except TemplateError Template :=
  match Scan.complete source.toList with
  | .error fault => .error fault
  | .ok scan =>
      match nodesOfTags scan.tags with
      | .error fault => .error fault
      | .ok nodes => .ok ⟨nodes ++ [.text scan.trailing]⟩

end Template

end TagTemplate
