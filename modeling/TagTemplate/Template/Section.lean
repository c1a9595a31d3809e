import TagTemplate.Template.Error
import TagTemplate.Template.Scan

/-! Checking that the sections of a template are closed in the right order. -/

namespace TagTemplate

namespace Scan

def checkSections (enclosing : List (List Char × Nat)) : List Tag → Except TemplateError Unit
  | [] =>
      match enclosing with
      | [] => .ok ()
      | (keyword, line) :: _ => .error (.malformed (.unclosedSection (String.ofList keyword)) line)
  | tag :: rest =>
      if tag.isEscaped then checkSections enclosing rest
      else
        match tag.kind with
        | .sectionStart keyword _ => checkSections ((keyword, tag.line) :: enclosing) rest
        | .sectionEnd keyword =>
            match enclosing with
            | (expected, opened) :: outer =>
                if expected = keyword then checkSections outer rest
                else
                  .error (.malformed
                    (.mismatchedEnd (String.ofList keyword) (String.ofList expected) opened)
                    tag.line)
            | [] => .error (.malformed (.unexpectedEnd (String.ofList keyword)) tag.line)
        | _ => checkSections enclosing rest

def complete (source : List Char) : Except TemplateError Scan :=
  let scan := Scan.of source
  match scan.unclosed with
  | some line => .error (.malformed .unclosedTag line)
  | none => .ok scan

end Scan

/-- Checks the tags of a template and the nesting of its sections, but no expressions. -/
def validate (source : String) : Except TemplateError Unit :=
  match Scan.complete source.toList with
  | .error fault => .error fault
  | .ok scan => Scan.checkSections [] scan.tags

end TagTemplate
