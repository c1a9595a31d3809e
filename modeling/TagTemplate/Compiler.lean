import TagTemplate.Discovery
import TagTemplate.Template.Section

/-! Compilers of templates, and the check of a template's structure before it is compiled. -/

namespace TagTemplate

structure Answer where
  result : Except Diagnostic String
  cancels : Bool
  /-- The time it takes, in milliseconds. -/
  takes : Nat
  files : FileTree

/-- A compiler: its answer to a source, given the number of calls before this one and the files as
they are. -/
abbrev Compiler := Nat → FileTree → String → Answer

def Compiler.ofFunction (compile : String → Except Diagnostic String) : Compiler :=
  fun _ files source => ⟨compile source, false, 0, files⟩

def Compiler.KeepsFiles (compiler : Compiler) : Prop :=
  ∀ calls files source, (compiler calls files source).files = files

theorem Compiler.keepsFiles_ofFunction (compile : String → Except Diagnostic String) :
    (Compiler.ofFunction compile).KeepsFiles := fun _ _ _ => rfl

def bytesOfLines : Nat → List Char → Nat
  | 0, _ => 0
  | _, [] => 0
  | lines + 1, c :: rest =>
      c.utf8Size + if c = '\n' then bytesOfLines lines rest else bytesOfLines (lines + 1) rest

def Diagnostic.ofError (source : String) (fault : TemplateError) : Diagnostic :=
  ⟨fault.message, fault.line?.map fun line => bytesOfLines (line - 1) source.toList⟩

def structureFault? (source : String) : Option Diagnostic :=
  match validate source with
  | .ok _ => none
  | .error fault => some (.ofError source fault)

end TagTemplate
