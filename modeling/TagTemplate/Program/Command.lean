import TagTemplate.Compiler
import TagTemplate.Program.Launch

/-! Programs as compilers: they read a template and write what it is compiled to. -/

namespace TagTemplate

structure CompilerCommand where
  program : Path
  arguments : List String
deriving DecidableEq, Repr

namespace CompilerCommand

/-- What is made of the end of a program, or of the failure to start it. What it wrote counts if it
has done what it was asked, without white space at the end; if not, its complaints do. -/
def result (command : CompilerCommand) : Except IoError Outcome → Except Diagnostic String
  | .error cause =>
      .error ⟨"failed to run " ++ command.program.display ++ ": " ++ cause.message, none⟩
  | .ok outcome =>
      if outcome.isSuccess then
        match String.fromUTF8? ⟨(outcome.written .output).toBytes.toArray⟩ with
        | some text => .ok (String.ofList (Text.trimEnd text.toList))
        | none => .error ⟨"compiler output is not valid UTF-8", none⟩
      else
        let complaint := Text.trim (outcome.written .errors).toText
        if complaint.isEmpty then
          .error ⟨command.program.display ++ " exited with " ++ outcome.status.text, none⟩
        else .error ⟨String.ofList complaint, none⟩

def compiler (command : CompilerCommand) (environment : Environment) : Compiler :=
  fun _ files source =>
    let ended := Program.start
      { files, environment
        name := Octets.ofText command.program.text
        arguments := command.arguments.map Octets.ofString
        input := Octets.ofString source }
    match ended with
    | .ok outcome =>
        ⟨command.result ended, false, outcome.takes, { outcome.files with here := files.here }⟩
    | .error _ => ⟨command.result ended, false, 0, files⟩

def isPlaced (program : Path) : Bool := decide (1 < program.components.length)

def componentText : Component → List Char
  | .root => []
  | .current => ['.']
  | .parent => ['.', '.']
  | .normal name => name

/-- A directory in which programs are looked for. A tilde at its start stands for the directory of
the user. -/
def expanded (environment : Environment) (directory : Path) : Path :=
  match directory.components with
  | .normal ['~'] :: rest =>
      rest.foldl (fun path component => path.join ⟨false, [componentText component]⟩)
        environment.home
  | _ => directory

def findIn? (files : FileTree) (environment : Environment) (directories : List Path)
    (program : Path) : Option Path :=
  (directories.map fun directory => (expanded environment directory).join program).find?
    (Program.isExecutable files)

def placed? (files : FileTree) (program : Path) : Option Path :=
  let path := (⟨true, files.here⟩ : Path).join program
  if Program.isExecutable files path then some path else none

def locate (files : FileTree) (environment : Environment) (program : String)
    (arguments : List String) (searchPath : List Path) : Except CompilerFault CompilerCommand :=
  if searchPath.any fun directory => directory.text.contains ':' then .error .searchPath
  else
    let path := Path.ofString program
    let found :=
      if isPlaced path then placed? files path
      else if path.isEmpty then none
      else
        match findIn? files environment searchPath path with
        | some found => some found
        | none => findIn? files environment environment.searchDirectories path
    match found with
    | some found => .ok ⟨found, arguments⟩
    | none => .error (.unknownProgram program)

end CompilerCommand

end TagTemplate
