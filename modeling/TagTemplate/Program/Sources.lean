import TagTemplate.FileTree.Place
import TagTemplate.Program.Options

/-! What programs read: the files they are given, or their input. -/

namespace TagTemplate

structure Source where
  name : Octets
  content : Except IoError Octets

structure Sources where
  found : List Source
  rest : Octets

namespace Sources

def readFrom (files : FileTree) : List Octets → (input : Octets) → Sources
  | [], input => ⟨[], input⟩
  | name :: names, input =>
      let (content, left) : Except IoError Octets × Octets :=
        if name = ['-'] then (.ok input, [])
        else
          ((files.read (Path.ofText name.toText)).map fun content =>
            Octets.ofBytes content.toList, input)
      let more := readFrom files names left
      { more with found := ⟨name, content⟩ :: more.found }

def read (process : Process) (names : List Octets) : Sources :=
  readFrom process.files (if names.isEmpty then [['-']] else names) process.input

def text (sources : Sources) : Octets :=
  sources.found.flatMap fun source =>
    match source.content with
    | .ok content => content
    | .error _ => []

def complaint (process : Process) (words : String → String) (source : Source) (cause : IoError) :
    Octets :=
  Octets.ofString
    (process.remark (words (Octets.display source.name) ++ ": " ++ cause.reason) ++ "\n")

def complaints (sources : Sources) (process : Process) (words : String → String) : Octets :=
  sources.found.flatMap fun source =>
    match source.content with
    | .ok _ => []
    | .error cause => complaint process words source cause

def isComplete (sources : Sources) : Bool :=
  sources.found.all fun source => source.content.toOption.isSome

def outcome (sources : Sources) (process : Process) (words : String → String) (output : Octets) :
    Outcome :=
  { (Outcome.wrote process output).after (sources.complaints process words) with
    status := .code (if sources.isComplete then 0 else 1)
    rest := sources.rest }

def copied (sources : Sources) (process : Process) (words : String → String) : Outcome :=
  { sources.outcome process words [] with
    writes := sources.found.map fun source =>
      match source.content with
      | .ok content => (.output, content)
      | .error cause => (.errors, complaint process words source cause) }

end Sources

def plainly (name : String) : String := name

namespace Octets

def lines (text : Octets) : List Octets × Bool :=
  match (Text.lines text).reverse with
  | [] :: before => (before.reverse, true)
  | all => (all.reverse, false)

def lineList (text : Octets) : List Octets := (lines text).1

def unlines (lines : List Octets) : Octets := lines.flatMap (· ++ ['\n'])

def unlinesAs (lines : List Octets) (ended : Bool) : Octets :=
  if ended then unlines lines else List.intercalate ['\n'] lines

def rightAligned (width : Nat) (text : Octets) : Octets :=
  List.replicate (width - text.length) ' ' ++ text

end Octets

end TagTemplate
