import TagTemplate.Failure
import TagTemplate.FileTree.Place

/-! Finding the templates of a run: those that are listed, or all below a directory. -/

namespace TagTemplate

structure TemplateUnit where
  /-- The path below the root without the suffix. -/
  name : String
  path : Path
  source : String
deriving DecidableEq, Repr

namespace Discovery

/-- What gets in the way of a discovery: at which of its looks, counted from none, it sees itself
cancelled, and which of the files it reads cannot be read. -/
structure Obstacles where
  cancelled : Nat → Bool
  unreadable : Nat → Option IoError

def Obstacles.none : Obstacles := ⟨fun _ => false, fun _ => Option.none⟩

structure Candidate where
  name : String
  path : Path
deriving DecidableEq, Repr

def readUnit (obstacles : Obstacles) (files : FileTree) (count : Nat) (candidate : Candidate) :
    Except Failure TemplateUnit :=
  let text : Except IoError String :=
    match obstacles.unreadable count with
    | some cause => .error cause
    | none => files.readText candidate.path
  match text with
  | .ok source => .ok ⟨candidate.name, candidate.path, source⟩
  | .error cause => .error (.templateUnreadable candidate.path cause)

def listedPath (root : Path) (suffix name : String) : Path :=
  root.join (Path.ofString (name ++ suffix))

/-- The listed templates after those found before. Each name is checked before the next one. -/
def listed (obstacles : Obstacles) (files : FileTree) (root : Path) (suffix : String) :
    List String → List TemplateUnit → Except Failure (List TemplateUnit)
  | [], found => .ok found
  | name :: names, found =>
      if obstacles.cancelled found.length then .error (.cancelled .duringDiscovery)
      else if name ∈ found.map (·.name) then .error (.duplicateTemplate name)
      else
        let path := listedPath root suffix name
        if files.isFile path then
          match readUnit obstacles files found.length ⟨name, path⟩ with
          | .ok template => listed obstacles files root suffix names (found ++ [template])
          | .error failure => .error failure
        else .error (.templateNotFound name path)

structure Entry where
  names : List Name
  isFile : Bool
deriving DecidableEq, Repr

def isHidden (name : Name) : Bool := name.head? == some '.'

def isLink (files : FileTree) (location : Location) : Bool :=
  match files.node? location with
  | some (.link _) => true
  | _ => false

/-- The entries of a directory and of those below it, each directory before what is in it. Links are
followed; one that leads nowhere, or back to a directory that the walk is in, is no file. -/
def walk (files : FileTree) (root : Path) : Nat → List Location → List Name → List Entry
  | 0, _, _ => []
  | depth + 1, above, names =>
      match files.find? (root.join ⟨false, names⟩) with
      | none => []
      | some (location, _) =>
          (files.namesIn location).flatMap fun name =>
            if isHidden name then []
            else
              match files.find? (root.join ⟨false, names ++ [name]⟩) with
              | some (_, .file _ _) => [⟨names ++ [name], true⟩]
              | some (inner, .directory) =>
                  if isLink files (location ++ [name]) && (location :: above).contains inner then
                    [⟨names ++ [name], false⟩]
                  else
                    ⟨names ++ [name], false⟩ ::
                      walk files root depth (location :: above) (names ++ [name])
              | _ => [⟨names ++ [name], false⟩]

def joined (names : List Name) : List Char := List.intercalate ['/'] names

def stem? (suffix text : List Char) : Option (List Char) :=
  if suffix.length < text.length ∧ suffix.isSuffixOf text then
    some (text.take (text.length - suffix.length))
  else none

def candidate? (root : Path) (suffix : String) (entry : Entry) : Option Candidate :=
  if entry.isFile then
    (stem? suffix.toList (joined entry.names)).map fun name =>
      ⟨String.ofList name, root.join ⟨false, entry.names⟩⟩
  else none

def readAll (obstacles : Obstacles) (files : FileTree) :
    Nat → List Candidate → Except Failure (List TemplateUnit)
  | _, [] => .ok []
  | count, candidate :: rest =>
      match readUnit obstacles files count candidate with
      | .error failure => .error failure
      | .ok template =>
          match readAll obstacles files (count + 1) rest with
          | .error failure => .error failure
          | .ok templates => .ok (template :: templates)

/-- A depth that no walk reaches: between two links it goes down through directories that differ,
and each link leads it to a directory that it is not in. -/
def depthLimit (files : FileTree) : Nat :=
  let directories := files.entries.length + 2
  directories * directories

def sortedEntries (files : FileTree) (root : Path) : List Entry :=
  (walk files root (depthLimit files) [] []).mergeSort
    fun first second => Text.isAtMost (joined first.names) (joined second.names)

/-- The templates below a root. The signal to cancel is looked at for the root and each entry. -/
def scanned (obstacles : Obstacles) (files : FileTree) (root : Path) (suffix : String) :
    Except Failure (List TemplateUnit) :=
  if files.isDirectory root then
    let entries := sortedEntries files root
    if (List.range (entries.length + 1)).any obstacles.cancelled then
      .error (.cancelled .duringDiscovery)
    else readAll obstacles files 0 (entries.filterMap (candidate? root suffix))
  else .error (.rootNotFound root)

end Discovery

/-- The templates of a run: the listed ones in their order, or, if none are listed, those below the
root in ascending order of their paths. -/
def discover (obstacles : Discovery.Obstacles) (files : FileTree) (root : Path) (suffix : String)
    (names : List String) : Except Failure (List TemplateUnit) :=
  if names.isEmpty then Discovery.scanned obstacles files root suffix
  else Discovery.listed obstacles files root suffix names []

end TagTemplate
