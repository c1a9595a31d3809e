import TagTemplate.FileTree

/-! Where a path leads: its names are followed one by one, through links, from a directory on. -/

namespace TagTemplate

inductive Place where
  | found (location : Location) (node : FileNode)
  | free (directory : Location) (name : Name)

inductive Pursuit where
  | node
  | entry
  /-- A file that is made if it is missing, so that a slash at the end names no file. -/
  | file
deriving DecidableEq, Repr

namespace FileTree

def nameLimit : Nat := 255

def pathLimit : Nat := 4096

def isSlashed (rest : List Name) : Bool := !rest.isEmpty && rest.all List.isEmpty

/-- Follows segments from a directory. A link on the way, and one at the end if it is to be followed
as well, is left to another function, which takes the directory that the link starts from and the
segments that are then ahead. -/
def follow (tree : FileTree) (pursuit : Pursuit)
    (jump : Location → List Name → Except IoError Place) :
    Location → List Name → Except IoError Place
  | directory, [] => .ok (.found directory .directory)
  | directory, segment :: rest =>
      if segment = [] ∨ segment = ['.'] then follow tree pursuit jump directory rest
      else if segment = ['.', '.'] then follow tree pursuit jump directory.dropLast rest
      else if pursuit = .file ∧ isSlashed rest then .error .isDirectory
      else if nameLimit < Text.byteLength segment then .error .nameTooLong
      else
        match tree.node? (directory ++ [segment]) with
        | none =>
            if rest.all List.isEmpty then .ok (.free directory segment)
            else .error .notFound
        | some .directory => follow tree pursuit jump (directory ++ [segment]) rest
        | some (.file content executable) =>
            if rest.isEmpty then .ok (.found (directory ++ [segment]) (.file content executable))
            else .error .notDirectory
        | some (.link target) =>
            if rest.isEmpty && pursuit == .entry then
              .ok (.found (directory ++ [segment]) (.link target))
            else jump (if target.absolute then [] else directory) (target.segments ++ rest)

def followWithin (tree : FileTree) (pursuit : Pursuit) :
    Nat → Location → List Name → Except IoError Place
  | 0, _, _ => .error .tooManyLinks
  | limit + 1, directory, segments =>
      tree.follow pursuit (tree.followWithin pursuit limit) directory segments

def linkLimit : Nat := 41

def place (tree : FileTree) (pursuit : Pursuit) (path : Path) : Except IoError Place :=
  if path.text.contains '\x00' then .error .nulInPath
  else if path.isEmpty then .error .notFound
  else if pathLimit ≤ Text.byteLength path.text then .error .nameTooLong
  else
    tree.followWithin pursuit linkLimit (if path.absolute then [] else tree.here) path.segments

def find? (tree : FileTree) (path : Path) : Option (Location × FileNode) :=
  match tree.place .node path with
  | .ok (.found location node) => some (location, node)
  | _ => none

def isFile (tree : FileTree) (path : Path) : Bool :=
  match tree.find? path with
  | some (_, .file _ _) => true
  | _ => false

def isDirectory (tree : FileTree) (path : Path) : Bool :=
  match tree.find? path with
  | some (_, .directory) => true
  | _ => false

def read (tree : FileTree) (path : Path) : Except IoError ByteArray :=
  match tree.place .node path with
  | .ok (.found _ (.file content _)) => .ok content
  | .ok (.found _ .directory) => .error .isDirectory
  | .ok _ => .error .notFound
  | .error cause => .error cause

/-- Why what a path leads to, a directory as well, cannot be opened; none when it can. -/
def openError? (tree : FileTree) (path : Path) : Option IoError :=
  match tree.place .node path with
  | .ok (.found _ _) => none
  | .ok (.free _ _) => some .notFound
  | .error cause => some cause

def readText (tree : FileTree) (path : Path) : Except IoError String :=
  match tree.read path with
  | .error cause => .error cause
  | .ok content =>
      match String.fromUTF8? content with
      | some text => .ok text
      | none => .error .notUtf8

end FileTree

end TagTemplate
