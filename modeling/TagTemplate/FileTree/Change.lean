import TagTemplate.FileTree.Place

/-! Changes to a file system: making directories and files, replacing one file by another. -/

namespace TagTemplate.FileTree

def makeDirectory (tree : FileTree) (path : Path) : Except IoError FileTree :=
  match tree.place .entry path with
  | .ok (.free directory name) => .ok (tree.put (directory ++ [name]) .directory)
  | .ok (.found _ _) => .error .alreadyExists
  | .error cause => .error cause

/-- Makes the first of some directories, each the parent of the one before, after those parents that
are missing. What was made stays even when a later step fails. -/
def makeAll : List Path → FileTree → Option IoError × FileTree
  | [], tree => (some .notFound, tree)
  | path :: parents, tree =>
      if path.isEmpty then (none, tree)
      else
        match tree.makeDirectory path with
        | .ok made => (none, made)
        | .error .notFound =>
            match makeAll parents tree with
            | (some cause, changed) => (some cause, changed)
            | (none, changed) =>
                match changed.makeDirectory path with
                | .ok made => (none, made)
                | .error cause =>
                    if changed.isDirectory path then (none, changed) else (some cause, changed)
        | .error cause => if tree.isDirectory path then (none, tree) else (some cause, tree)

def makeDirectories (tree : FileTree) (path : Path) : Option IoError × FileTree :=
  makeAll path.ancestors tree

def openFile (tree : FileTree) (path : Path) : Except IoError (Location × FileTree) :=
  match tree.place .file path with
  | .ok (.found location (.file _ _)) => .ok (location, tree)
  | .ok (.found _ _) => .error .isDirectory
  | .ok (.free directory name) =>
      .ok (directory ++ [name], tree.put (directory ++ [name]) (.file ByteArray.empty false))
  | .error cause => .error cause

def write (tree : FileTree) (path : Path) (content : ByteArray) (executable : Bool) :
    Except IoError FileTree :=
  (tree.openFile path).map fun (location, opened) => opened.put location (.file content executable)

def longestName (tree : FileTree) : Nat :=
  (tree.entries.map fun entry => (entry.1.getLast?.getD []).length).foldr max 0

/-- A hidden name that nothing in the file system has. -/
def temporaryName (tree : FileTree) : Name :=
  ".tmp".toList ++ List.replicate (tree.longestName + 1) '0'

def makeTemporary (tree : FileTree) (directory : Path) : Except IoError (Location × FileTree) :=
  match tree.place .node directory with
  | .ok (.found location .directory) =>
      let temporary := location ++ [tree.temporaryName]
      .ok (temporary, tree.put temporary (.file ByteArray.empty false))
  | .ok (.found _ _) => .error .notDirectory
  | .ok (.free _ _) => .error .notFound
  | .error cause => .error cause

def renameTarget (tree : FileTree) (path : Path) : Except IoError Location :=
  match tree.place .entry path with
  | .error cause => .error cause
  | .ok place =>
      if path.endsInDirection then .error .busy
      else if path.endsInSlash then .error .notDirectory
      else
        match place with
        | .free directory name => .ok (directory ++ [name])
        | .found _ .directory => .error .isDirectory
        | .found location _ => .ok location

def rename (tree : FileTree) (source : Location) (path : Path) : Except IoError FileTree :=
  (tree.renameTarget path).map fun target =>
    match tree.node? source with
    | some node => (tree.erase source).put target node
    | none => tree

def remove (tree : FileTree) (path : Path) : FileTree :=
  match tree.place .entry path with
  | .ok (.found location _) => tree.eraseBelow location
  | _ => tree

def listed? (directory : Location) (entry : Location × FileNode) : Option (List Char) :=
  if directory.isPrefixOf entry.1 && entry.1 != directory then
    let text := List.intercalate ['/'] (entry.1.drop directory.length)
    some (match entry.2 with
      | .directory => text ++ ['/']
      | _ => text)
  else none

def listing (tree : FileTree) : List String :=
  ((tree.entries.filterMap (listed? tree.here)).mergeSort
    Text.isAtMost).map String.ofList

def setUp (tree : FileTree) (path : Path) (node : FileNode) : FileTree :=
  let tree := (tree.makeDirectories (path.parent?.getD ⟨false, [[]]⟩)).2
  match node with
  | .directory => (tree.makeDirectories path).2
  | .file content executable => (tree.write path content executable).toOption.getD tree
  | .link target =>
      match tree.place .entry path with
      | .ok (.free directory name) => tree.put (directory ++ [name]) (.link target)
      | _ => tree

end TagTemplate.FileTree
