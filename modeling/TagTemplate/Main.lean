import TagTemplate.CommandLine.Session

/-! The program. It takes the files below the directory it is started in, runs a command on them,
and writes back what the command has changed. -/

namespace TagTemplate.CommandLine

def locationOf (path : String) : Location :=
  (Path.ofString path).segments.filter fun segment => !segment.isEmpty

def textOf (location : Location) : String := (⟨true, location⟩ : Path).display

/-- Whether a file begins as a script does, which is then taken to be executable. -/
def beginsAsScript (content : ByteArray) : Bool := content.toList.take 2 == [35, 33]

def directoriesTo (location : Location) : List (Location × FileNode) :=
  (List.range location.length).map fun depth => (location.take (depth + 1), .directory)

partial def readEntry (directory : Location) (entry : IO.FS.DirEntry) :
    IO (List (Location × FileNode)) := do
  let location := directory ++ [entry.fileName.toList]
  match (← entry.path.symlinkMetadata).type with
  | .dir =>
      let inner ← (← entry.path.readDir).toList.mapM (readEntry location)
      return (location, .directory) :: inner.flatten
  | .file =>
      let content ← IO.FS.readBinFile entry.path
      return [(location, .file content (beginsAsScript content))]
  | .symlink =>
      try
        let target ← IO.FS.realPath entry.path
        return [(location, .link (Path.ofString target.toString))]
      catch _ => return []
  | .other => return []

def readFiles : IO FileTree := do
  let directory ← IO.currentDir
  let here := locationOf directory.toString
  let entries ← (← directory.readDir).toList.mapM (readEntry here)
  return ⟨entries.flatten ++ directoriesTo here ++ Program.systemEntries, here⟩

def readVariables (names : List String) : IO (List (String × String)) :=
  names.filterMapM fun name => do return (← IO.getEnv name).map fun value => (name, value)

def isSame : FileNode → FileNode → Bool
  | .directory, .directory => true
  | .file before _, .file after _ => before.toList == after.toList
  | .link _, .link _ => true
  | _, _ => false

def writeFiles (before after : FileTree) : IO Unit := do
  for (location, node) in after.entries.reverse do
    unless (before.node? location).any (isSame node) do
      match node with
      | .directory => IO.FS.createDirAll (textOf location)
      | .file content _ => IO.FS.writeBinFile (textOf location) content
      | .link _ => pure ()

end TagTemplate.CommandLine

open TagTemplate CommandLine in
def main (arguments : List String) : IO UInt32 := do
  let files ← readFiles
  let given ← readVariables [configVariable, compilerVariable, "CLICOLOR_FORCE", "PATH", "HOME"]
  let ending := run files (Environment.ofList given ++ Environment.system) arguments
  writeFiles files ending.files
  (← IO.getStdout).putStr ending.output
  (← IO.getStderr).putStr ending.errors
  return ending.exitCode.toUInt32
