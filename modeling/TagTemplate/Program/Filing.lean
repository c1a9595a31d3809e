import TagTemplate.FileTree.Change
import TagTemplate.Numeral.Digits
import TagTemplate.Program.Sources

/-! Programs that change files and directories, and the one that lists them. -/

namespace TagTemplate.Filing

def pathOf (name : Octets) : Path := Path.ofText name.toText

def forEach (process : Process) (operands : List Octets)
    (change : FileTree → Octets → Except String FileTree) : Outcome :=
  operands.foldl
    (fun outcome operand =>
      match change outcome.files operand with
      | .ok files => { outcome with files }
      | .error message => outcome.complaining 1 (process.remark message))
    (Outcome.wrote process [])

def withOperands (process : Process) (table : OptionTable) (missing : String)
    (run : Given → Outcome) : Outcome :=
  process.withOptions table 1 fun given =>
    if given.operands.isEmpty then process.misused 1 missing else run given

def mkdir (process : Process) : Outcome :=
  let table : OptionTable := ⟨"p", "m", [("parents", 'p'), ("mode", 'm')]⟩
  withOperands process table "missing operand" fun given =>
    forEach process given.operands fun files name =>
      let path := pathOf name
      let fault (path : Path) (cause : IoError) : String :=
        "cannot create directory '" ++ path.display ++ "': " ++ cause.reason
      if given.has 'p' then
        match files.makeDirectories path with
        | (none, made) => .ok made
        | (some cause, made) =>
            let first := path.ancestors.reverse.find? fun path =>
              !path.isEmpty && !made.isDirectory path
            .error (fault (first.getD path) cause)
      else (files.makeDirectory path).mapError (fault path)

def rmdir (process : Process) : Outcome :=
  withOperands process ⟨"", "", []⟩ "missing operand" fun given =>
    forEach process given.operands fun files name =>
      let fault (cause : IoError) : Except String FileTree :=
        .error ("failed to remove " ++ Octets.quoted name ++ ": " ++ cause.reason)
      match files.place .entry (pathOf name) with
      | .error cause => fault cause
      | .ok (.free _ _) => fault .notFound
      | .ok (.found location .directory) =>
          if (files.namesIn location).isEmpty then .ok (files.erase location) else fault .notEmpty
      | .ok (.found _ _) => fault .notDirectory

def rm (process : Process) : Outcome :=
  let table : OptionTable :=
    ⟨"rRfdiv", "", [("recursive", 'r'), ("force", 'f'), ("dir", 'd')]⟩
  process.withOptions table 1 fun given =>
    let deep := given.has 'r' || given.has 'R'
    if given.operands.isEmpty then
      if given.has 'f' then Outcome.wrote process [] else process.misused 1 "missing operand"
    else
      forEach process given.operands fun files name =>
        let fault (cause : IoError) : Except String FileTree :=
          .error ("cannot remove " ++ Octets.quoted name ++ ": " ++ cause.reason)
        match files.place .entry (pathOf name) with
        | .error cause =>
            if given.has 'f' && (cause == .notFound || cause == .notDirectory) then .ok files
            else fault cause
        | .ok (.free _ _) => if given.has 'f' then .ok files else fault .notFound
        | .ok (.found location .directory) =>
            if deep then .ok (files.eraseBelow location)
            else if given.has 'd' then
              if (files.namesIn location).isEmpty then .ok (files.erase location)
              else fault .notEmpty
            else fault .isDirectory
        | .ok (.found location _) => .ok (files.erase location)

def touch (process : Process) : Outcome :=
  let table : OptionTable := ⟨"camf", "dtr", [("no-create", 'c')]⟩
  withOperands process table "missing file operand" fun given =>
    forEach process given.operands fun files name =>
      match files.place .file (pathOf name) with
      | .ok (.found _ _) => .ok files
      | .ok (.free directory last) =>
          if given.has 'c' then .ok files
          else .ok (files.put (directory ++ [last]) (.file ByteArray.empty false))
      | .error cause =>
          if files.isDirectory (pathOf name) then .ok files
          else .error ("cannot touch " ++ Octets.quoted name ++ ": " ++ cause.reason)

def isExecutableMode (mode : Nat) : Bool :=
  mode % 2 == 1 || mode / 8 % 2 == 1 || mode / 64 % 2 == 1

def executableAfter (mode : Octets) (executable : Bool) : Bool :=
  if mode.all Char.isDigit then isExecutableMode (Numeral.ofDigits 8 mode)
  else
    (Text.pieces (· == ',') mode).foldl
      (fun executable clause =>
        let change : Octets := clause.dropWhile fun c => "ugoa".contains c
        match change with
        | '+' :: bits => executable || bits.contains 'x'
        | '-' :: bits => executable && !bits.contains 'x'
        | '=' :: bits => bits.contains 'x'
        | _ => executable)
      executable

def chmod (process : Process) : Outcome :=
  let (mode, operands) : List Octets × List Octets :=
    (process.arguments.filter (· != "-R".toList)).splitAt 1
  match mode, operands with
  | [mode], operands@(_ :: _) =>
      forEach process operands fun files name =>
        match files.place .node (pathOf name) with
        | .ok (.found location (.file content executable)) =>
            .ok (files.put location (.file content (executableAfter mode executable)))
        | .ok (.found _ _) => .ok files
        | .ok (.free _ _) =>
            .error ("cannot access " ++ Octets.quoted name ++ ": No such file or directory")
        | .error cause => .error ("cannot access " ++ Octets.quoted name ++ ": " ++ cause.reason)
  | [mode], [] =>
      process.misused 1 ("missing operand after " ++ Octets.quoted mode)
  | _, _ => process.misused 1 "missing operand"

def copied (files : FileTree) (source target : Location) : FileTree :=
  (files.entries.filter fun entry => source.isPrefixOf entry.1).foldl
    (fun files entry => files.put (target ++ entry.1.drop source.length) entry.2) files

def target (files : FileTree) (source goal : Octets) : Path :=
  if files.isDirectory (pathOf goal) then
    (pathOf goal).join ⟨false, [(pathOf source).fileName?.getD ['.']]⟩
  else pathOf goal

def withGoal (process : Process) (operands : List Octets)
    (run : List Octets → Octets → Outcome) : Outcome :=
  match operands.reverse with
  | [] => process.misused 1 "missing file operand"
  | [only] =>
      process.misused 1 ("missing destination file operand after " ++ Octets.quoted only)
  | goal :: sources =>
      if 1 < sources.length && !process.files.isDirectory (pathOf goal) then
        let reason := match process.files.place .node (pathOf goal) with
          | .ok (.found _ _) => IoError.notDirectory
          | .ok (.free _ _) => .notFound
          | .error cause => cause
        .complained process 1
          (process.remark ("target " ++ Octets.quoted goal ++ ": " ++ reason.reason))
      else run sources.reverse goal

def copyFile (files : FileTree) (source : Octets) (content : ByteArray) (executable : Bool)
    (goal : Path) : Except String FileTree :=
  let fault (cause : IoError) : String :=
    "cannot create regular file '" ++ goal.display ++ "': " ++ cause.reason
  match files.find? (pathOf source), files.find? goal with
  | some (first, _), some (second, .file _ kept) =>
      if first = second then
        .error (Octets.quoted source ++ " and '" ++ goal.display ++ "' are the same file")
      else (files.write goal content kept).mapError fault
  | _, _ => (files.write goal content executable).mapError fault

def cp (process : Process) : Outcome :=
  let table : OptionTable :=
    ⟨"rRafpvdT", "", [("recursive", 'r'), ("archive", 'a'), ("force", 'f')]⟩
  process.withOptions table 1 fun given =>
    let deep := given.has 'r' || given.has 'R' || given.has 'a'
    withGoal process given.operands fun sources goal =>
      forEach process sources fun files source =>
        match files.place (if deep then .entry else .node) (pathOf source) with
        | .error cause => .error ("cannot stat " ++ Octets.quoted source ++ ": " ++ cause.reason)
        | .ok (.free _ _) =>
            .error ("cannot stat " ++ Octets.quoted source ++ ": No such file or directory")
        | .ok (.found _ (.file content executable)) =>
            copyFile files source content executable (target files source goal)
        | .ok (.found location _) =>
            if !deep then
              .error ("-r not specified; omitting directory " ++ Octets.quoted source)
            else
              match files.place .entry (target files source goal) with
              | .ok (.found other _) => .ok (copied files location other)
              | .ok (.free directory name) => .ok (copied files location (directory ++ [name]))
              | .error cause =>
                  .error ("cannot create directory '" ++ (target files source goal).display ++
                    "': " ++ cause.reason)

def mv (process : Process) : Outcome :=
  let table : OptionTable := ⟨"fvnT", "", [("force", 'f')]⟩
  process.withOptions table 1 fun given =>
    withGoal process given.operands fun sources goal =>
      forEach process sources fun files source =>
        let goal := target files source goal
        let move (from' to' : Location) : FileTree :=
          if from' = to' then files
          else copied (files.eraseBelow to') from' to' |>.eraseBelow from'
        match files.place .entry (pathOf source), files.place .entry goal with
        | .error cause, _ => .error ("cannot stat " ++ Octets.quoted source ++ ": " ++ cause.reason)
        | .ok (.free _ _), _ =>
            .error ("cannot stat " ++ Octets.quoted source ++ ": No such file or directory")
        | .ok (.found location _), .ok (.free directory name) =>
            .ok (move location (directory ++ [name]))
        | .ok (.found location _), .ok (.found other _) => .ok (move location other)
        | _, .error cause =>
            .error ("cannot move " ++ Octets.quoted source ++ " to '" ++ goal.display ++ "': " ++
              cause.reason)

def ln (process : Process) : Outcome :=
  let table : OptionTable := ⟨"sfnvr", "", [("symbolic", 's'), ("force", 'f')]⟩
  withOperands process table "missing file operand" fun given =>
    let (sources, goal) : List Octets × Octets :=
      match given.operands.reverse with
      | [only] => ([only], ['.'])
      | goal :: sources => (sources.reverse, goal)
      | [] => ([], ['.'])
    forEach process sources fun files source =>
      let goal := target files source goal
      let node : Except String FileNode :=
        if given.has 's' then .ok (.link (pathOf source))
        else
          match files.find? (pathOf source) with
          | some (_, .file content executable) => .ok (.file content executable)
          | some _ =>
              .error (Octets.display source ++ ": hard link not allowed for directory")
          | none =>
              .error ("failed to access " ++ Octets.quoted source ++ ": No such file or directory")
      let kind := if given.has 's' then "symbolic link" else "hard link"
      let fault (cause : IoError) : Except String FileTree :=
        .error ("failed to create " ++ kind ++ " '" ++ goal.display ++ "': " ++ cause.reason)
      match node, files.place .entry goal with
      | .error message, _ => .error message
      | .ok node, .ok (.free directory name) => .ok (files.put (directory ++ [name]) node)
      | .ok node, .ok (.found location _) =>
          if given.has 'f' then .ok (files.put location node) else fault .alreadyExists
      | .ok _, .error cause => fault cause

def entryName (files : FileTree) (given : Given) (directory : Location) (name : Name) : Octets :=
  let text := Octets.ofText name
  match files.node? (directory ++ [name]) with
  | some .directory => if given.has 'p' || given.has 'F' then text ++ ['/'] else text
  | some (.link _) => if given.has 'F' then text ++ ['@'] else text
  | some (.file _ true) => if given.has 'F' then text ++ ['*'] else text
  | _ => text

def listed (files : FileTree) (given : Given) (directory : Location) : Octets :=
  let names := (files.namesIn directory).filter fun name =>
    given.has 'a' || given.has 'A' || name.head? != some '.'
  let dots := if given.has 'a' then [['.'], ['.', '.']] else []
  let texts := dots ++ names.map (entryName files given directory)
  Octets.unlines (if given.has 'r' then texts.reverse else texts)

def ls (process : Process) : Outcome :=
  let table : OptionTable :=
    ⟨"1aAdpFrCUx", "", [("all", 'a'), ("almost-all", 'A'), ("reverse", 'r')]⟩
  process.withOptions table 2 fun given =>
    let files := process.files
    let operands :=
      (if given.operands.isEmpty then [['.']] else given.operands).mergeSort Text.isAtMost
    let places := operands.map fun name => (name, files.place .node (pathOf name))
    let faults := places.flatMap fun (name, place) =>
      let fault (cause : IoError) : Octets :=
        Octets.ofString
          (process.remark ("cannot access " ++ Octets.quoted name ++ ": " ++ cause.reason) ++ "\n")
      match place with
      | .error cause => fault cause
      | .ok (.free _ _) => fault .notFound
      | .ok (.found _ _) => []
    let plain := places.flatMap fun (name, place) =>
      match place with
      | .ok (.found _ .directory) => if given.has 'd' then name ++ ['\n'] else []
      | .ok (.found _ _) => name ++ ['\n']
      | _ => []
    let directories := places.filterMap fun (name, place) =>
      match place with
      | .ok (.found location .directory) =>
          if given.has 'd' then none else some (name, listed files given location)
      | _ => none
    let titled := decide (1 < operands.length)
    let blocks := directories.map fun (name, text) =>
      (if titled then name ++ ":\n".toList else []) ++ text
    let parts := (if plain.isEmpty then [] else [plain]) ++ blocks
    { (Outcome.wrote process (List.intercalate ['\n'] parts)).after faults with
      status := .code (if faults.isEmpty then 0 else 2) }

end TagTemplate.Filing
