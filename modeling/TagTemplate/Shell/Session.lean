import TagTemplate.FileTree.Change
import TagTemplate.Program.Outcome
import TagTemplate.Shell.Script

/-! What a shell keeps while it runs a script: variables, streams, and how the script goes on. -/

namespace TagTemplate.Shell

inductive Sink where
  | stream (stream : Stream)
  | capture (number : Nat)
  | file (location : Location)
  | nowhere
deriving DecidableEq, Repr

structure Variable where
  value : Octets
  exported : Bool
  constant : Bool

inductive Jump where
  | exit (status : ExitStatus)
  | leave (loops : Nat)
  | again (loops : Nat)
  | back
deriving DecidableEq, Repr

structure Session where
  files : FileTree
  input : Octets
  writes : List (Stream × Octets)
  captures : List Octets
  sinks : List (Nat × Sink)
  bindings : List (Octets × Variable)
  functions : List (Octets × Command)
  /-- Variables as they were before the function that is run made them its own. -/
  hidden : List (Octets × Option Variable)
  name : Octets
  arguments : List Octets
  status : Nat
  line : Nat
  context : Octets
  options : List Char
  jump : Option Jump
  loops : Nat
  called : Bool
  farewell : Option Octets
  takes : Nat

def ownNumber : Octets := "1000".toList

namespace Session

def standardVariables : List (Octets × Variable) :=
  [("PATH", "/usr/local/sbin:/usr/local/bin:/usr/sbin:/usr/bin:/sbin:/bin"), ("IFS", " \t\n"),
    ("OPTIND", "1"), ("PS1", "# "), ("PS2", "> "), ("PS4", "+ "), ("PPID", "999")].map
    fun entry => (entry.1.toList, ⟨entry.2.toList, false, false⟩)

def firstVariables (process : Process) : List (Octets × Variable) :=
  let given := process.environment.map fun entry => (entry.1, ⟨entry.2, true, false⟩)
  let here := Octets.ofText (Path.text ⟨true, process.files.here⟩)
  ("PWD".toList, ⟨here, true, false⟩) ::
    (given.filter (·.1 != "PWD".toList) ++
      standardVariables.filter fun entry => !given.any fun other => other.1 == entry.1)

def start (process : Process) (name : Octets) (arguments : List Octets) (options : List Char) :
    Session where
  files := process.files
  input := process.input
  writes := []
  captures := []
  sinks := [(1, .stream .output), (2, .stream .errors)]
  bindings := firstVariables process
  functions := []
  hidden := []
  name := name
  arguments := arguments
  status := 0
  line := 1
  context := []
  options := options
  jump := none
  loops := 0
  called := false
  farewell := none
  takes := 0

def has (session : Session) (option : Char) : Bool := session.options.contains option

def sink? (session : Session) (descriptor : Nat) : Option Sink :=
  (session.sinks.find? fun entry => entry.1 == descriptor).map (·.2)

def send (session : Session) (descriptor : Nat) (sink : Option Sink) : Session :=
  let others := session.sinks.filter fun entry => entry.1 != descriptor
  { session with
    sinks :=
      match sink with
      | some sink => (descriptor, sink) :: others
      | none => others }

def write (session : Session) (descriptor : Nat) (text : Octets) : Session :=
  match session.sink? descriptor with
  | some (.stream stream) => { session with writes := (stream, text) :: session.writes }
  | some (.capture number) =>
      { session with captures := session.captures.modify number (· ++ text) }
  | some (.file location) =>
      match session.files.node? location with
      | some (.file content executable) =>
          let content := content ++ ⟨text.toBytes.toArray⟩
          { session with files := session.files.put location (.file content executable) }
      | _ => session
  | some .nowhere | none => session

def complain (session : Session) (message : Octets) : Session :=
  let context := if session.context.isEmpty then [] else session.context ++ ": ".toList
  session.write 2
    (session.name ++ ": ".toList ++ Numeral.decimal session.line ++ ": ".toList ++ context ++
      message ++ ['\n'])

def within (session : Session) (context : Octets) (run : Session → Session) : Session :=
  { run { session with context } with context := session.context }

def withStatus (session : Session) (status : Nat) : Session := { session with status }

def fail (session : Session) (message : Octets) (status : Nat) : Session :=
  { (session.complain message).withStatus status with jump := some (.exit (.code status)) }

def lookup? (session : Session) (name : Octets) : Option Variable :=
  (session.bindings.find? fun entry => entry.1 == name).map (·.2)

def separators (session : Session) : Octets :=
  match session.lookup? "IFS".toList with
  | some found => found.value
  | none => " \t\n".toList

def joinedArguments (session : Session) : Octets :=
  List.intercalate (session.separators.take 1) session.arguments

def value? (session : Session) (name : Octets) : Option Octets :=
  match name with
  | ['0'] => some session.name
  | ['#'] => some (Numeral.decimal session.arguments.length)
  | ['?'] => some (Numeral.decimal session.status)
  | ['$'] => some ownNumber
  | ['-'] => some session.options
  | ['@'] | ['*'] =>
      if session.arguments.isEmpty then none else some session.joinedArguments
  | name =>
      if name.all Char.isDigit then session.arguments[Numeral.ofDigits 10 name - 1]?
      else (session.lookup? name).map (·.value)

def putVariable (session : Session) (name : Octets) (content : Variable) : Session :=
  { session with
    bindings := (name, content) :: session.bindings.filter fun entry => entry.1 != name }

def dropVariable (session : Session) (name : Octets) : Session :=
  { session with bindings := session.bindings.filter fun entry => entry.1 != name }

def assign (session : Session) (name value : Octets) : Session :=
  match session.lookup? name with
  | some found =>
      if found.constant then session.fail (name ++ ": is read only".toList) 2
      else session.putVariable name { found with value }
  | none => session.putVariable name ⟨value, session.has 'a', false⟩

def environment (session : Session) : Environment :=
  (session.bindings.filter fun entry => entry.2.exported).map fun entry =>
    (entry.1, entry.2.value)

def pathOf (text : Octets) : Path := Path.ofText text.toText

def openingFault (what text : Octets) (missing : String) (cause : IoError) : Octets :=
  "cannot ".toList ++ what ++ [' '] ++ text ++ ": ".toList ++
    (if cause = .notFound ∨ cause = .notDirectory then missing.toList else cause.reason.toList)

def opened (session : Session) (text : Octets) (add : Bool) : Except Octets (Session × Sink) :=
  match String.ofList text with
  | "/dev/null" => .ok (session, .nowhere)
  | "/dev/stdout" | "/dev/fd/1" => .ok (session, (session.sink? 1).getD .nowhere)
  | "/dev/stderr" | "/dev/fd/2" => .ok (session, (session.sink? 2).getD .nowhere)
  | _ =>
      match session.files.openFile (pathOf text) with
      | .error cause =>
          .error (openingFault "create".toList text "Directory nonexistent" cause)
      | .ok (location, files) =>
          let executable :=
            match files.node? location with
            | some (.file _ executable) => executable
            | _ => false
          let files :=
            if add then files else files.put location (.file ByteArray.empty executable)
          .ok ({ session with files }, .file location)

def redirect (session : Session) (descriptor : Nat) (direction : Direction) (target : Octets) :
    Except Octets Session :=
  let toSink (add : Bool) : Except Octets Session :=
    (session.opened target add).map fun (session, sink) => session.send descriptor (some sink)
  match direction with
  | .toFile =>
      if session.has 'C' && session.files.isFile (pathOf target) &&
          target != "/dev/null".toList then
        .error (openingFault "create".toList target "" .alreadyExists)
      else toSink false
  | .replacing => toSink false
  | .appending => toSink true
  | .document => .ok { session with input := target }
  | .from =>
      if target = "/dev/stdin".toList then .ok session
      else
        match session.files.read (pathOf target) with
        | .ok content => .ok { session with input := Octets.ofBytes content.toList }
        | .error .isDirectory => .ok { session with input := [] }
        | .error cause => .error (openingFault "open".toList target "No such file" cause)
  | .duplicate =>
      if target = ['-'] then
        .ok (if descriptor = 0 then { session with input := [] } else session.send descriptor none)
      else if !target.isEmpty && target.all Char.isDigit then
        let source := Numeral.ofDigits 10 target
        if descriptor = 0 then .ok session
        else
          match session.sink? source with
          | some sink => .ok (session.send descriptor (some sink))
          | none => .error (target ++ ": Bad file descriptor".toList)
      else .error "Syntax error: Bad fd number".toList

/-- Takes over what a script run aside has left: what it wrote, the files, the input and the time.
A signal ends both. -/
def absorb (session other : Session) : Session :=
  { session with
    files := { other.files with here := session.files.here }
    input := other.input
    writes := other.writes
    captures := other.captures
    takes := other.takes
    status :=
      match other.jump with
      | some (.exit status) => status.number
      | _ => other.status
    jump :=
      match other.jump with
      | some (.exit (.signal number)) => some (.exit (.signal number))
      | _ => session.jump }

end Session

end TagTemplate.Shell
