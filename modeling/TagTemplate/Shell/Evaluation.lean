import TagTemplate.Shell.Builtin

/-! What the commands of a script do to the session of a shell. -/

namespace TagTemplate.Shell

/-- What carries out a command. It is told whether the status of the command is looked at, in which
case a failure does not end the script. -/
abbrev Evaluator := (tested : Bool) → Command → Session → Session

namespace Evaluation

def runLines (evaluate : Evaluator) : Nat → Reading → Session → Session
  | 0, _, session => session
  | fuel + 1, reading, session =>
      if session.jump.isSome then session
      else
        match Reader.nextLine.run reading with
        | .error fault =>
            { session with line := fault.line }.fail
              (Octets.ofString ("Syntax error: " ++ fault.message)) 2
        | .ok (none, _) => session
        | .ok (some command, rest) =>
            runLines evaluate fuel rest
              (evaluate false command session)

def runText (evaluate : Evaluator) (text : Octets) (session : Session) : Session :=
  let reading := Reading.ofText text
  runLines evaluate (reading.tokens.length + 1) reading session

def aside (run : Session → Session) (session : Session) : Session :=
  session.absorb (run { session with loops := 0, farewell := none })

def captured (run : Session → Session) (session : Session) : Octets × Session :=
  let number := session.captures.length
  let within := { session with captures := session.captures ++ [[]], loops := 0, farewell := none }
  let after := run (within.send 1 (some (.capture number)))
  (after.captures[number]?.getD [],
    session.absorb { after with captures := after.captures.take number })

def substitution (evaluate : Evaluator) : Substitution := fun script session =>
  captured (fun session => runText evaluate script session) session

def redirectAll (substitute : Substitution) (fuel : Nat) :
    List Redirection → Session → Session × Option Octets
  | [], session => (session, none)
  | redirection :: rest, session =>
      let (target, session) := Expansion.text substitute fuel redirection.target session
      match session.redirect redirection.descriptor redirection.direction target with
      | .ok session => redirectAll substitute fuel rest session
      | .error message => (session, some message)

def restored (before : Session) (redirections : List Redirection) (session : Session) : Session :=
  if redirections.isEmpty then session
  else
    { session with
      sinks := before.sinks
      input :=
        if redirections.any (·.descriptor == 0) then before.input else session.input }

def checked (tested : Bool) (session : Session) : Session :=
  if !tested && session.has 'e' && session.status != 0 && session.jump.isNone then
    { session with jump := some (.exit (.code session.status)) }
  else session

def assignAll (substitute : Substitution) (fuel : Nat) (assignments : List (Octets × Word))
    (session : Session) : Session :=
  assignments.foldl
    (fun session assignment =>
      let (value, session) := Expansion.text substitute fuel assignment.2 session
      if session.jump.isSome then session else session.assign assignment.1 value)
    session

def exported (session : Session) (name : Octets) : Session :=
  match session.lookup? name with
  | some found => session.putVariable name { found with exported := true }
  | none => session

def broughtBack (before : Option Variable) (session : Session) (name : Octets) : Session :=
  match before with
  | some found => session.putVariable name found
  | none => session.dropVariable name

def signalNotice (number : Nat) : Option String :=
  match number with
  | 1 => some "Hangup"
  | 3 => some "Quit"
  | 4 => some "Illegal instruction"
  | 6 => some "Aborted"
  | 8 => some "Floating point exception"
  | 9 => some "Killed"
  | 11 => some "Segmentation fault"
  | 14 => some "Alarm clock"
  | 15 => some "Terminated"
  | _ => none

def taken (session : Session) (outcome : Outcome) : Session :=
  let session := { session with
    files := { outcome.files with here := session.files.here }
    input := outcome.rest
    status := outcome.status.number
    takes := session.takes + outcome.takes }
  outcome.writes.foldl
    (fun session (stream, text) => session.write (if stream = .output then 1 else 2) text)
    session

def noticed (session : Session) (status : ExitStatus) : Session :=
  match status with
  | .signal number =>
      match signalNotice number with
      | some notice => session.write 2 (notice.toList ++ ['\n'])
      | none => session
  | .code _ => session

def startProgram (start : Starter) (name : Octets) (arguments : List Octets)
    (goOn : ExitStatus → Session → Session) (session : Session) : Session :=
  let process : Process :=
    ⟨session.files, session.environment, name, arguments, session.input⟩
  match start.orScript process with
  | .ok outcome => goOn outcome.status (taken session outcome)
  | .error cause =>
      let missing := cause == .notFound || cause == .notDirectory
      let status := if missing || cause == .tooManyLinks || cause == .nameTooLong then 127 else 126
      let reason := if missing then "not found" else cause.reason
      goOn (.code status)
        ((session.complain (name ++ ": ".toList ++ reason.toList)).withStatus status)

def programPath? (session : Session) (name : Octets) : Option Octets :=
  let isProgram (path : Path) : Bool :=
    match session.files.find? path with
    | some (_, .file _ executable) => executable
    | _ => false
  if name.contains '/' then
    if isProgram (Session.pathOf name) then some name else none
  else
    ((session.environment.searchDirectories.map
      (·.join (Path.ofText name.toText))).find? isProgram).map fun path => Octets.ofText path.text

def describe (brief : Bool) (session : Session) (name : Octets) : Session :=
  let line (text : Octets) : Session := (session.write 1 (text ++ ['\n'])).withStatus 0
  if keywords.any (·.toList == name) then
    line (if brief then name else name ++ " is a shell keyword".toList)
  else if (Builtin.find? Builtin.special name).isSome then
    line (if brief then name else name ++ " is a special shell builtin".toList)
  else if session.functions.any (·.1 == name) then
    line (if brief then name else name ++ " is a shell function".toList)
  else if (Builtin.find? Builtin.regular name).isSome then
    line (if brief then name else name ++ " is a shell builtin".toList)
  else
    match programPath? session name with
    | some path => line (if brief then path else name ++ " is ".toList ++ path)
    | none =>
        if brief then session.withStatus 127
        else (session.write 1 (name ++ ": not found\n".toList)).withStatus 127

def call (evaluate : Evaluator) (tested : Bool) (body : Command) (arguments : List Octets)
    (session : Session) : Session :=
  let after :=
    evaluate tested body { session with arguments, hidden := [], loops := 0, called := true }
  let after := after.hidden.foldl
    (fun after entry => broughtBack entry.2 after entry.1) after
  { after with
    arguments := session.arguments
    hidden := session.hidden
    loops := session.loops
    called := session.called
    jump := if after.jump = some .back then none else after.jump }

def sourcePath? (session : Session) (name : Octets) : Option Octets :=
  if name.contains '/' then some name
  else
    ((session.environment.searchDirectories.map (·.join (Path.ofText name.toText))).find?
      session.files.isFile).map fun path => Octets.ofText path.text

def source (evaluate : Evaluator) (arguments : List Octets) (session : Session) : Session :=
  match arguments with
  | [] => session.withStatus 0
  | name :: _ =>
      match sourcePath? session name with
      | none => Builtin.fail "." (Octets.display name ++ ": not found") session
      | some file =>
          match session.files.read (Session.pathOf file) with
          | .error cause =>
              Builtin.fail "."
                (Octets.display (Session.openingFault "open".toList file "No such file" cause))
                session
          | .ok content =>
              let run := runText evaluate (Octets.ofBytes content.toList)
              let after := (session.withStatus 0).within file run
              { after with jump := if after.jump = some .back then none else after.jump }

def perform (start : Starter) (evaluate : Evaluator) (tested plainly : Bool) (name : Octets)
    (arguments : List Octets) (session : Session) : Session :=
  let found :=
    if plainly then none else session.functions.find? fun entry => entry.1 == name
  match Builtin.find? Builtin.special name, found with
  | some action, _ => action arguments session
  | none, some (_, body) => call evaluate tested body arguments session
  | none, none =>
      match Builtin.find? Builtin.regular name with
      | some action => action arguments session
      | none =>
          startProgram start name arguments (fun status session => noticed session status) session

def performAny (start : Starter) (evaluate : Evaluator) (tested : Bool) (name : Octets)
    (arguments : List Octets) (session : Session) : Session :=
  match String.ofList name, arguments with
  | "eval", arguments =>
      (session.withStatus 0).within name (runText evaluate (Printing.spaced arguments))
  | "command", ['e', 'v', 'a', 'l'] :: arguments =>
      (session.withStatus 0).within "eval".toList
        (runText evaluate (Printing.spaced arguments))
  | ".", arguments => source evaluate arguments session
  | "exec", [] => session.withStatus 0
  | "exec", program :: arguments =>
      session.within name
        (startProgram start program arguments fun status after =>
          { after with jump := some (.exit status) })
  | "command", ['-', 'v'] :: name :: _ => describe true (session.withStatus 0) name
  | "command", ['-', 'V'] :: name :: _ => describe false (session.withStatus 0) name
  | "type", names =>
      names.foldl (fun session name => describe false session name) (session.withStatus 0)
  | "command", name :: arguments => perform start evaluate tested true name arguments session
  | "command", [] => session.withStatus 0
  | _, arguments => perform start evaluate tested false name arguments session

def keepsAssignments (name : Octets) : Bool :=
  ["eval", ".", "exec"].any (·.toList == name) || (Builtin.find? Builtin.special name).isSome

def runsScript (word : Word) : Bool :=
  word.any fun part =>
    match part with
    | .command _ _ => true
    | _ => false

def assignOnly (substitute : Substitution) (fuel : Nat) (assignments : List (Octets × Word))
    (words : List Word) (redirections : List Redirection) (session : Session) : Session :=
  let (redirected, fault) := redirectAll substitute fuel redirections session
  match fault with
  | some message => (restored session redirections (redirected.complain message)).withStatus 2
  | none =>
      let after := assignAll substitute fuel assignments redirected
      let after := restored session redirections after
      if after.jump.isSome || words.any runsScript || assignments.any (runsScript ·.2) then after
      else after.withStatus 0

def simple (start : Starter) (evaluate : Evaluator) (fuel : Nat) (tested : Bool) (line : Nat)
    (assignments : List (Octets × Word)) (words : List Word) (redirections : List Redirection)
    (session : Session) : Session :=
  let substitute := substitution evaluate
  let (texts, session) := Expansion.allWords substitute fuel words { session with line }
  if session.jump.isSome then session
  else
    match texts with
    | [] => assignOnly substitute fuel assignments words redirections session
    | name :: arguments =>
        let session :=
          if session.has 'x' then
            session.write 2 ("+ ".toList ++ Printing.spaced (name :: arguments) ++ ['\n'])
          else session
        let (redirected, fault) := redirectAll substitute fuel redirections session
        let lasting := keepsAssignments name
        match fault with
        | some message =>
            let after := (restored session redirections (redirected.complain message)).withStatus 2
            if lasting then { after with jump := some (.exit (.code 2)) } else after
        | none =>
            let names := assignments.map (·.1)
            let ready := assignAll substitute fuel assignments redirected
            let ready := if lasting then ready else names.foldl exported ready
            if ready.jump.isSome then ready
            else
              let after := performAny start evaluate tested name arguments ready
              let after :=
                if lasting then after
                else
                  names.foldl (fun after name => broughtBack (session.lookup? name) after name)
                    after
              if name = "exec".toList ∧ arguments = [] then after
              else restored session redirections after

def afterTurn (session : Session) : Bool × Session :=
  match session.jump with
  | none => (false, session)
  | some (.leave n) =>
      (true, { session with jump := if n ≤ 1 then none else some (.leave (n - 1)) })
  | some (.again n) =>
      if n ≤ 1 then (false, { session with jump := none })
      else (true, { session with jump := some (.again (n - 1)) })
  | some _ => (true, session)

def loop (evaluate : Evaluator) (tested whileTrue : Bool) (condition body : Command) :
    Nat → (status : Nat) → Session → Session
  | 0, _, session => session
  | fuel + 1, status, session =>
      let (stops, decided) := afterTurn (evaluate true condition session)
      if stops then decided
      else if (decided.status == 0) != whileTrue then decided.withStatus status
      else
        let (stops, after) := afterTurn (evaluate tested body decided)
        if stops then after
        else loop evaluate tested whileTrue condition body fuel after.status after

def each (evaluate : Evaluator) (tested : Bool) (name : Octets) (body : Command) :
    List Octets → Session → Session
  | [], session => session
  | value :: rest, session =>
      let (stops, after) := afterTurn (evaluate tested body (session.assign name value))
      if stops then after else each evaluate tested name body rest after

def acceptsAny (substitute : Substitution) (fuel : Nat) (text : Octets) :
    List Word → Session → Bool × Session
  | [], session => (false, session)
  | word :: rest, session =>
      let (found, session) := Expansion.pieces substitute fuel true word session
      if (Expansion.patternOf found).accepts text then (true, session)
      else acceptsAny substitute fuel text rest session

def choose (substitute : Substitution) (evaluate : Evaluator) (fuel : Nat) (tested : Bool)
    (text : Octets) : List (List Word × Command) → Session → Session
  | [], session => session.withStatus 0
  | (patterns, body) :: rest, session =>
      let (accepted, session) := acceptsAny substitute fuel text patterns session
      if accepted then evaluate tested body session
      else choose substitute evaluate fuel tested text rest session

def inTurn (evaluate : Evaluator) (tested : Bool) : List Command → Session → Session
  | [], session => session
  | command :: rest, session =>
      let after := evaluate tested command session
      if after.jump.isSome then after else inTurn evaluate tested rest after

def piped (evaluate : Evaluator) : List Command → Session → Session
  | [], session => session
  | [last], session => aside (fun session => evaluate true last session) session
  | command :: rest, session =>
      let (output, after) := captured (fun session => evaluate true command session) session
      let last := piped evaluate rest { after with input := output }
      { last with input := after.input }

def step (start : Starter) (evaluate : Evaluator) (fuel : Nat) : Evaluator :=
  fun tested command session =>
    let substitute := substitution evaluate
    if session.has 'n' then session
    else match command with
    | .simple line assignments words redirections =>
        checked tested
          (simple start evaluate fuel tested line assignments words redirections session)
    | .pipeline commands => checked tested (piped evaluate commands session)
    | .negation command =>
        let after := evaluate true command session
        after.withStatus (if after.status = 0 then 1 else 0)
    | .both first second =>
        let after := evaluate true first session
        if after.jump.isSome || after.status != 0 then after else evaluate tested second after
    | .either first second =>
        let after := evaluate true first session
        if after.jump.isSome || after.status == 0 then after else evaluate tested second after
    | .sequence [] => session.withStatus 0
    | .sequence commands => inTurn evaluate tested commands session
    | .group body => evaluate tested body session
    | .subshell body =>
        checked tested (aside (fun session => evaluate tested body session) session)
    | .branch condition body otherwise =>
        let decided := evaluate true condition session
        if decided.jump.isSome then decided
        else evaluate tested (if decided.status = 0 then body else otherwise) decided
    | .loop whileTrue condition body =>
        let after :=
          loop evaluate tested whileTrue condition body fuel 0
            { session with loops := session.loops + 1 }
        { after with loops := session.loops }
    | .each name words body =>
        let (values, session) :=
          match words with
          | some words => Expansion.allWords substitute fuel words session
          | none => (session.arguments, session)
        let after :=
          each evaluate tested name body values
            { session.withStatus 0 with loops := session.loops + 1 }
        { after with loops := session.loops }
    | .choice subject cases =>
        let (text, session) := Expansion.text substitute fuel subject session
        choose substitute evaluate fuel tested text cases session
    | .function name body =>
        { session.withStatus 0 with
          functions := (name, body) :: session.functions.filter fun entry => entry.1 != name }
    | .redirected command redirections =>
        let (redirected, fault) := redirectAll substitute fuel redirections session
        match fault with
        | some message =>
            (restored session redirections (redirected.complain message)).withStatus 2
        | none => restored session redirections (evaluate tested command redirected)

def evaluator (start : Starter) : Nat → Evaluator
  | 0 => fun _ _ session => { session with jump := some (.exit (.code 2)) }
  | fuel + 1 => step start (evaluator start fuel) fuel

def depthLimit : Nat := 100000

end Evaluation

def Session.runToEnd (start : Starter) (session : Session) (script : Octets) : Session :=
  let evaluate := Evaluation.evaluator start Evaluation.depthLimit
  let after := Evaluation.runText evaluate script session
  match after.farewell, after.jump with
  | _, some (.exit (.signal _)) | none, _ => after
  | some farewell, jump =>
      let last := Evaluation.runText evaluate farewell { after with jump := none, farewell := none }
      { last with
        jump := last.jump.or jump
        status := if last.jump.isNone then after.status else last.status }

def Session.outcome (session : Session) : Outcome where
  status :=
    match session.jump with
    | some (.exit status) => status
    | _ => .code session.status
  writes := session.writes.reverse
  rest := session.input
  files := session.files
  takes := session.takes

def misused (process : Process) (message : Octets) : Outcome :=
  { Outcome.ended process 2 with
    writes := [(.errors, process.name ++ ": 0: ".toList ++ message ++ ['\n'])] }

def run (start : Starter) (process : Process) : Outcome :=
  match Builtin.readOptions ('c' :: Builtin.optionLetters) [] process.arguments with
  | .error option => misused process ("Illegal option ".toList ++ option)
  | .ok (letters, rest) =>
      let options := letters.filter (· != 'c')
      let readScript (arguments : List Octets) : Outcome :=
        let session := Session.start { process with input := [] } process.name arguments options
        (session.runToEnd start process.input).outcome
      match letters.contains 'c', rest.getD [] with
      | true, [] => misused process "-c requires an argument".toList
      | true, script :: rest =>
          let name := rest.head?.getD process.name
          ((Session.start process name rest.tail options).runToEnd start script).outcome
      | false, [] => readScript []
      | false, file :: rest =>
          if letters.contains 's' then readScript (file :: rest)
          else
            let runText (text : Octets) : Outcome :=
              ((Session.start process file rest options).runToEnd start text).outcome
            match process.files.read (Session.pathOf file) with
            | .ok content => runText (Octets.ofBytes content.toList)
            | .error .isDirectory => runText []
            | .error cause =>
                misused process (Session.openingFault "open".toList file "No such file" cause)

end TagTemplate.Shell
