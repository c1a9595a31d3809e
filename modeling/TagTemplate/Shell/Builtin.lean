import TagTemplate.Program.Condition
import TagTemplate.Program.Printing
import TagTemplate.Shell.Expansion

/-! The commands that a shell carries out itself, as far as they run no script. -/

namespace TagTemplate.Shell.Builtin

abbrev Action := List Octets → Session → Session

def complain (command message : String) (status : Nat) (session : Session) : Session :=
  session.within command.toList fun session =>
    (session.complain (Octets.ofString message)).withStatus status

def fail (command message : String) (session : Session) : Session :=
  session.within command.toList fun session => session.fail (Octets.ofString message) 2

def number? (standard : Nat) : List Octets → Option Nat
  | [] => some standard
  | text :: _ => Numeral.digitsOnly? text

def jumping (command : String) (standard : Session → Nat) (jump : Nat → Session → Session) :
    Action := fun arguments session =>
  match number? (standard session) arguments with
  | some n => jump n session
  | none => fail command ("Illegal number: " ++ Octets.display (arguments.head?.getD [])) session

def exit : Action :=
  jumping "exit" (·.status) fun n session =>
    { session with jump := some (.exit (.code (n % 256))) }

def back : Action :=
  jumping "return" (·.status) fun n session => { session.withStatus n with jump := some .back }

def leave : Action :=
  jumping "break" (fun _ => 1) fun n session =>
    if n = 0 then fail "break" "Illegal number: 0" session
    else if session.loops = 0 then session.withStatus 0
    else { session.withStatus 0 with jump := some (.leave (min n session.loops)) }

def again : Action :=
  jumping "continue" (fun _ => 1) fun n session =>
    if n = 0 then fail "continue" "Illegal number: 0" session
    else if session.loops = 0 then session.withStatus 0
    else { session.withStatus 0 with jump := some (.again (min n session.loops)) }

def shift : Action :=
  jumping "shift" (fun _ => 1) fun n session =>
    if session.arguments.length < n then fail "shift" "can't shift that many" session
    else { session.withStatus 0 with arguments := session.arguments.drop n }

def echo : Action := fun arguments session =>
  (session.write 1 (Printing.shellEcho arguments)).withStatus 0

def printf : Action := fun arguments session =>
  match arguments with
  | [] => complain "printf" "usage: printf format [arg ...]" 2 session
  | ['-', '-'] :: format :: rest | format :: rest =>
      let printed := Printing.printed format rest.length rest
      let session := session.write 1 printed.text
      let session := printed.complaints.foldl
        (fun session message => complain "printf" message 1 session) session
      session.withStatus (if printed.complaints.isEmpty then 0 else 1)

def test (command : String) : Action := fun arguments session =>
  match Condition.verdict session.files arguments with
  | .ok holds => session.withStatus (if holds then 0 else 1)
  | .error message => complain command message 2 session

def bracket : Action := fun arguments session =>
  if arguments.getLast? = some [']'] then test "[" arguments.dropLast session
  else complain "[" "missing ]" 2 session

def optionNames : List (String × Char) :=
  [("errexit", 'e'), ("noglob", 'f'), ("ignoreeof", 'I'), ("interactive", 'i'), ("monitor", 'm'),
    ("noexec", 'n'), ("stdin", 's'), ("xtrace", 'x'), ("verbose", 'v'), ("vi", 'V'), ("emacs", 'E'),
    ("noclobber", 'C'), ("allexport", 'a'), ("notify", 'b'), ("nounset", 'u'), ("nolog", 'N'),
    ("debug", 'D')]

def optionLetters : List Char := optionNames.map (·.2)

def changed (on : Bool) (options : List Char) (letter : Char) : List Char :=
  let others := options.filter (· != letter)
  if on then others ++ [letter] else others

/-- What is read of options at the start of arguments, of which the letters are known: those that
are set then, and what follows them, if anything does; or the one that does not exist. A letter `o`
takes the name of an option as an argument. -/
def readOptions (known : List Char) (options : List Char) :
    List Octets → Except Octets (List Char × Option (List Octets))
  | [] => .ok (options, none)
  | word :: rest =>
      match word with
      | ['-', '-'] | ['-'] => .ok (options, some rest)
      | sign :: letters =>
          if sign ≠ '-' ∧ sign ≠ '+' then .ok (options, some (word :: rest))
          else
            let named := letters.contains 'o'
            let letters := letters.filter (· != 'o')
            match letters.find? fun letter => !known.contains letter, named, rest with
            | some letter, _, _ => .error ['-', letter]
            | none, true, name :: rest =>
                match optionNames.find? fun entry => entry.1.toList == name with
                | some (_, letter) =>
                    readOptions known
                      ((letters ++ [letter]).foldl (changed (sign == '-')) options) rest
                | none => .error ("-o ".toList ++ name)
            | none, _, rest =>
                readOptions known (letters.foldl (changed (sign == '-')) options) rest
      | [] => .ok (options, some (word :: rest))

def isName (text : Octets) : Bool := text.head?.any isNameStart && text.all isNameChar

def unset : Action := fun arguments session =>
  arguments.foldl
    (fun session name =>
      if name = ['-', 'v'] ∨ name = ['-', 'f'] then session
      else if !isName name then fail "unset" (Octets.display name ++ ": bad variable name") session
      else
        { session.dropVariable name with
          functions := session.functions.filter fun entry => entry.1 != name })
    (session.withStatus 0)

def declaration (text : Octets) : Octets × Option Octets :=
  match text.dropWhile (· != '=') with
  | _ :: value => (text.takeWhile (· != '='), some value)
  | [] => (text, none)

def declare (before : Octets → Session → Session) (change : Variable → Variable) : Action :=
  fun arguments session =>
    arguments.foldl
      (fun session text =>
        if text.head? = some '-' then session
        else
          let (name, value) := declaration text
          let session := before name session
          let session :=
            match value with
            | some value => session.assign name value
            | none => session
          match session.lookup? name with
          | some found => session.putVariable name (change found)
          | none => session)
      (session.withStatus 0)

def quotedValue (value : Octets) : Octets :=
  '\'' :: value.flatMap (fun c => if c = '\'' then "'\"'\"'".toList else [c]) ++ ['\'']

def listVariables (front : String) (chosen : Variable → Bool) (session : Session) : Session :=
  let found := (session.bindings.filter fun entry => chosen entry.2).mergeSort
    fun first second => Text.isAtMost first.1 second.1
  (session.write 1
    (found.flatMap fun entry =>
      front.toList ++ entry.1 ++ '=' :: quotedValue entry.2.value ++ ['\n'])).withStatus 0

def marking (command : String) (isMarked : Variable → Bool) (mark : Variable → Variable) : Action :=
  fun arguments session =>
    if arguments.all (· == ['-', 'p']) then
      listVariables (command ++ " ") isMarked session
    else declare (fun _ session => session) mark arguments session

def setOptions : Action := fun arguments session =>
  if arguments.isEmpty then listVariables "" (fun _ => true) session
  else match readOptions optionLetters session.options arguments with
  | .error option => fail "set" ("Illegal option " ++ Octets.display option) session
  | .ok (options, rest) =>
      { session.withStatus 0 with options, arguments := rest.getD session.arguments }

def exportVariables : Action :=
  marking "export" (·.exported) fun found => { found with exported := true }

def makeConstant : Action :=
  marking "readonly" (·.constant) fun found => { found with constant := true }

def makeLocal : Action := fun arguments session =>
  if session.called then
    declare
      (fun name session =>
        { session with hidden := (name, session.lookup? name) :: session.hidden })
      id arguments session
  else fail "local" "not in a function" session

def changeDirectory : Action := fun arguments session =>
  let arguments := arguments.filter fun word => !(["-L", "-P", "--"].any (·.toList == word))
  let goal :=
    match arguments with
    | [] => (session.value? "HOME".toList).getD []
    | ['-'] :: _ => (session.value? "OLDPWD".toList).getD []
    | directory :: _ => directory
  let goal := if goal.isEmpty then ['.'] else goal
  match session.files.find? (Session.pathOf goal) with
  | some (location, .directory) =>
      let before := (session.value? "PWD".toList).getD []
      let now := Octets.ofText (Path.text ⟨true, location⟩)
      let session :=
        { session.withStatus 0 with files := { session.files with here := location } }
      let session := (session.assign "OLDPWD".toList before).assign "PWD".toList now
      if arguments.head? = some ['-'] then session.write 1 (now ++ ['\n']) else session
  | _ => complain "cd" ("can't cd to " ++ Octets.display goal) 2 session

def printDirectory : Action := fun _ session =>
  (session.write 1
    (Octets.ofText (Path.text ⟨true, session.files.here⟩) ++ ['\n'])).withStatus 0

def inputLine (backslashes : Bool) : Octets → List (Char × Bool) × Octets × Bool
  | [] => ([], [], false)
  | '\n' :: rest => ([], rest, true)
  | '\\' :: c :: rest =>
      if backslashes then
        if c = '\n' then inputLine backslashes rest
        else
          let (line, after) := inputLine backslashes rest
          ((c, true) :: line, after)
      else
        let (line, after) := inputLine backslashes (c :: rest)
        (('\\', false) :: line, after)
  | c :: rest =>
      let (line, after) := inputLine backslashes rest
      ((c, false) :: line, after)

def lineParts (separators : Octets) : Nat → List (Char × Bool) → List Octets
  | 0, _ => []
  | 1, line =>
      let isBlank (entry : Char × Bool) : Bool :=
        !entry.2 && separators.contains entry.1 && " \t\n".contains entry.1
      let line := line.dropWhile isBlank
      [(line.reverse.dropWhile isBlank).reverse.map (·.1)]
  | names + 1, line =>
      let separates (entry : Char × Bool) : Bool := !entry.2 && separators.contains entry.1
      let isBlank (entry : Char × Bool) : Bool := separates entry && " \t\n".contains entry.1
      let line := line.dropWhile isBlank
      let rest := (line.dropWhile fun entry => !separates entry).dropWhile isBlank
      let rest :=
        match rest with
        | entry :: more => if separates entry then more else rest
        | [] => []
      (line.takeWhile fun entry => !separates entry).map (·.1) :: lineParts separators names rest

def readLine : Action := fun arguments session =>
  let raw := arguments.contains "-r".toList
  let names := arguments.filter fun word => word.head? != some '-'
  if names.isEmpty then complain "read" "arg count" 2 session
  else
    let (line, rest, ended) := inputLine (!raw) session.input
    let values := lineParts session.separators names.length line
    let session := { session.withStatus (if ended then 0 else 1) with input := rest }
    (names.zip values).foldl (fun session entry => session.assign entry.1 entry.2) session

def signal? (name : Octets) : Option Nat :=
  match Numeral.digitsOnly? name with
  | some number => if number ≤ 64 then some number else none
  | none =>
      let short := (Text.stripStart? "SIG".toList name).getD name
      (signalNames.findIdx? (· == String.ofList short)).map (· + 1)

def idleSignals : List Nat := [0, 17, 18, 23, 28]

def sendSignal : Action := fun arguments session =>
  let (name, targets) : Octets × List Octets :=
    match arguments with
    | ['-', 's'] :: name :: targets => (name, targets)
    | ['-', '-'] :: targets => ("TERM".toList, targets)
    | ('-' :: name) :: targets => (name, targets)
    | targets => ("TERM".toList, targets)
  match signal? name with
  | none =>
      if arguments.head?.any (·.length == 2) then
        complain "kill" ("invalid signal number or name: " ++ Octets.display name) 2 session
      else complain "kill" ("Illegal option -" ++ Octets.display (name.take 1)) 2 session
  | some number =>
      if targets.contains ownNumber then
        if idleSignals.contains number then session.withStatus 0
        else { session with jump := some (.exit (.signal number)) }
      else if targets.isEmpty then
        complain "kill"
          "Usage: kill [-s sigspec | -signum | -sigspec] [pid | job]... or\nkill -l [exitstatus]" 2
          session
      else complain "kill" "No such process" 1 session

def signalName (text : Octets) : Action := fun _ session =>
  match Numeral.digitsOnly? text with
  | none => complain "kill" ("Illegal number: " ++ Octets.display text) 2 session
  | some number =>
      let number := if 128 < number then number - 128 else number
      match if number = 0 then some "EXIT" else signalNames[number - 1]? with
      | some name => (session.write 1 (name.toList ++ ['\n'])).withStatus 0
      | none =>
          let message := "invalid signal number or exit status: " ++ Octets.display text
          complain "kill" message 2 session

def kill : Action := fun arguments session =>
  match arguments with
  | ['-', 'l'] :: text :: _ => signalName text [] session
  | _ => sendSignal arguments session

def trap : Action := fun arguments session =>
  match arguments.filter (· != ['-', '-']) with
  | action :: conditions =>
      if conditions.any fun condition => condition == "EXIT".toList || condition == ['0'] then
        { session.withStatus 0 with farewell := if action = ['-'] then none else some action }
      else session.withStatus 0
  | [] => session.withStatus 0

def nothing : Action := fun _ session => session.withStatus 0

def mask : Action := fun arguments session =>
  if arguments.isEmpty then (session.write 1 "0022\n".toList).withStatus 0
  else session.withStatus 0

/-- The commands that keep the assignments in front of them, and whose faults end a script. -/
def special : List (String × Action) :=
  [(":", nothing), ("break", leave), ("continue", again), ("exit", exit), ("return", back),
    ("shift", shift), ("set", setOptions), ("unset", unset), ("export", exportVariables),
    ("readonly", makeConstant), ("trap", trap), ("times", nothing)]

def regular : List (String × Action) :=
  [("true", nothing), ("false", fun _ session => session.withStatus 1), ("echo", echo),
    ("printf", printf), ("test", test "test"), ("[", bracket), ("cd", changeDirectory),
    ("pwd", printDirectory), ("read", readLine), ("kill", kill), ("local", makeLocal),
    ("wait", nothing), ("umask", mask), ("ulimit", nothing), ("hash", nothing), ("jobs", nothing),
    ("alias", nothing), ("unalias", nothing)]

def find? (commands : List (String × Action)) (name : Octets) : Option Action :=
  (commands.find? fun entry => entry.1.toList == name).map (·.2)

end TagTemplate.Shell.Builtin
