import TagTemplate.Program.Condition
import TagTemplate.Program.Options
import TagTemplate.Program.Printing

/-! Programs that read no input: they write words, decide conditions, take paths apart or wait. -/

namespace TagTemplate.Basics

def succeed (process : Process) : Outcome := .ended process 0

def fail (process : Process) : Outcome := .ended process 1

def echo (process : Process) : Outcome :=
  .wrote process (Printing.programEcho process.arguments)

def printf (process : Process) : Outcome :=
  match process.arguments with
  | [] => process.misused 1 "missing operand"
  | format :: rest =>
      let printed := Printing.printed format rest.length rest
      let complaints := printed.complaints.flatMap fun message =>
        Octets.ofString (process.remark message ++ "\n")
      { (Outcome.wrote process printed.text).after complaints with
        status := .code (if complaints.isEmpty then 0 else 1) }

def test (process : Process) : Outcome :=
  match Condition.verdict process.files process.arguments with
  | .ok holds => .ended process (if holds then 0 else 1)
  | .error message => .complained process 2 (process.remark message)

def bracket (process : Process) : Outcome :=
  if process.arguments.getLast? = some [']'] then
    test { process with arguments := process.arguments.dropLast }
  else .complained process 2 (process.remark "missing ']'")

def unit? (text : Octets) : Option Nat :=
  match text with
  | [] | ['s'] => some 1000
  | ['m'] => some 60000
  | ['h'] => some 3600000
  | ['d'] => some 86400000
  | _ => none

def duration? (text : Octets) : Option Nat :=
  let (whole, rest) := text.span Char.isDigit
  let (fraction, rest) :=
    match rest with
    | '.' :: rest => rest.span Char.isDigit
    | rest => ([], rest)
  if whole.isEmpty && fraction.isEmpty then none
  else
    (unit? rest).map fun unit =>
      Numeral.ofDigits 10 (whole ++ fraction) * unit / Nat.pow 10 fraction.length

def sleep (process : Process) : Outcome :=
  match process.arguments with
  | [] => process.misused 1 "missing operand"
  | arguments =>
      match arguments.find? fun text => (duration? text).isNone with
      | some wrong =>
          process.misused 1 ("invalid time interval " ++ Octets.quoted wrong)
      | none =>
          { Outcome.ended process 0 with
            takes := (arguments.filterMap duration?).foldl (· + ·) 0 }

def withoutSlashes (text : Octets) : Octets :=
  match Text.dropEndWhile (· == '/') text with
  | [] => text.take 1
  | kept => kept

def lastName (text : Octets) : Octets :=
  match withoutSlashes text with
  | ['/'] => ['/']
  | kept => (kept.reverse.takeWhile (· != '/')).reverse

def directoryName (text : Octets) : Octets :=
  match withoutSlashes text with
  | ['/'] => ['/']
  | kept =>
      let before := (kept.reverse.dropWhile (· != '/')).reverse
      if before.isEmpty then ['.'] else withoutSlashes before

def withoutEnding (ending name : Octets) : Octets :=
  if !ending.isEmpty && ending.isSuffixOf name && name != ending then
    name.take (name.length - ending.length)
  else name

def basename (process : Process) : Outcome :=
  let table : OptionTable := ⟨"a", "s", [("multiple", 'a'), ("suffix", 's')]⟩
  process.withOptions table 1 fun given =>
    match given.has 'a' || given.has 's', given.operands with
    | _, [] => process.misused 1 "missing operand"
    | true, names =>
        .wrote process
          (names.flatMap fun name =>
            withoutEnding ((given.value? 's').getD []) (lastName name) ++ ['\n'])
    | false, [name] => .wrote process (lastName name ++ ['\n'])
    | false, [name, ending] => .wrote process (withoutEnding ending (lastName name) ++ ['\n'])
    | false, _ :: _ :: extra :: _ =>
        process.misused 1 ("extra operand " ++ Octets.quoted extra)

def dirname (process : Process) : Outcome :=
  process.withOptions ⟨"", "", []⟩ 1 fun given =>
    if given.operands.isEmpty then process.misused 1 "missing operand"
    else .wrote process (given.operands.flatMap fun name => directoryName name ++ ['\n'])

def pwd (process : Process) : Outcome :=
  .wrote process (Octets.ofText (Path.text ⟨true, process.files.here⟩) ++ ['\n'])

def which (process : Process) : Outcome :=
  let (options, names) := process.arguments.partition (·.head? == some '-')
  let all := options.contains "-a".toList
  let paths (name : Octets) : List Path :=
    let named := Path.ofText name.toText
    let candidates :=
      if name.contains '/' then [named]
      else process.environment.searchDirectories.map (·.join named)
    let found := candidates.filter fun path =>
      match process.files.find? path with
      | some (_, .file _ executable) => executable
      | _ => false
    if all then found else found.take 1
  let found := names.map paths
  { Outcome.wrote process (found.flatten.flatMap fun path => Octets.ofText path.text ++ ['\n']) with
    status := .code (if found.any List.isEmpty || names.isEmpty then 1 else 0) }

def whoami (process : Process) : Outcome := .wrote process "root\n".toList

def uname (process : Process) : Outcome :=
  process.withOptions ⟨"s", "", [("kernel-name", 's')]⟩ 1 fun _ => .wrote process "Linux\n".toList

def printenv (process : Process) : Outcome :=
  match process.arguments with
  | [] =>
      .wrote process
        (process.environment.flatMap fun entry => entry.1 ++ '=' :: entry.2 ++ ['\n'])
  | names =>
      let values := names.filterMap fun name =>
        (process.environment.find? fun entry => entry.1 == name).map (·.2)
      { Outcome.wrote process (values.flatMap (· ++ ['\n'])) with
        status := .code (if values.length = names.length then 0 else 1) }

end TagTemplate.Basics
