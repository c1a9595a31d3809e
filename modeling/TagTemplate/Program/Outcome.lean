import TagTemplate.FileTree
import TagTemplate.Program.Environment

/-! Programs from outside: what one is started with, and what it leaves behind when it has ended. -/

namespace TagTemplate

structure Process where
  files : FileTree
  environment : Environment
  name : Octets
  arguments : List Octets
  input : Octets

inductive ExitStatus where
  | code (number : Nat)
  | signal (number : Nat)
deriving DecidableEq, Repr

def signalNames : List String :=
  ["HUP", "INT", "QUIT", "ILL", "TRAP", "ABRT", "BUS", "FPE", "KILL", "USR1", "SEGV", "USR2",
    "PIPE", "ALRM", "TERM", "STKFLT", "CHLD", "CONT", "STOP", "TSTP", "TTIN", "TTOU", "URG", "XCPU",
    "XFSZ", "VTALRM", "PROF", "WINCH", "IO", "PWR", "SYS"]

def ExitStatus.text : ExitStatus → String
  | .code number => "exit status: " ++ toString number
  | .signal number =>
      let name :=
        match signalNames[number - 1]? with
        | some name => " (SIG" ++ name ++ ")"
        | none => ""
      "signal: " ++ toString number ++ name

def ExitStatus.number : ExitStatus → Nat
  | .code number => number
  | .signal number => 128 + number

inductive Stream where
  | output
  | errors
deriving DecidableEq, Repr

structure Outcome where
  status : ExitStatus
  writes : List (Stream × Octets)
  rest : Octets
  files : FileTree
  takes : Nat

namespace Outcome

def isSuccess (outcome : Outcome) : Bool := outcome.status == .code 0

def written (outcome : Outcome) (stream : Stream) : Octets :=
  (outcome.writes.filter fun entry => entry.1 == stream).flatMap (·.2)

def ended (process : Process) (number : Nat) : Outcome :=
  ⟨.code number, [], process.input, process.files, 0⟩

def wrote (process : Process) (output : Octets) : Outcome :=
  { ended process 0 with writes := [(.output, output)] }

def made (process : Process) (output : Octets) : Outcome := { wrote process output with rest := [] }

/-- Complaints that are seen before what has been written, which is kept back to the end. -/
def after (outcome : Outcome) (complaints : Octets) : Outcome :=
  { outcome with writes := (.errors, complaints) :: outcome.writes }

def complaining (outcome : Outcome) (number : Nat) (message : String) : Outcome :=
  { outcome with
    status := .code number
    writes := outcome.writes ++ [(.errors, Octets.ofString (message ++ "\n"))] }

def complained (process : Process) (number : Nat) (message : String) : Outcome :=
  (ended process number).complaining number message

end Outcome

abbrev Starter := Process → Except IoError Outcome

def Starter.orScript (start : Starter) : Starter := fun process =>
  match start process with
  | .error .badExecutable =>
      start
        { process with
          name := "/bin/sh".toList
          arguments := process.name :: process.arguments }
  | other => other

end TagTemplate
