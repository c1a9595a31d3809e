import TagTemplate.Lock.Error
import TagTemplate.World

/-! The lock beside an output file, and taking it: pauses double up to a limit and never pass the
time allowed. -/

namespace TagTemplate.Lock

abbrev Delay := { milliseconds : Nat // 0 < milliseconds }

def firstDelay : Delay := ⟨10, by decide⟩

def longestDelay : Nat := 500

def nextDelay (delay : Delay) : Delay :=
  ⟨min (2 * delay.val) longestDelay, Nat.lt_min.mpr ⟨by have := delay.property; omega, by decide⟩⟩

def pause? (timeout waited : Nat) (delay : Delay) : Option Nat :=
  if timeout ≤ waited then none else some (min delay.val (timeout - waited))

inductive Wait where
  | acquired (waited : Nat)
  | busy (waited : Nat)
deriving DecidableEq, Repr

theorem pause?_bounds {timeout waited pause : Nat} {delay : Delay}
    (room : pause? timeout waited delay = some pause) :
    0 < pause ∧ waited + pause ≤ timeout := by
  unfold pause? at room
  split at room
  · simp at room
  · have := delay.property
    simp only [Option.some.injEq] at room
    omega

/-- Attempts to take a lock after each pause, until it is free or the time allowed is over. Others
hold the lock at some times from the first attempt on. -/
def wait (held : Nat → Bool) (timeout waited : Nat) (delay : Delay) : Wait :=
  if held waited then
    match room : pause? timeout waited delay with
    | none => .busy waited
    | some pause =>
        have := pause?_bounds room
        wait held timeout (waited + pause) (nextDelay delay)
  else .acquired waited
termination_by timeout - waited

def pathFor (output : Path) : Path :=
  output.withFileName ('.' :: output.fileName?.getD "output".toList ++ ".lock".toList)

def purposeFor (output : Path) : String := "write " ++ output.display

def prepare (path : Path) (files : FileTree) : Option LockError × FileTree :=
  match path.parent? with
  | none => (none, files)
  | some parent =>
      if parent.isEmpty then (none, files)
      else
        let (cause, files) := files.makeDirectories parent
        (cause.map (.io path .createDirectory), files)

def openFile (path : Path) (files : FileTree) : Except LockError (Location × FileTree) :=
  match files.openFile path with
  | .ok opened => .ok opened
  | .error cause => .error (.io path .openFile cause)

def acquireAmid (others : Nat → List Location) (world : World) (path : Path) (purpose : String)
    (timeout : Nat) : Except LockError Location × World :=
  match prepare path world.files with
  | (some fault, files) => (.error fault, { world with files })
  | (none, files) =>
      match openFile path files with
      | .error fault => (.error fault, { world with files })
      | .ok (file, files) =>
          let later (waited : Nat) : World :=
            { world.after waited with files, locks := others waited }
          match wait (fun time => (others time).contains file) timeout 0 firstDelay with
          | .acquired waited => (.ok file, (later waited).lock file)
          | .busy waited => (.error (.busy path purpose waited), later waited)

def acquire (world : World) (path : Path) (purpose : String) (timeout : Nat) :
    Except LockError Location × World :=
  acquireAmid (fun _ => world.locks) world path purpose timeout

def acquireFor (world : World) (output : Path) (timeout : Nat) :
    Except LockError Location × World :=
  acquire world (pathFor output) (purposeFor output) timeout

end TagTemplate.Lock
