import TagTemplate.Lock.Acquire
import TagTemplate.Precompile.State

/-! Writing a bundle: under the lock of its output, into a temporary file beside it, which then
takes the place of the output. -/

namespace TagTemplate

structure WriteJob where
  output : Path
  lockTimeout : Nat
  text : String

/-- How far writing has come. A lock that is held is named by the location of its file. -/
inductive WriteStep where
  | checking
  | makingParents
  | preparingLock
  | openingLock
  | locking (file : Location) (since : Nat) (delay : Lock.Delay)
  | rechecking (lock : Location)
  | creating (lock : Location)
  | filling (lock temporary : Location)
  | syncing (lock temporary : Location)
  | persisting (lock temporary : Location)
  | openingDirectory (lock : Location)
  | syncingDirectory (lock : Location)
  | releasing (lock : Location) (outcome : Option Failure)
deriving DecidableEq

inductive WriteProgress where
  | going (step : WriteStep)
  | done (outcome : Option Failure)
deriving DecidableEq

namespace WriteJob

def directory (job : WriteJob) : Path :=
  match job.output.parent? with
  | some parent => if parent.isEmpty then Path.current else parent
  | none => Path.current

def failure (job : WriteJob) (fault : WriteFault) : Failure := .outputNotWritten job.output fault

def discard (job : WriteJob) (lock temporary : Location) (step : ReplaceStep) (cause : IoError)
    (world : World) : WriteProgress × World :=
  (.going (.releasing lock (some (job.failure (.replace step cause)))),
    { world with files := world.files.erase temporary })

def abandon (job : WriteJob) (lock : Location) (step : ReplaceStep) (cause : IoError)
    (world : World) : WriteProgress × World :=
  (.going (.releasing lock (some (job.failure (.replace step cause)))), world)

def step (job : WriteJob) (interrupted : Option Interruption) (fault : Option IoError)
    (world : World) : WriteStep → WriteProgress × World
  | .checking =>
      match interrupted with
      | some interruption => (.done (some (.cancelled interruption)), world)
      | none => (.going .makingParents, world)
  | .makingParents =>
      match fault with
      | some cause => (.done (some (job.failure (.parentDirectory cause))), world)
      | none =>
          match world.files.makeDirectories job.directory with
          | (some cause, files) =>
              (.done (some (job.failure (.parentDirectory cause))), { world with files })
          | (none, files) => (.going .preparingLock, { world with files })
  | .preparingLock =>
      let path := Lock.pathFor job.output
      match fault with
      | some cause => (.done (some (job.failure (.lock (.io path .createDirectory cause)))), world)
      | none =>
          match Lock.prepare path world.files with
          | (some cause, files) => (.done (some (job.failure (.lock cause))), { world with files })
          | (none, files) => (.going .openingLock, { world with files })
  | .openingLock =>
      let path := Lock.pathFor job.output
      match fault with
      | some cause => (.done (some (job.failure (.lock (.io path .openFile cause)))), world)
      | none =>
          match Lock.openFile path world.files with
          | .error cause => (.done (some (job.failure (.lock cause))), world)
          | .ok (file, files) =>
              (.going (.locking file world.now Lock.firstDelay), { world with files })
  | .locking file since delay =>
      let path := Lock.pathFor job.output
      match fault with
      | some cause => (.done (some (job.failure (.lock (.io path .lock cause)))), world)
      | none =>
          if world.isLocked file then
            let waited := world.now - since
            match Lock.pause? job.lockTimeout waited delay with
            | none =>
                (.done (some (job.failure (.lock
                  (.busy path (Lock.purposeFor job.output) waited)))), world)
            | some pause =>
                (.going (.locking file since (Lock.nextDelay delay)), world.after pause)
          else (.going (.rechecking file), world.lock file)
  | .rechecking lock =>
      match interrupted with
      | some interruption => (.going (.releasing lock (some (.cancelled interruption))), world)
      | none => (.going (.creating lock), world)
  | .creating lock =>
      match fault with
      | some cause => job.abandon lock .create cause world
      | none =>
          match world.files.makeTemporary job.directory with
          | .error cause => job.abandon lock .create cause world
          | .ok (temporary, files) => (.going (.filling lock temporary), { world with files })
  | .filling lock temporary =>
      match fault with
      | some cause => job.discard lock temporary .write cause world
      | none =>
          (.going (.syncing lock temporary),
            { world with files := world.files.put temporary (.file job.text.toUTF8 false) })
  | .syncing lock temporary =>
      match fault with
      | some cause => job.discard lock temporary .sync cause world
      | none => (.going (.persisting lock temporary), world)
  | .persisting lock temporary =>
      match fault with
      | some cause => job.discard lock temporary .persist cause world
      | none =>
          match world.files.rename temporary job.output with
          | .error cause => job.discard lock temporary .persist cause world
          | .ok files => (.going (.openingDirectory lock), { world with files })
  | .openingDirectory lock =>
      match fault with
      | some cause => job.abandon lock .openDirectory cause world
      | none =>
          match world.files.openError? job.directory with
          | some cause => job.abandon lock .openDirectory cause world
          | none => (.going (.syncingDirectory lock), world)
  | .syncingDirectory lock =>
      match fault with
      | some cause => job.abandon lock .syncDirectory cause world
      | none => (.going (.releasing lock none), world)
  | .releasing lock outcome => (.done outcome, world.unlock lock)

end WriteJob

namespace WriteStep

def remaining (lockTimeout now : Nat) : WriteStep → Nat
  | .checking => lockTimeout + 14
  | .makingParents => lockTimeout + 13
  | .preparingLock => lockTimeout + 12
  | .openingLock => lockTimeout + 11
  | .locking _ since _ => lockTimeout - (now - since) + 10
  | .rechecking _ => 9
  | .creating _ => 8
  | .filling _ _ => 7
  | .syncing _ _ => 6
  | .persisting _ _ => 5
  | .openingDirectory _ => 4
  | .syncingDirectory _ => 3
  | .releasing _ _ => 2

end WriteStep

end TagTemplate
