import TagTemplate.Precompile.Writing

/-! Why writing fails. -/

namespace TagTemplate

def WriteProgress.failure? : WriteProgress → Option Failure
  | .going (.releasing _ (some failure)) | .done (some failure) => some failure
  | _ => none

namespace WriteJob

inductive Hindered (job : WriteJob) (step : WriteStep) : Failure → Prop
  | before {lock failure} (lost : step = .releasing lock (some failure)) :
      Hindered job step failure
  | interrupted (interruption) : Hindered job step (.cancelled interruption)
  | fault (fault) : Hindered job step (job.failure fault)

theorem step_hindered (job : WriteJob) (interrupted : Option Interruption)
    (fault : Option IoError) (world : World) (step : WriteStep) {failure : Failure}
    (fails : (job.step interrupted fault world step).1.failure? = some failure) :
    job.Hindered step failure := by
  cases step with
  | checking | rechecking =>
      cases interrupted with
      | none => simp [WriteJob.step, WriteProgress.failure?] at fails
      | some interruption =>
          cases fails
          exact .interrupted _
  | makingParents | preparingLock | openingLock | creating | persisting | openingDirectory =>
      cases fault with
      | some cause =>
          cases fails
          exact .fault _
      | none =>
          simp only [WriteJob.step] at fails
          split at fails
          · cases fails
            exact .fault _
          · simp [WriteProgress.failure?] at fails
  | locking file since delay =>
      cases fault with
      | some cause =>
          cases fails
          exact .fault _
      | none =>
          simp only [WriteJob.step] at fails
          split at fails
          · split at fails
            · cases fails
              exact .fault _
            · simp [WriteProgress.failure?] at fails
          · simp [WriteProgress.failure?] at fails
  | filling | syncing | syncingDirectory =>
      cases fault with
      | some cause =>
          cases fails
          exact .fault _
      | none => simp [WriteJob.step, WriteProgress.failure?] at fails
  | releasing lock outcome =>
      cases outcome with
      | none => simp [WriteJob.step, WriteProgress.failure?] at fails
      | some other =>
          cases fails
          exact .before rfl

end WriteJob

end TagTemplate
