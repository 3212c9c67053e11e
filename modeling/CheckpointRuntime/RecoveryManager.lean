import CheckpointRuntime.Coordinator

/-!
# Recovery after worker failures

The failure handler of `recovery.py`: fail the run, abort its open
checkpoints, and, when a worker-group supervisor is configured, move it to
`RECOVERING`, remember the checkpoint to resume from, and schedule a restart.
The restart touches worker records only, so it appears as its outcome.
-/

namespace CheckpointRuntime

open Coordinator

/-- What the worker-group supervisor answers. -/
inductive RestartOutcome
  | scheduled
  | notScheduled
  | raised
deriving DecidableEq, Repr

/-- Orchestrates automatic run recovery after worker failures. -/
structure RecoveryManager where
  autoRecover : Bool
  hasSupervisor : Bool
  /-- The runs whose failure is being handled. -/
  recovering : List String := []
  /-- The checkpoint that each recovered run resumes from. -/
  recoveryCheckpoints : String → Option (Option String) := fun _ => none

namespace RecoveryManager

/-- Mark one checkpoint as failed if its outcome is undecided. -/
def abortCheckpoint (now : Nat) (c : Coordinator) (info : CheckpointInfo) : Coordinator :=
  if info.isOpen then (c.updateCheckpointState info.checkpointId .failed none now).1 else c

/-- Mark all non-committed checkpoints of the run as failed. -/
def abortPendingCheckpoints (c : Coordinator) (runId : String) (now : Nat) : Coordinator :=
  (c.listCheckpoints runId).foldl (abortCheckpoint now) c

/-- The newest of some checkpoints; the first one of the largest step. -/
def newest : List CheckpointInfo → Option CheckpointInfo
  | [] => none
  | info :: infos =>
      match newest infos with
      | none => some info
      | some best => if info.step < best.step then some best else some info

/-- Record the newest committed checkpoint selected for recovery. -/
def recordRecoveryCheckpoint (rm : RecoveryManager) (c : Coordinator) (runId : String) :
    RecoveryManager :=
  let committed := (c.listCheckpoints runId).filter (fun info => decide (info.state = .committed))
  { rm with
    recoveryCheckpoints := fun r =>
      if r = runId then some ((newest committed).map (·.checkpointId))
      else rm.recoveryCheckpoints r }

/-- Move a failed run to `RECOVERING` and restart its worker group. -/
def attemptRecovery (rm : RecoveryManager) (c : Coordinator) (runId : String)
    (restart : RestartOutcome) (now : Nat) : RecoveryManager × Coordinator :=
  if rm.hasSupervisor then
    let (c, moved) := c.transitionRun runId .recovering now
    match moved with
    | .error _ => (rm, c)
    | .ok _ =>
        let rm := rm.recordRecoveryCheckpoint c runId
        match restart with
        | .scheduled | .notScheduled | .raised => (rm, c)
  else
    (rm, c)

/-- The second half of the protocol: abort in-flight checkpoints, then recover
if that is configured. -/
def abortAndRecover (rm : RecoveryManager) (c : Coordinator) (runId : String)
    (restart : RestartOutcome) (now : Nat) : RecoveryManager × Coordinator :=
  let c := abortPendingCheckpoints c runId now
  if rm.autoRecover then rm.attemptRecovery c runId restart now else (rm, c)

/-- The failure-handling protocol for a run. -/
def handleFailure (rm : RecoveryManager) (c : Coordinator) (runId : String)
    (restart : RestartOutcome) (now : Nat) : RecoveryManager × Coordinator :=
  let rm := { rm with recovering := runId :: rm.recovering }
  match c.getRun runId with
  | none => (rm, c)
  | some status =>
      match status.state with
      | .cancelled | .completed => (rm, c)
      | .failed => rm.abortAndRecover c runId restart now
      | _ =>
          let (c, moved) := c.transitionRun runId .failed now
          match moved with
          | .error _ => (rm, c)
          | .ok _ => rm.abortAndRecover c runId restart now

/-- Handle a worker failure notification from the heartbeat manager; a run
whose failure is already being handled is skipped. -/
def onWorkerFailure (rm : RecoveryManager) (c : Coordinator) (runId : String)
    (restart : RestartOutcome) (now : Nat) : RecoveryManager × Coordinator :=
  if runId ∈ rm.recovering then
    (rm, c)
  else
    let (rm, c) := rm.handleFailure c runId restart now
    ({ rm with recovering := rm.recovering.filter (fun r => decide (r ≠ runId)) }, c)

end RecoveryManager

end CheckpointRuntime
