import CheckpointRuntime.InterleavedSystem

/-!
# The training harness

What `train.py` does between the start of a rank and its first training step,
one request of the control plane at a time: rank 0 finds or creates its run
(`_get_or_create_run_id`), every rank registers and restores the latest
committed checkpoint (`load_checkpoint_runtime`), and rank 0 resumes the run.
A request may be lost on its way, and so may its response; the client does not
send it again.
-/

namespace CheckpointRuntime

open Coordinator

/-! ## The client -/

/-- An exception of the SDK: the status of the response, or no response. -/
inductive ClientError
  | status (statusCode : Nat)
  | transport
deriving DecidableEq, Repr

/-- `getattr(exc, "status_code", None)`. -/
def ClientError.statusCode : ClientError → Option Nat
  | .status statusCode => some statusCode
  | .transport => none

/-- What the client returns or raises when the control plane has answered, or
would have. -/
def clientAnswer {α : Type} (fault : Fault) (served : Except HttpException α) :
    Except ClientError α :=
  match fault with
  | .none => served.mapError fun e => .status e.statusCode
  | .refused | .lost => .error .transport

namespace ControlPlane

/-- `GET /api/runs/{run_id}`. -/
def getRunEndpoint (cp : ControlPlane) (runId : String) : Except HttpException RunStatus :=
  match cp.coordinator.getRun runId with
  | none => .error (notFound "Run" runId)
  | some status => .ok status

/-- `GET /api/runs/{run_id}/checkpoints`. -/
def listRunCheckpoints (cp : ControlPlane) (runId : String) :
    Except HttpException (List CheckpointInfo) :=
  match cp.coordinator.getRun runId with
  | none => .error (notFound "Run" runId)
  | some _ => .ok (cp.coordinator.listCheckpoints runId)

end ControlPlane

/-! ## Restoring a checkpoint -/

/-- What comes of downloading a shard and loading it into the model: it is
loaded, the download raises, or what came cannot be loaded. -/
inductive ShardOutcome
  | loaded
  | unavailable
  | corrupt
deriving DecidableEq, Repr

/-- The checkpoint that a rank restores from a listing. -/
def latestCommitted (checkpoints : List CheckpointInfo) : Option CheckpointInfo :=
  RecoveryManager.newest (checkpoints.filter fun info => decide (info.state = .committed))

/-- A call of `load_checkpoint_runtime`: it lists the checkpoints, it downloads
the shard of its own rank or, after that has failed, the one of rank 0, it has
returned a step, or it has raised. -/
inductive Restore
  | listing
  | loading (checkpoint : CheckpointInfo) (fallback : Bool)
  | returned (step : Int) (checkpointId : Option String)
  | raised
deriving DecidableEq

namespace Restore

/-- The listing has answered. -/
def list (answer : Except ClientError (List CheckpointInfo)) : Restore :=
  match answer with
  | .error _ => .raised
  | .ok checkpoints =>
      match latestCommitted checkpoints with
      | none => .returned 0 none
      | some latest => .loading latest false

/-- A download has ended. -/
def shard (rank : Int) (checkpoint : CheckpointInfo) (fallback : Bool) : ShardOutcome → Restore
  | .loaded => .returned checkpoint.step (some checkpoint.checkpointId)
  | .unavailable => if rank ≠ 0 ∧ fallback = false then .loading checkpoint true else .raised
  | .corrupt => .raised

end Restore

/-! ## Rank 0 -/

/-- `_RESUMABLE_RUN_STATES`. -/
def resumableRunStates : List RunState :=
  [.running, .committed, .checkpointing, .failed, .recovering]

/-- The states from which rank 0 resumes the run before it restores. -/
def resumedFirst : List RunState := [.failed, .committed, .checkpointing]

/-- Where rank 0 is on its way to its first training step. -/
inductive RankZero
  | readRun (runId : String)
  | resumeFirst (runId : String) (state : RunState)
  | createRun
  | startRun (runId : String)
  | register (runId : String)
  | load (runId : String) (restore : Restore)
  | resumeLast (runId : String) (startStep : Int)
  | training (runId : String) (startStep : Int)
  | failed (restored : Option String)
deriving DecidableEq

namespace RankZero

/-- `_get_or_create_run_id`: the run may be given by `RUN_ID`, or be left over
in the shared volume. -/
def begin (envRunId sharedRunId : String) : RankZero :=
  if envRunId ≠ "" then .register envRunId
  else if sharedRunId ≠ "" then .readRun sharedRunId
  else .createRun

/-- An exception about the shared run: a confirmed 404 means that the id can be
replaced. -/
def sharedRunError (e : ClientError) : RankZero :=
  if e.statusCode = some 404 then .createRun else .failed none

def afterRead (runId : String) : Except ClientError RunStatus → RankZero
  | .error e => sharedRunError e
  | .ok status =>
      if status.state ∈ resumableRunStates then
        -- an already recovering run stays there until its checkpoint is restored
        if status.state ∈ resumedFirst then .resumeFirst runId status.state else .register runId
      else
        .createRun

def afterResumeFirst (runId : String) : Except ClientError RunStatus → RankZero
  | .error e => sharedRunError e
  | .ok _ => .register runId

def afterStart (runId : String) : Except ClientError RunStatus → RankZero
  | .error _ => .failed none
  | .ok _ => .register runId

def afterRestore (runId : String) : Restore → RankZero
  | .returned step _ => .resumeLast runId step
  | .raised => .failed none
  | restore => .load runId restore

def afterResumeLast (runId : String) (startStep : Int) :
    Except ClientError RunStatus → RankZero
  | .error _ => .failed (some runId)
  | .ok _ => .training runId startStep

/-- Rank 0 has finished `load_checkpoint_runtime` for a run. -/
def hasRestored (runId : String) : RankZero → Bool
  | .resumeLast r _ | .training r _ => decide (r = runId)
  | .failed (some r) => decide (r = runId)
  | _ => false

end RankZero

end CheckpointRuntime
