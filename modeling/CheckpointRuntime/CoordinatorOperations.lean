import CheckpointRuntime.WorkerRecords
import CheckpointRuntime.HandlerEffects

/-!
# The operations of the coordinator

Every public method of `Coordinator` with all of its arguments, as one type of
operations with one type of results.  What an operation returns and writes is a
matter of the store and, for a move of a run, of its cached machine.
-/

namespace CheckpointRuntime

open KeyedTable

namespace Coordinator

/-! ## Methods in their full form -/

def listRuns (c : Coordinator) : List RunStatus := c.runs.rows

/-- `create_checkpoint` with its metadata. -/
def createCheckpointWith (c : Coordinator) (runId : String) (step : Int)
    (metadata : List (String × String)) (checkpointId : String) (now : Nat) :
    Coordinator × Except CoordinatorError CheckpointInfo :=
  match c.getRun runId with
  | none => (c, .error (runNotFound runId))
  | some status =>
      let info : CheckpointInfo :=
        { checkpointId := checkpointId, runId := runId, step := step, createdAt := now,
          metadata := metadata }
      let status' := { status with lastCheckpointId := some checkpointId, updatedAt := now }
      ((c.putCheckpoint info).persistRun status', .ok info)

theorem createCheckpoint_eq (c : Coordinator) (runId : String) (step : Int)
    (checkpointId : String) (now : Nat) : c.createCheckpoint runId step checkpointId now =
      c.createCheckpointWith runId step [] checkpointId now := rfl

def checkpointNotFound (checkpointId : String) : CoordinatorError :=
  .keyError ("Checkpoint " ++ pyRepr checkpointId ++ " not found")

/-- The common body of `update_checkpoint_state` and
`update_checkpoint_metadata`: read a record, edit it and write it back. -/
def editCheckpoint (c : Coordinator) (checkpointId : String)
    (edit : CheckpointInfo → CheckpointInfo) :
    Coordinator × Except CoordinatorError CheckpointInfo :=
  match c.getCheckpoint checkpointId with
  | none => (c, .error (checkpointNotFound checkpointId))
  | some info => (c.putCheckpoint (edit info), .ok (edit info))

/-- The record that `update_checkpoint_state` writes, each optional argument by
itself. -/
def stateUpdate (state : CheckpointState) (numShards totalBytes : Option Nat)
    (shardIds : Option (List String)) (now : Nat) (info : CheckpointInfo) : CheckpointInfo :=
  { info with
    state := state
    numShards := numShards.getD info.numShards
    totalBytes := totalBytes.getD info.totalBytes
    shardIds := shardIds.getD info.shardIds
    committedAt :=
      if state = .committed ∧ info.committedAt = none then some now else info.committedAt }

theorem updateCheckpointState_eq (c : Coordinator) (checkpointId : String)
    (state : CheckpointState) (summary : Option ShardSummary) (now : Nat) :
    c.updateCheckpointState checkpointId state summary now =
      c.editCheckpoint checkpointId (stateUpdate state (summary.map (·.numShards))
        (summary.map (·.totalBytes)) (summary.map (·.shardIds)) now) := rfl

/-- `dict.update` one entry at a time: a key that is there keeps its place. -/
def dictUpdate (old new : List (String × String)) : List (String × String) :=
  new.foldl (fun entries entry => putRows .atEnd Prod.fst entry entries) old

/-- The record that `update_checkpoint_metadata` writes. -/
def metadataUpdate (metadata : List (String × String)) (merge : Bool) (info : CheckpointInfo) :
    CheckpointInfo :=
  { info with metadata := if merge then dictUpdate info.metadata metadata else metadata }

end Coordinator

/-- A method of the coordinator with its arguments and the fresh id that it
draws. -/
inductive CoordinatorOp
  | createRun (config : RunConfig) (runId : String)
  | getRun (runId : String)
  | listRuns
  | transitionRun (runId : String) (target : RunState)
  | updateRunStep (runId : String) (step : Int)
  | setRunError (runId message : String)
  | createCheckpoint (runId : String) (step : Int) (metadata : List (String × String))
      (checkpointId : String)
  | getCheckpoint (checkpointId : String)
  | deleteCheckpoint (checkpointId : String)
  | listCheckpoints (runId : String)
  | updateCheckpointState (checkpointId : String) (state : CheckpointState)
      (numShards totalBytes : Option Nat) (shardIds : Option (List String))
  | updateCheckpointMetadata (checkpointId : String) (metadata : List (String × String))
      (merge : Bool)
  | registerWorker (runId : String) (rank : Int) (hostname workerId : String)
  | heartbeat (runId workerId : String) (step : Int)
  | listWorkers (runId : String)
  | markWorkerDead (runId workerId : String) (status : WorkerStatus)

/-- What a method returns or raises. -/
inductive CoordinatorResult
  | run (status : RunStatus)
  | runLookup (status : Option RunStatus)
  | runs (statuses : List RunStatus)
  | checkpoint (info : CheckpointInfo)
  | checkpointLookup (info : Option CheckpointInfo)
  | checkpoints (infos : List CheckpointInfo)
  | worker (worker : WorkerInfo)
  | workers (workers : List WorkerInfo)
  | nothing
  | raised (error : CoordinatorError)

/-- A result that may be an exception. -/
def CoordinatorResult.of {α : Type} (returned : α → CoordinatorResult) :
    Except CoordinatorError α → CoordinatorResult
  | .ok value => returned value
  | .error error => .raised error

namespace WorkerCoordinator

/-- An operation that concerns runs and checkpoints only. -/
def lift {α : Type} (c : WorkerCoordinator) (out : Coordinator × α)
    (answer : α → CoordinatorResult) : WorkerCoordinator × CoordinatorResult :=
  ({ c with toCoordinator := out.1 }, answer out.2)

/-- Serve an operation at a clock reading. -/
def serve (c : WorkerCoordinator) (op : CoordinatorOp) (now : Nat) :
    WorkerCoordinator × CoordinatorResult :=
  match op with
  | .createRun config runId => c.lift (c.createRun config runId now) .run
  | .getRun runId => (c, .runLookup (c.getRun runId))
  | .listRuns => (c, .runs c.listRuns)
  | .transitionRun runId target => c.lift (c.transitionRun runId target now) (.of .run)
  | .updateRunStep runId step => c.lift (c.updateRunStep runId step now) (.of .run)
  | .setRunError runId message => c.lift (c.setRunError runId message now) (.of .run)
  | .createCheckpoint runId step metadata checkpointId =>
      c.lift (c.createCheckpointWith runId step metadata checkpointId now) (.of .checkpoint)
  | .getCheckpoint checkpointId => (c, .checkpointLookup (c.getCheckpoint checkpointId))
  | .deleteCheckpoint checkpointId =>
      ({ c with toCoordinator := c.deleteCheckpoint checkpointId }, .nothing)
  | .listCheckpoints runId => (c, .checkpoints (c.listCheckpoints runId))
  | .updateCheckpointState checkpointId state numShards totalBytes shardIds =>
      c.lift (c.editCheckpoint checkpointId
        (Coordinator.stateUpdate state numShards totalBytes shardIds now)) (.of .checkpoint)
  | .updateCheckpointMetadata checkpointId metadata merge =>
      c.lift (c.editCheckpoint checkpointId (Coordinator.metadataUpdate metadata merge))
        (.of .checkpoint)
  | .registerWorker runId rank hostname workerId =>
      (c.registerWorker runId rank hostname workerId now).map id .worker
  | .heartbeat runId workerId step => (c.heartbeat runId workerId step now).map id (.of .worker)
  | .listWorkers runId => (c, .workers (c.listWorkers runId))
  | .markWorkerDead runId workerId status =>
      (c.markWorkerDead runId workerId status).map id (.of .worker)

/-- A fresh coordinator over the same store. -/
def restarted (c : WorkerCoordinator) : WorkerCoordinator :=
  { c with fsms := fun _ => none }

end WorkerCoordinator

end CheckpointRuntime
