import CheckpointRuntime.Coordinator
import CheckpointRuntime.CheckpointService

/-!
# REST handlers

The endpoints of `rest.py` that move runs and checkpoints.  A handler without
an `await` that matters is one function; `upload_shard` and `commit_run` are
cut at their awaits into the segments that run atomically, and the caller of
a segment supplies what the awaited call returned.  A data-plane call that
raises is an `Except.error` carrying the text that is logged.
-/

namespace CheckpointRuntime

open Coordinator

structure HttpException where
  statusCode : Nat
  detail : String
deriving DecidableEq, Repr

/-- An exception that no handler catches. -/
def internalServerError : HttpException := ⟨500, "Internal Server Error"⟩

/-- The state of the control-plane process. -/
structure ControlPlane where
  coordinator : Coordinator
  /-- `_CHECKPOINT_SHARDS`: the uploaded shards of each checkpoint. -/
  checkpointShards : String → Option (List ShardInfo)
  /-- `_WORKER_RESTART_LAST_ATTEMPT`. -/
  restartLastAttempt : String → Option Nat
  /-- Whether the data-plane client is present and connected. -/
  dpConnected : Bool

namespace ControlPlane

/-- A control plane that has just started over an empty store. -/
def init (store : KVStore) : ControlPlane where
  coordinator := .init store
  checkpointShards := fun _ => none
  restartLastAttempt := fun _ => none
  dpConnected := true

def setShards (cp : ControlPlane) (checkpointId : String) (shards : Option (List ShardInfo)) :
    ControlPlane :=
  { cp with
    checkpointShards := fun c => if c = checkpointId then shards else cp.checkpointShards c }

/-- `_CHECKPOINT_SHARDS.get(checkpoint_id, [])`. -/
def shardsOf (cp : ControlPlane) (checkpointId : String) : List ShardInfo :=
  (cp.checkpointShards checkpointId).getD []

def notFound (what id : String) : HttpException := ⟨404, what ++ " " ++ pyRepr id ++ " not found"⟩

/-- How a run endpoint answers an error of the coordinator. -/
def runError (runId : String) : CoordinatorError → HttpException
  | .keyError _ => notFound "Run" runId
  | .invalidTransition e => ⟨409, e.message⟩

/-- How an endpoint that has already read the run answers: it expects invalid
transitions only. -/
def transitionError : CoordinatorError → HttpException
  | .keyError _ => internalServerError
  | .invalidTransition e => ⟨409, e.message⟩

/-! ## Run endpoints -/

def createRun (cp : ControlPlane) (config : RunConfig) (runId : String) (now : Nat) :
    ControlPlane × RunStatus :=
  let (coordinator, status) := cp.coordinator.createRun config runId now
  ({ cp with coordinator := coordinator }, status)

/-- The common body of the start, cancel and complete endpoints. -/
def transitionEndpoint (target : RunState) (cp : ControlPlane) (runId : String) (now : Nat) :
    ControlPlane × Except HttpException RunStatus :=
  let (coordinator, result) := cp.coordinator.transitionRun runId target now
  ({ cp with coordinator := coordinator }, result.mapError (runError runId))

def startRun := transitionEndpoint .running

def cancelRun := transitionEndpoint .cancelled

def completeRun := transitionEndpoint .completed

/-- Trigger a checkpoint.  The health check that follows only logs. -/
def triggerCheckpoint (cp : ControlPlane) (runId : String) (step : Option Int)
    (checkpointId : String) (now : Nat) :
    ControlPlane × Except HttpException CheckpointInfo :=
  let (coordinator, moved) := cp.coordinator.transitionRun runId .checkpointing now
  match moved with
  | .error e => ({ cp with coordinator := coordinator }, .error (runError runId e))
  | .ok status =>
      let effectiveStep := step.getD status.currentStep
      let (coordinator, created) :=
        coordinator.createCheckpoint runId effectiveStep checkpointId now
      ({ cp with coordinator := coordinator }, created.mapError fun _ => internalServerError)

/-- Resume a run: what it means depends on the state that it finds. -/
def resumeRun (cp : ControlPlane) (runId : String) (now : Nat) :
    ControlPlane × Except HttpException RunStatus :=
  match cp.coordinator.getRun runId with
  | none => (cp, .error (notFound "Run" runId))
  | some status =>
      let move (target : RunState) : Coordinator × Except CoordinatorError RunStatus :=
        cp.coordinator.transitionRun runId target now
      let (coordinator, result) :=
        match status.state with
        | .failed => move .recovering
        | .recovering => move .running
        | .running => (cp.coordinator, .ok status)
        | .committed | .created | .checkpointing => move .running
        | .cancelled | .completed =>
            (cp.coordinator, .error (.invalidTransition ⟨status.state, .running⟩))
      let cp := { cp with coordinator := coordinator }
      match result with
      | .error e => (cp, .error (transitionError e))
      | .ok status =>
          if status.state = .running then
            ({ cp with
                restartLastAttempt := fun r =>
                  if r = runId then none else cp.restartLastAttempt r }, .ok status)
          else
            (cp, .ok status)

/-- Manually fail a run.  The body gives no reason, `null` or a text; only a missing
reason has a default. -/
def failRun (cp : ControlPlane) (runId : String) (reason : Option (Option String)) (now : Nat) :
    ControlPlane × Except HttpException RunStatus :=
  let (coordinator, result) :=
    cp.coordinator.setRunError runId (reason.getD (some "Manual failure trigger")) now
  ({ cp with coordinator := coordinator }, result.mapError (runError runId))

/-- The part of a worker heartbeat that reaches the run record: its step only
grows, and a failure to write it is dropped. -/
def heartbeatStep (cp : ControlPlane) (runId : String) (step : Int) (now : Nat) :
    ControlPlane :=
  match cp.coordinator.getRun runId with
  | none => cp
  | some status =>
      if 0 < step ∧ status.currentStep < step then
        { cp with coordinator := (cp.coordinator.updateRunStep runId step now).1 }
      else
        cp

/-! ## Aborting a failed checkpoint -/

/-- `_abort_failed_checkpoint` up to its await: record the failure and forget
the uploaded shards. -/
def abortFailedCheckpoint (cp : ControlPlane) (runId checkpointId failureMessage : String)
    (now : Nat) : ControlPlane :=
  let coordinator := (cp.coordinator.updateCheckpointState checkpointId .failed none now).1
  let coordinator := (coordinator.setRunError runId failureMessage now).1
  ({ cp with coordinator := coordinator }).setShards checkpointId none

/-- How a handler goes on after a segment: it answers, or it awaits
`AbortCheckpoint` (if the data plane is connected) and then raises. -/
inductive Outcome (α : Type)
  | answer (result : Except HttpException α)
  | abort (request : AbortRequest) (exception : HttpException)

/-- The failure path that uploads and commits share. -/
def failCheckpoint {α : Type} (cp : ControlPlane) (runId checkpointId failureMessage : String)
    (exception : HttpException) (now : Nat) : ControlPlane × Outcome α :=
  let cp := cp.abortFailedCheckpoint runId checkpointId failureMessage now
  if cp.dpConnected then
    (cp, .abort { checkpointId := checkpointId, runId := runId } exception)
  else
    (cp, .answer (.error exception))

/-! ## Uploading a shard -/

/-- What the data-plane client returns for a written shard. -/
structure WriteShardResult where
  shardId : String
  totalBytes : Nat
  sha256Checksum : String
  success : Bool
deriving DecidableEq, Repr

/-- `DataPlaneClient.write_shard`: an error status and an unsuccessful response
both raise. -/
def clientWriteShard : Except Status WriteShardResponse → Except String WriteShardResult
  | .error status => .error status.message
  | .ok response =>
      if response.success then
        .ok { shardId := response.shardId, totalBytes := response.totalBytes,
              sha256Checksum := response.sha256Checksum, success := true }
      else
        .error "WriteShard failed: "

/-- An upload whose body has been received. -/
structure UploadCall where
  runId : String
  checkpointId : String
  shardId : String
  rank : Int
  body : Bytes
deriving DecidableEq, Repr

/-- The checks of `upload_shard` before it awaits the body. -/
def uploadShardCheck (cp : ControlPlane) (runId checkpointId : String) :
    Except HttpException Unit :=
  if cp.dpConnected then
    match cp.coordinator.getCheckpoint checkpointId with
    | none => .error (notFound "Checkpoint" checkpointId)
    | some info =>
        if info.runId = runId then .ok () else .error (notFound "Checkpoint" checkpointId)
  else
    .error ⟨503, "Data plane not available"⟩

/-- The `X-Shard-Rank` header as Python's `int` reads it. -/
inductive RankHeader
  | absent
  | value (rank : Int)
  | malformed
deriving DecidableEq, Repr

/-- The checks of `upload_shard` on the received body. -/
def uploadShardReceive (runId checkpointId shardId : String) (body : Bytes)
    (header : RankHeader) : Except HttpException UploadCall :=
  if body.isEmpty then
    .error ⟨400, "Shard body must not be empty"⟩
  else
    match header with
    | .absent => .ok ⟨runId, checkpointId, shardId, 0, body⟩
    | .value rank => .ok ⟨runId, checkpointId, shardId, rank, body⟩
    | .malformed => .error internalServerError

/-- The chunk size of uploads: one MiB. -/
def uploadChunkSize : Nat := 1024 * 1024

/-- The run id travels inside the checkpoint id of a chunk. -/
def UploadCall.compositeId (call : UploadCall) : String :=
  call.runId ++ "/" ++ call.checkpointId

/-- `chunk_iterator`: the chunks of the body from an offset on. -/
def chunkIteratorFrom (shardId compositeId : String) (body : Bytes) :
    Nat → Nat → List ShardChunk
  | 0, _ => []
  | fuel + 1, offset =>
      if offset < body.length then
        let stop := min (offset + uploadChunkSize) body.length
        { shardId := shardId, checkpointId := compositeId, offset := offset,
          data := (body.drop offset).take (stop - offset),
          isLast := decide (body.length ≤ stop) } ::
          chunkIteratorFrom shardId compositeId body fuel stop
      else
        []

/-- The chunks of an upload; there are at most as many as bytes. -/
def UploadCall.chunks (call : UploadCall) : List ShardChunk :=
  chunkIteratorFrom call.shardId call.compositeId call.body call.body.length 0

/-- The entry that `upload_shard` remembers, with the key of the object as the
data plane's writer computes it. -/
def shardInfoOf (call : UploadCall) (result : WriteShardResult) : ShardInfo where
  shardId := call.shardId
  rank := call.rank
  sizeBytes := result.totalBytes
  sha256 := result.sha256Checksum
  storageKey := call.runId ++ "/" ++ call.checkpointId ++ "/sha256-" ++
    String.ofList (result.sha256Checksum.toList.take 16) ++ "-" ++ call.shardId ++ ".bin"

/-- The figures of an upload that go into the checkpoint record. -/
def shardSummary (shards : List ShardInfo) : ShardSummary where
  numShards := shards.length
  totalBytes := (shards.map (·.sizeBytes)).sum
  shardIds := shards.map (·.shardId)

/-- `upload_shard` after the data plane has answered. -/
def uploadShardFinish (cp : ControlPlane) (call : UploadCall)
    (reply : Except String WriteShardResult) (now : Nat) :
    ControlPlane × Outcome WriteShardResult :=
  match reply with
  | .error _ =>
      cp.failCheckpoint call.runId call.checkpointId "Checkpoint shard upload failed"
        ⟨502, "Shard upload failed"⟩ now
  | .ok result =>
      if result.success then
        let shards := cp.shardsOf call.checkpointId ++ [shardInfoOf call result]
        let cp := cp.setShards call.checkpointId (some shards)
        let (coordinator, updated) :=
          cp.coordinator.updateCheckpointState call.checkpointId .inProgress
            (some (shardSummary shards)) now
        ({ cp with coordinator := coordinator },
          match updated with
          | .ok _ => .answer (.ok result)
          | .error _ => .answer (.error internalServerError))
      else
        cp.failCheckpoint call.runId call.checkpointId
          "Checkpoint shard upload was rejected by storage"
          ⟨502, "Data plane rejected shard upload"⟩ now

/-! ## Committing a checkpoint -/

/-- A commit whose checkpoint and shards have been chosen. -/
structure CommitCall where
  runId : String
  checkpointId : String
  step : Int
  shards : List ShardInfo
deriving DecidableEq, Repr

/-- The checkpoint that `commit_run` picks: the last one of the listing that is
in progress. -/
def activeCheckpoint (cp : ControlPlane) (runId : String) : Option CheckpointInfo :=
  (cp.coordinator.listCheckpoints runId).reverse.find?
    (fun info => decide (info.state = .inProgress))

/-- `commit_run` before it calls the data plane. -/
def commitRunBegin (cp : ControlPlane) (runId : String) : Except HttpException CommitCall :=
  match cp.coordinator.getRun runId with
  | none => .error (notFound "Run" runId)
  | some _ =>
      match cp.activeCheckpoint runId with
      | none => .error ⟨409, "No uploaded checkpoint is ready to commit"⟩
      | some active =>
          if cp.dpConnected then
            if (cp.shardsOf active.checkpointId).isEmpty then
              .error ⟨409, "Checkpoint has no uploaded shards"⟩
            else
              .ok { runId := runId, checkpointId := active.checkpointId, step := active.step,
                    shards := cp.shardsOf active.checkpointId }
          else
            .error ⟨503, "Data plane not available"⟩

/-- The protobuf shard entry; a rank outside `uint32` raises. -/
def protoShard (shard : ShardInfo) : Except String ManifestShard :=
  if 0 ≤ shard.rank ∧ shard.rank < 2 ^ 32 then
    .ok { shardId := shard.shardId, rank := shard.rank.toNat, sizeBytes := shard.sizeBytes,
          sha256 := shard.sha256, storageKey := shard.storageKey }
  else
    .error "Value out of range"

/-- The request that `DataPlaneClient.commit_checkpoint` builds; a step outside
`uint64` raises. -/
def CommitCall.request (call : CommitCall) : Except String CommitRequest := do
  let shards ← call.shards.mapM protoShard
  if 0 ≤ call.step ∧ call.step < 2 ^ 64 then
    .ok { checkpointId := call.checkpointId, runId := call.runId, step := call.step.toNat,
          shards := shards }
  else
    .error "Value out of range"

/-- `commit_run` after the data plane has answered. -/
def commitRunFinish (cp : ControlPlane) (call : CommitCall)
    (reply : Except String CommitResponse) (now : Nat) :
    ControlPlane × Outcome RunStatus :=
  match reply with
  | .error _ =>
      cp.failCheckpoint call.runId call.checkpointId "Checkpoint manifest write failed"
        ⟨502, "Data plane commit failed"⟩ now
  | .ok result =>
      if result.success then
        let cp := cp.setShards call.checkpointId none
        let (coordinator, updated) :=
          cp.coordinator.updateCheckpointState call.checkpointId .committed none now
        match updated with
        | .error _ =>
            ({ cp with coordinator := coordinator }, .answer (.error internalServerError))
        | .ok _ =>
            let (coordinator, committed) :=
              coordinator.transitionRun call.runId .committed now
            match committed with
            | .error e =>
                ({ cp with coordinator := coordinator },
                  .answer (.error (transitionError e)))
            | .ok _ =>
                -- back to RUNNING at once, so that the next checkpoint can be triggered
                let (coordinator, resumed) :=
                  coordinator.transitionRun call.runId .running now
                ({ cp with coordinator := coordinator },
                  .answer (resumed.mapError transitionError))
      else
        cp.failCheckpoint call.runId call.checkpointId
          "Checkpoint manifest was rejected by storage"
          ⟨502, "Data plane rejected checkpoint commit"⟩ now

/-! ## Downloading a shard -/

/-- `download_shard` on what the data plane streamed back. -/
def downloadShard (cp : ControlPlane) (shardId : String)
    (reply : Except Status (List ShardChunk)) : Except HttpException Bytes :=
  if cp.dpConnected then
    match reply with
    | .error _ => .error internalServerError
    | .ok chunks =>
        if chunks.isEmpty then
          .error ⟨404, "Shard " ++ shardId ++ " has no data"⟩
        else
          .ok (chunks.map (·.data)).flatten
  else
    .error ⟨503, "Data plane not available"⟩

end ControlPlane

end CheckpointRuntime
