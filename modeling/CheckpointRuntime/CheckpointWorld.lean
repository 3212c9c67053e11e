import CheckpointRuntime.RequestSequence
import CheckpointRuntime.StorageKeys

/-!
# Control plane and bucket together

`World` is the control plane with the bucket behind the data plane.  A request
runs to completion here, and the calls it makes to the data plane are the real
handlers of `grpc_service.rs` running over the bucket, with any fault at any
S3 call.  Restarting the control-plane process loses everything it keeps in
memory.
-/

namespace CheckpointRuntime

open CallProgram ControlPlane

/-- The control plane and the bucket. -/
structure World where
  cp : ControlPlane
  bucket : Bucket

/-- What an upload meets on the data plane. -/
structure WriteConditions where
  uuid : String
  uuid_valid : isUuid uuid = true := by decide
  depth : Nat := 0
  maxDepth : Nat := 64
  faults : Nat → Fault := fun _ => .none
  abortFaults : Nat → Fault := fun _ => .none

/-- Writes with nothing going wrong, for the examples. -/
def firstWrite : WriteConditions := { uuid := "123e4567-e89b-42d3-a456-426614174000" }

def secondWrite : WriteConditions := { uuid := "123e4567-e89b-42d3-a456-426614174001" }

/-- What becomes of the commit call: it raises at the caller without having
reached the bucket, or it is answered. -/
inductive CommitFate
  | raised (message : String)
  | answered (faults : Nat → Fault)

namespace World

/-- Finish a request: a handler that awaits `AbortCheckpoint` runs it, logs how
it went, and raises. -/
def settle {α : Type} (out : ControlPlane × Outcome α) (bucket : Bucket)
    (abortFaults : Nat → Fault) : World × Except HttpException α :=
  match out.2 with
  | .answer result => ({ cp := out.1, bucket := bucket }, result)
  | .abort request exception =>
      ({ cp := out.1,
         bucket := ((abortCheckpoint request).run bucketService abortFaults bucket).2 },
        .error exception)

/-- The control plane after a request is the one its handler left. -/
theorem cp_settle {α : Type} (out : ControlPlane × Outcome α) (bucket : Bucket)
    (abortFaults : Nat → Fault) : (settle out bucket abortFaults).1.cp = out.1 := by
  unfold settle
  split <;> rfl

/-- A request that answers does not touch the bucket any more. -/
theorem settle_answer {α : Type} {out : ControlPlane × Outcome α} {answer : Except HttpException α}
    (h : out.2 = .answer answer) (bucket : Bucket) (abortFaults : Nat → Fault) :
    settle out bucket abortFaults = ({ cp := out.1, bucket := bucket }, answer) := by
  simp only [settle, h]

/-- The failure path answers an error. -/
theorem settle_failCheckpoint {α : Type} (cp : ControlPlane)
    (runId checkpointId failureMessage : String) (exception : HttpException) (now : Nat)
    (bucket : Bucket) (abortFaults : Nat → Fault) :
    (settle (cp.failCheckpoint (α := α) runId checkpointId failureMessage exception now) bucket
      abortFaults).2 = .error exception := by
  simp only [failCheckpoint]
  split <;> rfl

/-- `upload_shard`. -/
def uploadShard (sha256 : Bytes → String) (w : World) (runId checkpointId shardId : String)
    (body : Bytes) (header : RankHeader) (conditions : WriteConditions) (now : Nat) :
    World × Except HttpException WriteShardResult :=
  match w.cp.uploadShardBegin runId checkpointId shardId body header with
  | .error e => (w, .error e)
  | .ok call =>
      let rpc := (writeShard sha256 conditions.depth conditions.maxDepth conditions.uuid
        (call.chunks.map .ok)).run bucketService conditions.faults w.bucket
      settle (w.cp.uploadShardFinish call (clientWriteShard rpc.1) now) rpc.2
        conditions.abortFaults

/-- The call that a commit makes to the data plane. -/
def commitRpc (bucket : Bucket) (call : CommitCall) (fate : CommitFate) (now : Nat) :
    Except String CommitResponse × Bucket :=
  match call.request with
  | .error e => (.error e, bucket)
  | .ok request =>
      match fate with
      | .raised message => (.error message, bucket)
      | .answered faults =>
          let rpc := (commitCheckpoint request now).run bucketService faults bucket
          (.ok rpc.1, rpc.2)

/-- `commit_run`. -/
def commitRun (w : World) (runId : String) (fate : CommitFate) (abortFaults : Nat → Fault)
    (now : Nat) : World × Except HttpException RunStatus :=
  match w.cp.commitRunBegin runId with
  | .error e => (w, .error e)
  | .ok call =>
      let rpc := commitRpc w.bucket call fate now
      settle (w.cp.commitRunFinish call rpc.1 now) rpc.2 abortFaults

/-- `download_shard`. -/
def downloadShard (w : World) (runId checkpointId shardId : String) (faults : Nat → Fault) :
    Except HttpException Bytes :=
  w.cp.downloadShard shardId
    ((readShard { shardId := shardId, checkpointId := checkpointId, runId := runId }).run
      bucketService faults w.bucket).1

/-- The control-plane process starts again: module-level and in-memory state is
lost, the key-value store and the bucket are kept. -/
def restart (w : World) : World :=
  { w with
    cp := { coordinator := { w.cp.coordinator with fsms := fun _ => none }
            checkpointShards := fun _ => none
            restartLastAttempt := fun _ => none
            dpConnected := true } }

/-- A run that has been created and started and has just triggered its first
checkpoint, over an empty bucket. -/
def firstCheckpoint (store : KVStore) (config : RunConfig) (runId : String) (step : Int)
    (checkpointId : String) : World :=
  let cp := ((ControlPlane.init store).createRun config runId 1).1
  let cp := (cp.startRun runId 2).1
  { cp := (cp.triggerCheckpoint runId (some step) checkpointId 3).1, bucket := .empty }

end World

end CheckpointRuntime
