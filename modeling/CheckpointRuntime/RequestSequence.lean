import CheckpointRuntime.RestHandlers
import CheckpointRuntime.RecoveryManager

/-!
# Requests served one after another

`Server` is the control plane with its recovery manager and the ids it has
handed out.  `AtomicRequest` collects what runs without an await that matters:
the run endpoints, the worker-failure callback, and the step reported by a
heartbeat.  `Server.serve` runs any request to completion; for uploads and
commits the label carries what the data plane answered, so a sequence of
requests ranges over every behaviour of the data plane.
-/

namespace CheckpointRuntime

open Coordinator

/-- `uuid4().hex[:16]` yields sixteen hex digits. -/
def isHexId (id : String) : Bool :=
  decide (id.toList.length = 16) &&
    id.toList.all (fun ch => ch.isDigit || (decide ('a' ≤ ch) && decide (ch ≤ 'f')))

theorem slash_notMem_of_isHexId {id : String} (h : isHexId id = true) : '/' ∉ id.toList := by
  intro hmem
  rw [isHexId, Bool.and_eq_true, List.all_eq_true] at h
  exact absurd (h.2 '/' hmem) (by decide)

/-- An id that `uuid4` may hand out next: it never repeats one. -/
def freshId (issued : List String) (id : String) : Bool :=
  isHexId id && decide (id ∉ issued)

/-- A request or callback that is handled without an await that matters. -/
inductive AtomicRequest
  | createRun (config : RunConfig) (runId : String)
  | start (runId : String)
  | cancel (runId : String)
  | complete (runId : String)
  | checkpoint (runId : String) (step : Option Int) (checkpointId : String)
  | resume (runId : String)
  | fail (runId : String) (reason : Option (Option String))
  | heartbeat (runId : String) (step : Int)
  | workerFailure (runId : String) (restart : RestartOutcome)

/-- The control plane with its recovery manager, and the ids handed out. -/
structure Server where
  cp : ControlPlane
  recovery : RecoveryManager
  issued : List String

namespace Server

/-- A server that has just started over an empty store. -/
def init (store : KVStore) (autoRecover hasSupervisor : Bool) : Server where
  cp := .init store
  recovery := { autoRecover := autoRecover, hasSupervisor := hasSupervisor }
  issued := []

/-- Handle an atomic request; a request whose new id `uuid4` cannot hand out
does not occur. -/
def handle (s : Server) (now : Nat) : AtomicRequest → Option Server
  | .createRun config runId =>
      if freshId s.issued runId then
        some { s with cp := (s.cp.createRun config runId now).1, issued := runId :: s.issued }
      else
        none
  | .start runId => some { s with cp := (s.cp.startRun runId now).1 }
  | .cancel runId => some { s with cp := (s.cp.cancelRun runId now).1 }
  | .complete runId => some { s with cp := (s.cp.completeRun runId now).1 }
  | .checkpoint runId step checkpointId =>
      if freshId s.issued checkpointId then
        some { s with
          cp := (s.cp.triggerCheckpoint runId step checkpointId now).1
          issued := checkpointId :: s.issued }
      else
        none
  | .resume runId => some { s with cp := (s.cp.resumeRun runId now).1 }
  | .fail runId reason => some { s with cp := (s.cp.failRun runId reason now).1 }
  | .heartbeat runId step => some { s with cp := s.cp.heartbeatStep runId step now }
  | .workerFailure runId restart =>
      let out := s.recovery.onWorkerFailure s.cp.coordinator runId restart now
      some { s with recovery := out.1, cp := { s.cp with coordinator := out.2 } }

end Server

/-- A request that is run to completion before the next one. -/
inductive Request
  | atomic (request : AtomicRequest)
  | upload (runId checkpointId shardId : String) (body : Bytes)
      (header : ControlPlane.RankHeader) (reply : Except String ControlPlane.WriteShardResult)
  | commit (runId : String) (reply : Except String CommitResponse)

namespace ControlPlane

/-- The checks of `upload_shard` up to its call of the data plane. -/
def uploadShardBegin (cp : ControlPlane) (runId checkpointId shardId : String) (body : Bytes)
    (header : RankHeader) : Except HttpException UploadCall := do
  cp.uploadShardCheck runId checkpointId
  uploadShardReceive runId checkpointId shardId body header

/-- `upload_shard` run to completion. -/
def uploadShard (cp : ControlPlane) (runId checkpointId shardId : String) (body : Bytes)
    (header : RankHeader) (reply : Except String WriteShardResult) (now : Nat) :
    ControlPlane × Outcome WriteShardResult :=
  match cp.uploadShardBegin runId checkpointId shardId body header with
  | .error e => (cp, .answer (.error e))
  | .ok call => cp.uploadShardFinish call reply now

/-- The reply of the data plane to a commit, or the error of building the
request. -/
def CommitCall.reply (call : CommitCall) (reply : Except String CommitResponse) :
    Except String CommitResponse :=
  match call.request with
  | .error e => .error e
  | .ok _ => reply

/-- `commit_run` run to completion. -/
def commitRun (cp : ControlPlane) (runId : String) (reply : Except String CommitResponse)
    (now : Nat) : ControlPlane × Outcome RunStatus :=
  match cp.commitRunBegin runId with
  | .error e => (cp, .answer (.error e))
  | .ok call => cp.commitRunFinish call (call.reply reply) now

end ControlPlane

/-- Serve one request to completion. -/
def Server.serve (s : Server) (event : Request × Nat) : Option Server :=
  match event.1 with
  | .atomic request => s.handle event.2 request
  | .upload runId checkpointId shardId body header reply =>
      some { s with
        cp := (s.cp.uploadShard runId checkpointId shardId body header reply event.2).1 }
  | .commit runId reply => some { s with cp := (s.cp.commitRun runId reply event.2).1 }

end CheckpointRuntime
