import CheckpointRuntime.RequestSequence
import CheckpointRuntime.StorageKeys
import CheckpointRuntime.Library.PartialRun

/-!
# Requests that interleave

The whole system, with every handler and every RPC in the middle of its work.
A handler runs atomically between its awaits, so a suspended handler is a
`Task`; an RPC of the data plane runs atomically between its S3 calls, so it is
a program that is stepped one call at a time.  An RPC that raises at its caller
stays in its pool: it may already have taken effect, and it may still go on.
-/

namespace CheckpointRuntime

open CallProgram ControlPlane PartialRun

/-- A handler that is suspended at an await, or has answered. -/
inductive Task
  | receiveBody (runId checkpointId shardId : String)
  | awaitWrite (call : UploadCall) (rpc : Nat)
  | awaitCommit (call : CommitCall) (rpc : Nat)
  | awaitAbort (rpc : Nat)
  | finished

/-- A `WriteShard` and what is left of it. -/
structure WriteRpc where
  call : UploadCall
  uuid : String
  uuid_valid : isUuid uuid = true
  program : S3Program (Except Status WriteShardResponse)

/-- A `CommitCheckpoint` and what is left of it. -/
structure CommitRpc where
  request : CommitRequest
  startedAt : Nat
  program : S3Program CommitResponse

/-- An `AbortCheckpoint` and what is left of it. -/
structure AbortRpc where
  request : AbortRequest
  program : S3Program (Except Status AbortResponse)

/-- Control plane, data plane and bucket. -/
structure System where
  server : Server
  bucket : Bucket
  tasks : List Task
  writes : List WriteRpc
  commits : List CommitRpc
  aborts : List AbortRpc

/-- What may happen next.  Tasks and RPCs are named by their position. -/
inductive Event
  | request (request : AtomicRequest)
  | deleteCheckpoint (checkpointId : String)
  | uploadBegin (runId checkpointId shardId : String)
  | uploadBody (task : Nat) (body : Bytes) (header : RankHeader) (uuid : String)
      (depth maxDepth : Nat)
  | uploadReply (task : Nat)
  | uploadRaise (task : Nat) (message : String)
  | commitBegin (runId : String)
  | commitReply (task : Nat)
  | commitRaise (task : Nat) (message : String)
  | abortEnd (task : Nat)
  | writeCall (rpc : Nat) (fault : Fault)
  | commitCall (rpc : Nat) (fault : Fault)
  | abortCall (rpc : Nat) (fault : Fault)

namespace System

/-- A system that has just started over an empty store and an empty bucket. -/
def init (store : KVStore) (autoRecover hasSupervisor : Bool) : System where
  server := .init store autoRecover hasSupervisor
  bucket := .empty
  tasks := []
  writes := []
  commits := []
  aborts := []

/-- The upload that a task waits for, and the position of its RPC. -/
def awaitingWrite (s : System) (task : Nat) : Option (UploadCall × Nat) :=
  match s.tasks[task]? with
  | some (.awaitWrite call rpc) => some (call, rpc)
  | _ => none

/-- The commit that a task waits for, and the position of its RPC. -/
def awaitingCommit (s : System) (task : Nat) : Option (CommitCall × Nat) :=
  match s.tasks[task]? with
  | some (.awaitCommit call rpc) => some (call, rpc)
  | _ => none

/-- The upload that an event finishes, and what its await returns or raises. -/
def uploadAnswer (s : System) : Event → Option (UploadCall × Except String WriteShardResult)
  | .uploadReply task => do
      let (call, rpc) ← s.awaitingWrite task
      let value ← (← s.writes[rpc]?).program.value?
      return (call, clientWriteShard value)
  | .uploadRaise task message =>
      (s.awaitingWrite task).map fun (call, _) => (call, .error message)
  | _ => none

/-- The commit that an event finishes, and what its await returns or raises.  A
commit whose request cannot be built fails before its await. -/
def commitAnswer (s : System) : Event → Option (CommitCall × Except String CommitResponse)
  | .commitBegin runId =>
      match s.server.cp.commitRunBegin runId with
      | .error _ => none
      | .ok call =>
          match call.request with
          | .error message => some (call, .error message)
          | .ok _ => none
  | .commitReply task => do
      let (call, rpc) ← s.awaitingCommit task
      let value ← (← s.commits[rpc]?).program.value?
      return (call, .ok value)
  | .commitRaise task message =>
      (s.awaitingCommit task).map fun (call, _) => (call, .error message)
  | _ => none

def setCp (s : System) (cp : ControlPlane) : System :=
  { s with server := { s.server with cp := cp } }

/-- Take up a suspended handler again: it answers, or it calls
`AbortCheckpoint` and waits. -/
def resume {α : Type} (s : System) (task : Nat) (out : ControlPlane × Outcome α) : System :=
  match out.2 with
  | .answer _ => { s.setCp out.1 with tasks := s.tasks.set task .finished }
  | .abort request _ =>
      { s.setCp out.1 with
        tasks := s.tasks.set task (.awaitAbort s.aborts.length)
        aborts := s.aborts ++ [{ request := request, program := abortCheckpoint request }] }

def finishUpload (s : System) (task : Nat) (now : Nat)
    (answer : UploadCall × Except String WriteShardResult) : System :=
  s.resume task (s.server.cp.uploadShardFinish answer.1 answer.2 now)

def finishCommit (s : System) (task : Nat) (now : Nat)
    (answer : CommitCall × Except String CommitResponse) : System :=
  s.resume task (s.server.cp.commitRunFinish answer.1 answer.2 now)

/-- The handler of an upload has received its body; an upload that passes the
checks calls `WriteShard`. -/
def beginWrite (sha256 : Bytes → String) (s : System) (task : Nat)
    (received : Except HttpException UploadCall) (uuid : String) (depth maxDepth : Nat) :
    Option System :=
  match received with
  | .error _ => some { s with tasks := s.tasks.set task .finished }
  | .ok call =>
      if h : isUuid uuid = true ∧ uuid ∉ s.writes.map (·.uuid) then
        some { s with
          tasks := s.tasks.set task (.awaitWrite call s.writes.length)
          writes := s.writes ++
            [{ call := call, uuid := uuid, uuid_valid := h.1,
               program := writeShard sha256 depth maxDepth uuid (call.chunks.map .ok) }] }
      else
        none

/-- A commit that has found its checkpoint builds the request and calls
`CommitCheckpoint`. -/
def beginCommit (s : System) (runId : String) (now : Nat) : System :=
  match s.server.cp.commitRunBegin runId with
  | .error _ => s
  | .ok call =>
      match call.request with
      | .error message =>
          finishCommit { s with tasks := s.tasks ++ [.finished] } s.tasks.length now
            (call, .error message)
      | .ok request =>
          { s with
            tasks := s.tasks ++ [.awaitCommit call s.commits.length]
            commits := s.commits ++
              [{ request := request, startedAt := now,
                 program := commitCheckpoint request now }] }

/-- Let one thing happen, if it can. -/
def step (sha256 : Bytes → String) (s : System) (event : Event × Nat) : Option System :=
  let now := event.2
  match event.1 with
  | .request request => (s.server.handle now request).map fun server => { s with server := server }
  | .deleteCheckpoint checkpointId =>
      some (s.setCp { s.server.cp with
        coordinator := s.server.cp.coordinator.deleteCheckpoint checkpointId })
  | .uploadBegin runId checkpointId shardId =>
      match s.server.cp.uploadShardCheck runId checkpointId with
      | .error _ => some s
      | .ok _ => some { s with tasks := s.tasks ++ [.receiveBody runId checkpointId shardId] }
  | .uploadBody task body header uuid depth maxDepth =>
      match s.tasks[task]? with
      | some (.receiveBody runId checkpointId shardId) =>
          s.beginWrite sha256 task (uploadShardReceive runId checkpointId shardId body header) uuid
            depth maxDepth
      | _ => none
  | .uploadReply task => (s.uploadAnswer event.1).map (s.finishUpload task now)
  | .uploadRaise task _ => (s.uploadAnswer event.1).map (s.finishUpload task now)
  | .commitBegin runId => some (s.beginCommit runId now)
  | .commitReply task => (s.commitAnswer event.1).map (s.finishCommit task now)
  | .commitRaise task _ => (s.commitAnswer event.1).map (s.finishCommit task now)
  | .abortEnd task =>
      match s.tasks[task]? with
      | some (.awaitAbort _) => some { s with tasks := s.tasks.set task .finished }
      | _ => none
  | .writeCall rpc fault => do
      let write ← s.writes[rpc]?
      let (program, bucket) ← write.program.step bucketService fault s.bucket
      return { s with
        bucket := bucket
        writes := s.writes.set rpc { write with program := program } }
  | .commitCall rpc fault => do
      let commit ← s.commits[rpc]?
      let (program, bucket) ← commit.program.step bucketService fault s.bucket
      return { s with
        bucket := bucket
        commits := s.commits.set rpc { commit with program := program } }
  | .abortCall rpc fault => do
      let abort ← s.aborts[rpc]?
      let (program, bucket) ← abort.program.step bucketService fault s.bucket
      return { s with
        bucket := bucket
        aborts := s.aborts.set rpc { abort with program := program } }

/-! ## One run with one checkpoint -/

/-- A run is created and started, and its first checkpoint is triggered. -/
def openEvents : List (Event × Nat) :=
  [(.request (.createRun soloRun "00000000000000a1"), 1),
    (.request (.start "00000000000000a1"), 2),
    (.request (.checkpoint "00000000000000a1" (some 10) "00000000000000c1"), 3)]

/-- A shard of the checkpoint is uploaded, up to the end of its `WriteShard`. -/
def writeEvents (task rpc : Nat) (shardId : String) (body : Bytes) (uuid : String) :
    List (Event × Nat) :=
  [(.uploadBegin "00000000000000a1" "00000000000000c1" shardId, 4),
    (.uploadBody task body .absent uuid 0 64, 4)] ++ List.replicate 7 (.writeCall rpc .none, 4)

/-- A commit that has been sent goes through and is answered. -/
def commitEvents (task rpc : Nat) : List (Event × Nat) :=
  List.replicate 2 (.commitCall rpc .none, 8) ++ [(.commitReply task, 9)]

end System

end CheckpointRuntime
