import CheckpointRuntime.CoordinatorOperations
import CheckpointRuntime.Library.ByteKeys

/-!
# Key-value stores

The two stores of `coordinator.py` as they are: a dictionary that is searched
with `startswith`, and etcd, which is asked for a half-open range of bytes.
The methods of the coordinator follow once more, over whichever store there
is.  JSON and base64 lose nothing, so a stored value is its record.
-/

namespace CheckpointRuntime

open KeyedTable ByteKeys

/-- What a key may hold. -/
inductive KVRecord
  | run (status : RunStatus)
  | checkpoint (info : CheckpointInfo)
  | worker (info : WorkerInfo)

namespace KVRecord

/-- The run of a record, `RunStatus.model_validate` of its value. -/
def asRun : KVRecord → Option RunStatus
  | run status => some status
  | _ => none

/-- The checkpoint of a record. -/
def asCheckpoint : KVRecord → Option CheckpointInfo
  | checkpoint info => some info
  | _ => none

/-- The worker of a record. -/
def asWorker : KVRecord → Option WorkerInfo
  | worker info => some info
  | _ => none

end KVRecord

/-- The prefixes of run and checkpoint keys. -/
def runsPrefix : String := keyPrefix ++ "/runs/"

/-- What the keys of all checkpoints begin with. -/
def checkpointsPrefix : String := keyPrefix ++ "/checkpoints/"

/-- Minimal key-value store interface compatible with etcd and in-memory. -/
class KVStoreProtocol (σ : Type) where
  get : σ → String → Option KVRecord
  put : σ → String → KVRecord → σ
  delete : σ → String → σ
  getPrefix : σ → String → List (Bytes × KVRecord)

/-! ## The dictionary -/

/-- `InMemoryKVStore`: a dictionary in insertion order. -/
structure InMemoryKVStore where
  data : Table (String × KVRecord) Prod.fst

namespace InMemoryKVStore

/-- `get(key)` -/
def get (s : InMemoryKVStore) (key : String) : Option KVRecord := (s.data.find key).map Prod.snd

/-- `put(key, value)` -/
def put (s : InMemoryKVStore) (key : String) (value : KVRecord) : InMemoryKVStore :=
  { data := s.data.put .atEnd (key, value) }

/-- `delete(key)` -/
def delete (s : InMemoryKVStore) (key : String) : InMemoryKVStore := { data := s.data.erase key }

/-- The items whose keys start with the prefix, in insertion order. -/
def items (s : InMemoryKVStore) (start : String) : List (String × KVRecord) :=
  s.data.rows.filter fun item => start.toList.isPrefixOf item.1.toList

/-- `get_prefix(prefix)`, in the order of insertion. -/
def getPrefix (s : InMemoryKVStore) (start : String) : List (Bytes × KVRecord) :=
  (s.items start).map fun item => (encode item.1, item.2)

/-- The dictionary is a store. -/
instance : KVStoreProtocol InMemoryKVStore where
  get := get
  put := put
  delete := delete
  getPrefix := getPrefix

end InMemoryKVStore

/-! ## etcd -/

/-- `_prefix_end`: the smallest byte string greater than every key with the
prefix, or a zero byte. -/
def prefixEnd (start : Bytes) : Bytes := (bump start).getD [0]

/-- The keys and values of etcd.  Their order here has no meaning. -/
structure EtcdKVStore where
  kvs : Table (Bytes × KVRecord) Prod.fst

namespace EtcdKVStore

/-- The keys that `/v3/kv/range` is asked for: one key, or those up to an end;
an end of one zero byte stands for all keys from the first one on. -/
def inRange (key : Bytes) (rangeEnd : Option Bytes) (k : Bytes) : Bool :=
  match rangeEnd with
  | none => decide (k = key)
  | some last => decide (key ≤ k) && (decide (last = [0]) || decide (k < last))

/-- `/v3/kv/range` answers in ascending byte order. -/
def range (s : EtcdKVStore) (key : Bytes) (rangeEnd : Option Bytes) : List (Bytes × KVRecord) :=
  (s.kvs.rows.filter fun kv => inRange key rangeEnd kv.1).insertionSort fun a b => a.1 ≤ b.1

/-- `get(key)` -/
def get (s : EtcdKVStore) (key : String) : Option KVRecord :=
  (s.range (encode key) none).head?.map Prod.snd

/-- `put(key, value)` -/
def put (s : EtcdKVStore) (key : String) (value : KVRecord) : EtcdKVStore :=
  { kvs := s.kvs.put .atEnd (encode key, value) }

/-- `delete(key)` -/
def delete (s : EtcdKVStore) (key : String) : EtcdKVStore := { kvs := s.kvs.erase (encode key) }

/-- `get_prefix(prefix)`, in the order of the keys. -/
def getPrefix (s : EtcdKVStore) (start : String) : List (Bytes × KVRecord) :=
  s.range (encode start) (some (prefixEnd (encode start)))

/-- etcd is a store. -/
instance : KVStoreProtocol EtcdKVStore where
  get := get
  put := put
  delete := delete
  getPrefix := getPrefix

end EtcdKVStore

/-! ## The coordinator over a store -/

/-- `Coordinator`: its store and its machines. -/
structure StoreCoordinator (σ : Type) where
  kv : σ
  fsms : String → Option RunStateMachine

namespace StoreCoordinator

variable {σ : Type} [KVStoreProtocol σ] (c : StoreCoordinator σ)

open KVStoreProtocol

/-- Write a record. -/
def putRecord (key : String) (value : KVRecord) : StoreCoordinator σ :=
  { c with kv := put c.kv key value }

/-- Remember the state machine of a run. -/
def cacheFsm (runId : String) (m : RunStateMachine) : StoreCoordinator σ :=
  { c with fsms := fun r => if r = runId then some m else c.fsms r }

/-- `_ensure_fsm`, without caching the machine. -/
def machine (runId : String) (current : RunState) : RunStateMachine :=
  (c.fsms runId).getD { state := current }

/-! ### Runs -/

/-- Read a run. -/
def getRun (runId : String) : Option RunStatus := (get c.kv (runKey runId)).bind KVRecord.asRun

/-- Write a run. -/
def persistRun (status : RunStatus) : StoreCoordinator σ :=
  c.putRecord (runKey status.runId) (.run status)

/-- All runs, as the store lists them. -/
def listRuns : List RunStatus := (getPrefix c.kv runsPrefix).filterMap fun item => item.2.asRun

/-- Write a new run in `CREATED`. -/
def createRun (config : RunConfig) (runId : String) (now : Nat) :
    StoreCoordinator σ × CoordinatorResult :=
  let status : RunStatus :=
    { runId := runId, name := config.name, state := .created,
      numWorkers := config.numWorkers, createdAt := now, updatedAt := now,
      config := config, metadata := config.metadata }
  ((c.cacheFsm runId {}).persistRun status, .run status)

/-- The common body of `transition_run` and `set_run_error`. -/
def moveRun (runId : String) (target : RunState) (edit : RunStatus → RunStatus) (now : Nat) :
    StoreCoordinator σ × CoordinatorResult :=
  match c.getRun runId with
  | none => (c, .raised (Coordinator.runNotFound runId))
  | some status =>
      let m := c.machine runId status.state
      match m.transition target with
      | .error error => (c.cacheFsm runId m, .raised (.invalidTransition error))
      | .ok moved =>
          let status' := { edit status with state := target, updatedAt := now }
          ((c.cacheFsm runId moved).persistRun status', .run status')

/-- Set the step of a run. -/
def updateRunStep (runId : String) (step : Int) (now : Nat) :
    StoreCoordinator σ × CoordinatorResult :=
  match c.getRun runId with
  | none => (c, .raised (Coordinator.runNotFound runId))
  | some status =>
      let status' := { status with currentStep := step, updatedAt := now }
      (c.persistRun status', .run status')

/-! ### Checkpoints -/

/-- Read a checkpoint. -/
def getCheckpoint (checkpointId : String) : Option CheckpointInfo :=
  (get c.kv (checkpointKey checkpointId)).bind KVRecord.asCheckpoint

/-- Write a new checkpoint in `PENDING`. -/
def createCheckpoint (runId : String) (step : Int) (metadata : List (String × String))
    (checkpointId : String) (now : Nat) : StoreCoordinator σ × CoordinatorResult :=
  match c.getRun runId with
  | none => (c, .raised (Coordinator.runNotFound runId))
  | some status =>
      let info : CheckpointInfo :=
        { checkpointId := checkpointId, runId := runId, step := step, createdAt := now,
          metadata := metadata }
      let status' := { status with lastCheckpointId := some checkpointId, updatedAt := now }
      ((c.putRecord (checkpointKey checkpointId) (.checkpoint info)).persistRun status',
        .checkpoint info)

/-- Delete a checkpoint record. -/
def deleteCheckpoint (checkpointId : String) : StoreCoordinator σ :=
  { c with kv := delete c.kv (checkpointKey checkpointId) }

/-- The checkpoints of a run by step, equal steps in the order of the store. -/
def listCheckpoints (runId : String) : List CheckpointInfo :=
  (((getPrefix c.kv checkpointsPrefix).filterMap fun item => item.2.asCheckpoint).filter
    fun info => decide (info.runId = runId)).insertionSort fun a b => a.step ≤ b.step

/-- The common body of `update_checkpoint_state` and
`update_checkpoint_metadata`. -/
def editCheckpoint (checkpointId : String) (edit : CheckpointInfo → CheckpointInfo) :
    StoreCoordinator σ × CoordinatorResult :=
  match c.getCheckpoint checkpointId with
  | none => (c, .raised (Coordinator.checkpointNotFound checkpointId))
  | some info =>
      (c.putRecord (checkpointKey checkpointId) (.checkpoint (edit info)), .checkpoint (edit info))

/-! ### Workers -/

/-- Read a worker. -/
def getWorkerRecord (runId workerId : String) : Option WorkerInfo :=
  (get c.kv (workerKey runId workerId)).bind KVRecord.asWorker

/-- Write a new worker in `ACTIVE`. -/
def registerWorker (runId : String) (rank : Int) (hostname workerId : String) (now : Nat) :
    StoreCoordinator σ × CoordinatorResult :=
  let worker : WorkerInfo :=
    { workerId := workerId, runId := runId, rank := rank, hostname := hostname,
      status := .active, lastHeartbeat := some now }
  (c.putRecord (workerKey runId workerId) (.worker worker), .worker worker)

/-- The common body of `heartbeat` and `mark_worker_dead`. -/
def editWorker (runId workerId : String) (edit : WorkerInfo → WorkerInfo) :
    StoreCoordinator σ × CoordinatorResult :=
  match c.getWorkerRecord runId workerId with
  | none =>
      (c, .raised (.keyError
        ("Worker " ++ pyRepr workerId ++ " not found for run " ++ pyRepr runId)))
  | some worker =>
      (c.putRecord (workerKey runId workerId) (.worker (edit worker)), .worker (edit worker))

/-- The workers under the prefix of a run, as the store lists them. -/
def listWorkers (runId : String) : List WorkerInfo :=
  (getPrefix c.kv (listingPrefix runId)).filterMap fun item => item.2.asWorker

/-- Serve an operation at a clock reading. -/
def serve (op : CoordinatorOp) (now : Nat) : StoreCoordinator σ × CoordinatorResult :=
  match op with
  | .createRun config runId => c.createRun config runId now
  | .getRun runId => (c, .runLookup (c.getRun runId))
  | .listRuns => (c, .runs c.listRuns)
  | .transitionRun runId target => c.moveRun runId target id now
  | .updateRunStep runId step => c.updateRunStep runId step now
  | .setRunError runId message =>
      c.moveRun runId .failed (fun status => { status with errorMessage := some message }) now
  | .createCheckpoint runId step metadata checkpointId =>
      c.createCheckpoint runId step metadata checkpointId now
  | .getCheckpoint checkpointId => (c, .checkpointLookup (c.getCheckpoint checkpointId))
  | .deleteCheckpoint checkpointId => (c.deleteCheckpoint checkpointId, .nothing)
  | .listCheckpoints runId => (c, .checkpoints (c.listCheckpoints runId))
  | .updateCheckpointState checkpointId state numShards totalBytes shardIds =>
      c.editCheckpoint checkpointId
        (Coordinator.stateUpdate state numShards totalBytes shardIds now)
  | .updateCheckpointMetadata checkpointId metadata merge =>
      c.editCheckpoint checkpointId (Coordinator.metadataUpdate metadata merge)
  | .registerWorker runId rank hostname workerId =>
      c.registerWorker runId rank hostname workerId now
  | .heartbeat runId workerId step => c.editWorker runId workerId fun worker =>
      { worker with lastHeartbeat := some now, currentStep := step, status := .active }
  | .listWorkers runId => (c, .workers (c.listWorkers runId))
  | .markWorkerDead runId workerId status =>
      c.editWorker runId workerId fun worker => { worker with status := status }

end StoreCoordinator

/-! ## What a range answers -/

/-- The keys that etcd is asked for are those with the prefix. -/
theorem inRange_prefixEnd_iff (start : Bytes) (key : Bytes) :
    EtcdKVStore.inRange start (some (prefixEnd start)) key = true ↔ start <+: key := by
  rw [EtcdKVStore.inRange, Bool.and_eq_true, Bool.or_eq_true, decide_eq_true_eq, decide_eq_true_eq,
    decide_eq_true_eq, prefixEnd]
  cases hbump : bump start with
  | none =>
      rw [prefix_iff_of_bump_none hbump, Option.getD_none]
      exact and_iff_left (Or.inl rfl)
  | some last =>
      rw [prefix_iff_of_bump hbump, Option.getD_some]
      exact and_congr_right fun _ => or_iff_right (bump_ne_zero hbump)

end CheckpointRuntime
