import CheckpointRuntime.CoordinatorRestart
import CheckpointRuntime.Library.RaisingProgram

/-!
# The coordinator over a store that may fail

The methods of `coordinator.py` once more, as programs: each call of `get`,
`put`, `delete` or `get_prefix` may raise, and then it has no effect.  The
cached machines live in memory and do not wait for the store.  Without faults
the programs are the operations of the reliable coordinator.
-/

namespace CheckpointRuntime

open KeyedTable RaisingProgram

/-- What a method of the coordinator raises: its own errors, or what the store
raised. -/
inductive CallError
  | store
  | coordinator (error : CoordinatorError)
deriving DecidableEq, Repr

/-- A method of the coordinator, with the faults of its accesses to the store. -/
abbrev Call (α : Type) : Type := Raising (WorkerCoordinator × List Bool) CallError α

namespace Call

/-! ## Accesses -/

/-- The coordinator as it is now. -/
def coordinator : Call WorkerCoordinator := do
  return (← read).1

/-- Change records or machines. -/
def change (f : Coordinator → Coordinator) : Call Unit :=
  modify fun s => ({ s.1 with toCoordinator := f s.1.toCoordinator }, s.2)

/-- Ask the store something. -/
def ask {α : Type} (question : WorkerCoordinator → α) : Call α := do
  access .store
  return question (← coordinator)

/-- Write runs or checkpoints to the store. -/
def put (f : Coordinator → Coordinator) : Call Unit := do
  access .store
  change f

def putWorker (worker : WorkerInfo) : Call Unit := do
  access .store
  modify fun s => (s.1.putWorker worker, s.2)

/-! ## Methods -/

/-- The record that `create_run` writes. -/
def newRun (config : RunConfig) (runId : String) (now : Nat) : RunStatus :=
  { runId := runId, name := config.name, state := .created,
    numWorkers := config.numWorkers, createdAt := now, updatedAt := now,
    config := config, metadata := config.metadata }

/-- The machine of the new run is cached first. -/
def createRun (config : RunConfig) (runId : String) (now : Nat) : Call RunStatus := do
  change (·.cacheFsm runId {})
  put (·.persistRun (newRun config runId now))
  return newRun config runId now

def getRun (runId : String) : Call (Option RunStatus) := ask (·.getRun runId)

/-- The start of every method that needs a run. -/
def findRun (runId : String) : Call RunStatus := do
  orRaise (.coordinator (Coordinator.runNotFound runId)) (← getRun runId)

/-- `_ensure_fsm`. -/
def ensureFsm (runId : String) (current : RunState) : Call RunStateMachine := do
  let m := (← coordinator).machine runId current
  change (·.cacheFsm runId m)
  return m

/-- `fsm.transition(target)` on the cached machine. -/
def transition (runId : String) (m : RunStateMachine) (target : RunState) : Call Unit :=
  match m.transition target with
  | .error error => raise (.coordinator (.invalidTransition error))
  | .ok moved => change (·.cacheFsm runId moved)

/-- The status that a move puts. -/
def movedStatus (target : RunState) (edit : RunStatus → RunStatus) (now : Nat)
    (status : RunStatus) : RunStatus :=
  { edit status with state := target, updatedAt := now }

/-- The common body of `transition_run` and `set_run_error`: the machine moves
before the status is put. -/
def moveRun (runId : String) (target : RunState) (edit : RunStatus → RunStatus) (now : Nat) :
    Call RunStatus := do
  let status ← findRun runId
  let m ← ensureFsm runId status.state
  transition runId m target
  let status' := movedStatus target edit now status
  put (·.persistRun status')
  return status'

def transitionRun (runId : String) (target : RunState) (now : Nat) : Call RunStatus :=
  moveRun runId target id now

def setRunError (runId message : String) (now : Nat) : Call RunStatus :=
  moveRun runId .failed (fun status => { status with errorMessage := some message }) now

def updateRunStep (runId : String) (step : Int) (now : Nat) : Call RunStatus := do
  let status ← findRun runId
  let status' := { status with currentStep := step, updatedAt := now }
  put (·.persistRun status')
  return status'

def createCheckpoint (runId : String) (step : Int) (metadata : List (String × String))
    (checkpointId : String) (now : Nat) : Call CheckpointInfo := do
  let status ← findRun runId
  let info : CheckpointInfo :=
    { checkpointId := checkpointId, runId := runId, step := step, createdAt := now,
      metadata := metadata }
  put (·.putCheckpoint info)
  let status' := { status with lastCheckpointId := some checkpointId, updatedAt := now }
  put (·.persistRun status')
  return info

/-- The common body of `update_checkpoint_state` and
`update_checkpoint_metadata`. -/
def editCheckpoint (checkpointId : String) (edit : CheckpointInfo → CheckpointInfo) :
    Call CheckpointInfo := do
  let info ← orRaise (.coordinator (Coordinator.checkpointNotFound checkpointId))
    (← ask (·.getCheckpoint checkpointId))
  put (·.putCheckpoint (edit info))
  return edit info

def registerWorker (runId : String) (rank : Int) (hostname workerId : String) (now : Nat) :
    Call WorkerInfo := do
  let worker : WorkerInfo :=
    { workerId := workerId, runId := runId, rank := rank, hostname := hostname,
      status := .active, lastHeartbeat := some now }
  putWorker worker
  return worker

/-- The common body of `heartbeat` and `mark_worker_dead`. -/
def editWorker (runId workerId : String) (edit : WorkerInfo → WorkerInfo) : Call WorkerInfo := do
  let worker ← orRaise
    (.coordinator (.keyError
      ("Worker " ++ pyRepr workerId ++ " not found for run " ++ pyRepr runId)))
    (← ask (·.getWorkerRecord runId workerId))
  putWorker (edit worker)
  return edit worker

end Call

/-- The program of an operation. -/
def CoordinatorOp.call (op : CoordinatorOp) (now : Nat) : Call CoordinatorResult :=
  match op with
  | .createRun config runId => do return .run (← Call.createRun config runId now)
  | .getRun runId => do return .runLookup (← Call.getRun runId)
  | .listRuns => do return .runs (← Call.ask (·.listRuns))
  | .transitionRun runId target => do return .run (← Call.transitionRun runId target now)
  | .updateRunStep runId step => do return .run (← Call.updateRunStep runId step now)
  | .setRunError runId message => do return .run (← Call.setRunError runId message now)
  | .createCheckpoint runId step metadata checkpointId => do
      return .checkpoint (← Call.createCheckpoint runId step metadata checkpointId now)
  | .getCheckpoint checkpointId => do
      return .checkpointLookup (← Call.ask (·.getCheckpoint checkpointId))
  | .deleteCheckpoint checkpointId => do
      Call.put (·.deleteCheckpoint checkpointId)
      return .nothing
  | .listCheckpoints runId => do return .checkpoints (← Call.ask (·.listCheckpoints runId))
  | .updateCheckpointState checkpointId state numShards totalBytes shardIds => do
      return .checkpoint (← Call.editCheckpoint checkpointId
        (Coordinator.stateUpdate state numShards totalBytes shardIds now))
  | .updateCheckpointMetadata checkpointId metadata merge => do
      return .checkpoint (← Call.editCheckpoint checkpointId
        (Coordinator.metadataUpdate metadata merge))
  | .registerWorker runId rank hostname workerId => do
      return .worker (← Call.registerWorker runId rank hostname workerId now)
  | .heartbeat runId workerId step => do
      return .worker (← Call.editWorker runId workerId fun worker =>
        { worker with lastHeartbeat := some now, currentStep := step, status := .active })
  | .listWorkers runId => do return .workers (← Call.ask (·.listWorkers runId))
  | .markWorkerDead runId workerId status => do
      return .worker (← Call.editWorker runId workerId fun worker =>
        { worker with status := status })

/-- A result as the end of a program. -/
def CoordinatorResult.ending : CoordinatorResult → Except CallError CoordinatorResult
  | .raised error => .error (.coordinator error)
  | returned => .ok returned

namespace Call

/-! ## What the accesses do -/

section
variable (c : WorkerCoordinator) (faults : List Bool)

@[simp] theorem coordinator_apply : coordinator (c, faults) = ((c, faults), .ok c) := rfl

@[simp] theorem change_apply (f : Coordinator → Coordinator) :
    change f (c, faults) = (({ c with toCoordinator := f c.toCoordinator }, faults), .ok ()) := rfl

variable {c faults}

theorem ask_of_ok {α : Type} (question : WorkerCoordinator → α)
    (h : faults.headD false = false) :
    ask question (c, faults) = ((c, faults.tail), .ok (question c)) := by
  rw [ask, bind_apply_ok _ (access_of_ok h)]
  rfl

theorem ask_of_fault {α : Type} (question : WorkerCoordinator → α)
    (h : faults.headD false = true) :
    ask question (c, faults) = ((c, faults.tail), .error .store) := by
  rw [ask, bind_apply_error _ (access_of_fault h)]

theorem put_of_ok (f : Coordinator → Coordinator) (h : faults.headD false = false) :
    put f (c, faults) =
      (({ c with toCoordinator := f c.toCoordinator }, faults.tail), .ok ()) := by
  rw [put, bind_apply_ok _ (access_of_ok h)]
  rfl

theorem put_of_fault (f : Coordinator → Coordinator) (h : faults.headD false = true) :
    put f (c, faults) = ((c, faults.tail), .error .store) := by
  rw [put, bind_apply_error _ (access_of_fault h)]

theorem findRun_of_ok {runId : String} {status : RunStatus} (hrun : c.getRun runId = some status)
    (h : faults.headD false = false) :
    findRun runId (c, faults) = ((c, faults.tail), .ok status) := by
  rw [findRun, getRun, bind_apply_ok _ (ask_of_ok _ h), hrun]
  rfl

theorem findRun_missing {runId : String} (hrun : c.getRun runId = none)
    (h : faults.headD false = false) : findRun runId (c, faults) =
      ((c, faults.tail), .error (.coordinator (Coordinator.runNotFound runId))) := by
  rw [findRun, getRun, bind_apply_ok _ (ask_of_ok _ h), hrun]
  rfl

theorem findRun_of_fault {runId : String} (h : faults.headD false = true) :
    findRun runId (c, faults) = ((c, faults.tail), .error .store) := by
  rw [findRun, getRun, bind_apply_error _ (ask_of_fault _ h)]

end

/-- The machine of a run is cached whatever happens next. -/
theorem ensureFsm_apply (c : WorkerCoordinator) (faults : List Bool) (runId : String)
    (current : RunState) : ensureFsm runId current (c, faults) =
      (({ c with toCoordinator := c.cacheFsm runId (c.machine runId current) }, faults),
        .ok (c.machine runId current)) := by
  rw [ensureFsm, bind_apply_ok _ (coordinator_apply c faults),
    bind_apply_ok _ (change_apply c faults _)]
  rfl

end Call

theorem Coordinator.cacheFsm_cacheFsm (c : Coordinator) (runId : String)
    (m m' : RunStateMachine) : (c.cacheFsm runId m).cacheFsm runId m' = c.cacheFsm runId m' := by
  unfold cacheFsm
  congr 1
  funext r
  dsimp only
  split <;> rfl

namespace Call

/-! ## How a move ends -/

section
variable {c : WorkerCoordinator} {faults : List Bool} {runId : String} {target : RunState}
  {edit : RunStatus → RunStatus} {now : Nat} {status : RunStatus}

theorem moveRun_of_fault (h : faults.headD false = true) :
    moveRun runId target edit now (c, faults) = ((c, faults.tail), .error .store) := by
  rw [moveRun, bind_apply_error _ (findRun_of_fault h)]

theorem moveRun_missing (hrun : c.getRun runId = none) (h : faults.headD false = false) :
    moveRun runId target edit now (c, faults) =
      ((c, faults.tail), .error (.coordinator (Coordinator.runNotFound runId))) := by
  rw [moveRun, bind_apply_error _ (findRun_missing hrun h)]

theorem moveRun_refused (hrun : c.getRun runId = some status) (h : faults.headD false = false)
    {error : InvalidTransitionError}
    (hmove : (c.machine runId status.state).transition target = .error error) :
    moveRun runId target edit now (c, faults) =
      (({ c with toCoordinator := c.cacheFsm runId (c.machine runId status.state) }, faults.tail),
        .error (.coordinator (.invalidTransition error))) := by
  rw [moveRun, bind_apply_ok _ (findRun_of_ok hrun h), bind_apply_ok _ (ensureFsm_apply ..),
    transition, hmove]
  rfl

/-- The machine has moved before the status is put. -/
theorem moveRun_put (hrun : c.getRun runId = some status) (h : faults.headD false = false)
    {moved : RunStateMachine}
    (hmove : (c.machine runId status.state).transition target = .ok moved) :
    moveRun runId target edit now (c, faults) =
      (do
        put (·.persistRun (movedStatus target edit now status))
        return movedStatus target edit now status : Call RunStatus)
        ({ c with toCoordinator := c.cacheFsm runId moved }, faults.tail) := by
  rw [moveRun, bind_apply_ok _ (findRun_of_ok hrun h), bind_apply_ok _ (ensureFsm_apply ..),
    transition, hmove, bind_apply_ok _ (change_apply ..), Coordinator.cacheFsm_cacheFsm]

theorem moveRun_put_of_fault (hrun : c.getRun runId = some status)
    (h : faults.headD false = false) (hput : faults.tail.headD false = true)
    {moved : RunStateMachine}
    (hmove : (c.machine runId status.state).transition target = .ok moved) :
    moveRun runId target edit now (c, faults) =
      (({ c with toCoordinator := c.cacheFsm runId moved }, faults.tail.tail), .error .store) := by
  rw [moveRun_put hrun h hmove, bind_apply_error _ (put_of_fault _ hput)]

theorem moveRun_of_ok (hrun : c.getRun runId = some status)
    (h : faults.headD false = false) (hput : faults.tail.headD false = false)
    {moved : RunStateMachine}
    (hmove : (c.machine runId status.state).transition target = .ok moved) :
    moveRun runId target edit now (c, faults) =
      (({ c with toCoordinator :=
          (c.cacheFsm runId moved).persistRun (movedStatus target edit now status) },
          faults.tail.tail), .ok (movedStatus target edit now status)) := by
  rw [moveRun_put hrun h hmove, bind_apply_ok _ (put_of_ok _ hput)]
  rfl

end

end Call

/-! ## Without faults -/

/-- How a method ends that the reliable coordinator serves. -/
def served {α : Type} (out : WorkerCoordinator × Except CoordinatorError α) :
    (WorkerCoordinator × List Bool) × Except CallError α :=
  ((out.1, []), out.2.mapError .coordinator)

/-- The same for a method about runs and checkpoints. -/
def servedRuns {α : Type} (c : WorkerCoordinator)
    (out : Coordinator × Except CoordinatorError α) :
    (WorkerCoordinator × List Bool) × Except CallError α :=
  served ({ c with toCoordinator := out.1 }, out.2)

namespace Call

section
variable (c : WorkerCoordinator)

theorem moveRun_reliable (runId : String) (target : RunState) (edit : RunStatus → RunStatus)
    (now : Nat) : moveRun runId target edit now (c, []) =
      servedRuns c (c.moveRun runId target edit now) := by
  unfold Coordinator.moveRun
  cases hrun : c.getRun runId with
  | none => exact moveRun_missing hrun rfl
  | some status =>
      cases hmove : (c.machine runId status.state).transition target with
      | error error =>
          rw [moveRun_refused hrun rfl hmove]
          simp only [hmove]
          rfl
      | ok moved =>
          rw [moveRun_of_ok hrun rfl rfl hmove]
          simp only [hmove]
          rfl

theorem updateRunStep_reliable (runId : String) (step : Int) (now : Nat) :
    updateRunStep runId step now (c, []) = servedRuns c (c.updateRunStep runId step now) := by
  unfold updateRunStep Coordinator.updateRunStep
  cases hrun : c.getRun runId with
  | none =>
      rw [bind_apply_error _ (findRun_missing hrun rfl)]
      rfl
  | some status =>
      rw [bind_apply_ok _ (findRun_of_ok hrun rfl)]
      rfl

theorem createCheckpoint_reliable (runId : String) (step : Int)
    (metadata : List (String × String)) (checkpointId : String) (now : Nat) :
    createCheckpoint runId step metadata checkpointId now (c, []) =
      servedRuns c (c.createCheckpointWith runId step metadata checkpointId now) := by
  unfold createCheckpoint Coordinator.createCheckpointWith
  cases hrun : c.getRun runId with
  | none =>
      rw [bind_apply_error _ (findRun_missing hrun rfl)]
      rfl
  | some status =>
      rw [bind_apply_ok _ (findRun_of_ok hrun rfl)]
      rfl

theorem editCheckpoint_reliable (checkpointId : String)
    (edit : CheckpointInfo → CheckpointInfo) :
    editCheckpoint checkpointId edit (c, []) =
      servedRuns c (c.editCheckpoint checkpointId edit) := by
  unfold editCheckpoint Coordinator.editCheckpoint
  rw [bind_apply_ok _ (ask_of_ok _ rfl)]
  cases hinfo : c.getCheckpoint checkpointId with
  | none => rfl
  | some info => rfl

theorem editWorker_reliable (runId workerId : String) (edit : WorkerInfo → WorkerInfo) :
    editWorker runId workerId edit (c, []) = served (c.editWorker runId workerId edit) := by
  unfold editWorker WorkerCoordinator.editWorker
  rw [bind_apply_ok _ (ask_of_ok _ rfl)]
  cases hworker : c.getWorkerRecord runId workerId with
  | none => rfl
  | some worker => rfl

/-- A method whose value is wrapped into a result. -/
theorem bind_served {α : Type} {p : Call α} {out : WorkerCoordinator × Except CoordinatorError α}
    (h : p (c, []) = served out) (returned : α → CoordinatorResult)
    (hreturned : ∀ value, (returned value).ending = .ok (returned value)) :
    (do return returned (← p) : Call CoordinatorResult) (c, []) =
      ((out.1, []), (CoordinatorResult.of returned out.2).ending) := by
  obtain ⟨c', value | error⟩ := out
  · exact bind_apply_error _ h _
  · rw [bind_apply_ok _ h]
    exact congrArg (Prod.mk _) (hreturned error).symm

end

end Call

/-- **Without faults** the program of an operation is what the reliable
coordinator does. -/
theorem CoordinatorOp.call_reliable (c : WorkerCoordinator) (op : CoordinatorOp) (now : Nat) :
    op.call now (c, []) = (((c.serve op now).1, []), (c.serve op now).2.ending) := by
  cases op with
  | createRun config runId => rfl
  | getRun _ => rfl
  | listRuns => rfl
  | transitionRun runId target =>
      exact Call.bind_served c (Call.moveRun_reliable c runId target id now) .run fun _ => rfl
  | updateRunStep runId step =>
      exact Call.bind_served c (Call.updateRunStep_reliable c runId step now) .run fun _ => rfl
  | setRunError runId message =>
      exact Call.bind_served c (Call.moveRun_reliable c runId .failed _ now) .run fun _ => rfl
  | createCheckpoint runId step metadata checkpointId =>
      exact Call.bind_served c
        (Call.createCheckpoint_reliable c runId step metadata checkpointId now) .checkpoint
        fun _ => rfl
  | getCheckpoint _ => rfl
  | deleteCheckpoint _ => rfl
  | listCheckpoints _ => rfl
  | updateCheckpointState checkpointId _ _ _ _ =>
      exact Call.bind_served c (Call.editCheckpoint_reliable c checkpointId _) .checkpoint
        fun _ => rfl
  | updateCheckpointMetadata checkpointId _ _ =>
      exact Call.bind_served c (Call.editCheckpoint_reliable c checkpointId _) .checkpoint
        fun _ => rfl
  | registerWorker _ _ _ _ => rfl
  | heartbeat runId workerId _ =>
      exact Call.bind_served c (Call.editWorker_reliable c runId workerId _) .worker fun _ => rfl
  | listWorkers _ => rfl
  | markWorkerDead runId workerId _ =>
      exact Call.bind_served c (Call.editWorker_reliable c runId workerId _) .worker fun _ => rfl

end CheckpointRuntime
