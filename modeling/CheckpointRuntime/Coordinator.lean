import CheckpointRuntime.RunStateMachine
import CheckpointRuntime.Library.KeyedTable
import Mathlib.Order.Basic
import Mathlib.Data.String.Basic

/-!
# The coordinator

`coordinator.py` over a reliable key-value store: run and checkpoint records
under their keys, and the state machines it caches.  JSON is lossless, so a
stored value is its record; a record is always written under its own key, so
the store is a keyed table.  An operation that raises still returns the
coordinator, because `_ensure_fsm` caches a machine before the transition is
tried.
-/

namespace CheckpointRuntime

open KeyedTable

/-- The prefix of every key the coordinator writes. -/
def keyPrefix : String := "/checkpoint-runtime"

/-- The key of a run record. -/
def runKey (runId : String) : String := keyPrefix ++ "/runs/" ++ runId

/-- The key of a checkpoint record. -/
def checkpointKey (checkpointId : String) : String :=
  keyPrefix ++ "/checkpoints/" ++ checkpointId

@[simp] theorem runKey_inj {a b : String} : runKey a = runKey b ↔ a = b :=
  String.append_right_inj _

@[simp] theorem checkpointKey_inj {a b : String} :
    checkpointKey a = checkpointKey b ↔ a = b :=
  String.append_right_inj _

/-- The two stores of the coordinator. -/
inductive KVStore
  | inMemoryKVStore
  | etcdKVStore
deriving DecidableEq, Repr

/-- A Python dictionary lists its keys in insertion order, etcd in key order. -/
def KVStore.placement : KVStore → Placement String
  | .inMemoryKVStore => .atEnd
  | .etcdKVStore => .byKey

/-- What a coordinator operation raises. -/
inductive CoordinatorError
  | keyError (message : String)
  | invalidTransition (error : InvalidTransitionError)
deriving DecidableEq, Repr

abbrev RunTable := Table RunStatus (fun status => runKey status.runId)

abbrev CheckpointTable := Table CheckpointInfo (fun info => checkpointKey info.checkpointId)

/-- The coordinator: the store behind it, its records, and its cached state
machines. -/
structure Coordinator where
  store : KVStore
  runs : RunTable
  checkpoints : CheckpointTable
  fsms : String → Option RunStateMachine

namespace Coordinator

/-- A coordinator over an empty store. -/
def init (store : KVStore) : Coordinator where
  store := store
  runs := .empty
  checkpoints := .empty
  fsms := fun _ => none

/-! ## Run management -/

def getRun (c : Coordinator) (runId : String) : Option RunStatus :=
  c.runs.find (runKey runId)

def persistRun (c : Coordinator) (status : RunStatus) : Coordinator :=
  { c with runs := c.runs.put c.store.placement status }

/-- The cached machine of a run, or a new one in the persisted state. -/
def machine (c : Coordinator) (runId : String) (current : RunState) : RunStateMachine :=
  (c.fsms runId).getD { state := current }

def cacheFsm (c : Coordinator) (runId : String) (m : RunStateMachine) : Coordinator :=
  { c with fsms := fun r => if r = runId then some m else c.fsms r }

/-- Create a new training run and persist its initial state. -/
def createRun (c : Coordinator) (config : RunConfig) (runId : String) (now : Nat) :
    Coordinator × RunStatus :=
  let status : RunStatus :=
    { runId := runId, name := config.name, state := .created,
      numWorkers := config.numWorkers, createdAt := now, updatedAt := now,
      config := config, metadata := config.metadata }
  ((c.cacheFsm runId {}).persistRun status, status)

def runNotFound (runId : String) : CoordinatorError :=
  .keyError ("Run " ++ pyRepr runId ++ " not found")

/-- The common body of `transition_run` and `set_run_error`: move the machine
of the run to `target`, then persist the edited status. -/
def moveRun (c : Coordinator) (runId : String) (target : RunState)
    (edit : RunStatus → RunStatus) (now : Nat) :
    Coordinator × Except CoordinatorError RunStatus :=
  match c.getRun runId with
  | none => (c, .error (runNotFound runId))
  | some status =>
      let m := c.machine runId status.state
      match m.transition target with
      | .error e => (c.cacheFsm runId m, .error (.invalidTransition e))
      | .ok moved =>
          let status' := { edit status with state := target, updatedAt := now }
          ((c.cacheFsm runId moved).persistRun status', .ok status')

def transitionRun (c : Coordinator) (runId : String) (target : RunState) (now : Nat) :
    Coordinator × Except CoordinatorError RunStatus :=
  c.moveRun runId target id now

/-- The message is a text, or `None` where a request has said `null`. -/
def setRunError (c : Coordinator) (runId : String) (message : Option String) (now : Nat) :
    Coordinator × Except CoordinatorError RunStatus :=
  c.moveRun runId .failed (fun status => { status with errorMessage := message }) now

def updateRunStep (c : Coordinator) (runId : String) (step : Int) (now : Nat) :
    Coordinator × Except CoordinatorError RunStatus :=
  match c.getRun runId with
  | none => (c, .error (runNotFound runId))
  | some status =>
      let status' := { status with currentStep := step, updatedAt := now }
      (c.persistRun status', .ok status')

/-! ## Checkpoint management -/

def getCheckpoint (c : Coordinator) (checkpointId : String) : Option CheckpointInfo :=
  c.checkpoints.find (checkpointKey checkpointId)

def putCheckpoint (c : Coordinator) (info : CheckpointInfo) : Coordinator :=
  { c with checkpoints := c.checkpoints.put c.store.placement info }

def createCheckpoint (c : Coordinator) (runId : String) (step : Int)
    (checkpointId : String) (now : Nat) :
    Coordinator × Except CoordinatorError CheckpointInfo :=
  match c.getRun runId with
  | none => (c, .error (runNotFound runId))
  | some status =>
      let info : CheckpointInfo :=
        { checkpointId := checkpointId, runId := runId, step := step, createdAt := now }
      let status' := { status with lastCheckpointId := some checkpointId, updatedAt := now }
      ((c.putCheckpoint info).persistRun status', .ok info)

/-- Remove checkpoint metadata after its storage objects are pruned. -/
def deleteCheckpoint (c : Coordinator) (checkpointId : String) : Coordinator :=
  { c with checkpoints := c.checkpoints.erase (checkpointKey checkpointId) }

/-- The checkpoints of a run by step, equal steps in the order of the store. -/
def listCheckpoints (c : Coordinator) (runId : String) : List CheckpointInfo :=
  (c.checkpoints.rows.filter (fun info => decide (info.runId = runId))).insertionSort
    (fun a b => a.step ≤ b.step)

/-- What an upload writes into the record besides its state. -/
structure ShardSummary where
  numShards : Nat
  totalBytes : Nat
  shardIds : List String
deriving DecidableEq, Repr

/-- The record that `update_checkpoint_state` writes. -/
def updatedInfo (info : CheckpointInfo) (state : CheckpointState)
    (summary : Option ShardSummary) (now : Nat) : CheckpointInfo :=
  { info with
    state := state
    numShards := (summary.map (·.numShards)).getD info.numShards
    totalBytes := (summary.map (·.totalBytes)).getD info.totalBytes
    shardIds := (summary.map (·.shardIds)).getD info.shardIds
    committedAt :=
      if state = .committed ∧ info.committedAt = none then some now else info.committedAt }

/-- Overwrite the state of a checkpoint record.  The old state is not looked
at. -/
def updateCheckpointState (c : Coordinator) (checkpointId : String)
    (state : CheckpointState) (summary : Option ShardSummary) (now : Nat) :
    Coordinator × Except CoordinatorError CheckpointInfo :=
  match c.getCheckpoint checkpointId with
  | none => (c, .error (.keyError ("Checkpoint " ++ pyRepr checkpointId ++ " not found")))
  | some info =>
      let info' := updatedInfo info state summary now
      (c.putCheckpoint info', .ok info')

/-! ## What the operations do to the records -/

@[simp] theorem getRun_persistRun (c : Coordinator) (status : RunStatus) (runId : String) :
    (c.persistRun status).getRun runId =
      if runId = status.runId then some status else c.getRun runId := by
  simp [getRun, persistRun, Table.find_put]

@[simp] theorem getRun_cacheFsm (c : Coordinator) (runId other : String)
    (m : RunStateMachine) : (c.cacheFsm runId m).getRun other = c.getRun other := rfl

@[simp] theorem getRun_putCheckpoint (c : Coordinator) (info : CheckpointInfo)
    (runId : String) : (c.putCheckpoint info).getRun runId = c.getRun runId := rfl

@[simp] theorem getRun_deleteCheckpoint (c : Coordinator) (checkpointId runId : String) :
    (c.deleteCheckpoint checkpointId).getRun runId = c.getRun runId := rfl

@[simp] theorem checkpoints_persistRun (c : Coordinator) (status : RunStatus) :
    (c.persistRun status).checkpoints = c.checkpoints := rfl

@[simp] theorem checkpoints_cacheFsm (c : Coordinator) (runId : String)
    (m : RunStateMachine) : (c.cacheFsm runId m).checkpoints = c.checkpoints := rfl

@[simp] theorem getCheckpoint_putCheckpoint (c : Coordinator) (info : CheckpointInfo)
    (checkpointId : String) :
    (c.putCheckpoint info).getCheckpoint checkpointId =
      if checkpointId = info.checkpointId then some info
      else c.getCheckpoint checkpointId := by
  simp [getCheckpoint, putCheckpoint, Table.find_put]

@[simp] theorem getCheckpoint_deleteCheckpoint (c : Coordinator) (gone checkpointId : String) :
    (c.deleteCheckpoint gone).getCheckpoint checkpointId =
      if checkpointId = gone then none else c.getCheckpoint checkpointId := by
  simp [getCheckpoint, deleteCheckpoint, Table.find_erase]

/-- Two coordinators with the same checkpoint records find the same ones. -/
theorem getCheckpoint_congr {c c' : Coordinator} (h : c'.checkpoints = c.checkpoints)
    (checkpointId : String) : c'.getCheckpoint checkpointId = c.getCheckpoint checkpointId := by
  simp [getCheckpoint, h]

/-- A run record is stored under its own id. -/
theorem runId_of_getRun {c : Coordinator} {runId : String} {status : RunStatus}
    (h : c.getRun runId = some status) : status.runId = runId :=
  runKey_inj.mp (c.runs.key_of_find h)

/-- A checkpoint record is stored under its own id. -/
theorem checkpointId_of_getCheckpoint {c : Coordinator} {checkpointId : String}
    {info : CheckpointInfo} (h : c.getCheckpoint checkpointId = some info) :
    info.checkpointId = checkpointId :=
  checkpointKey_inj.mp (c.checkpoints.key_of_find h)

/-- The records that lookups find are the rows of the table. -/
theorem getCheckpoint_of_mem {c : Coordinator} {info : CheckpointInfo}
    (h : info ∈ c.checkpoints.rows) : c.getCheckpoint info.checkpointId = some info :=
  c.checkpoints.find_of_mem h

theorem mem_of_getCheckpoint {c : Coordinator} {checkpointId : String}
    {info : CheckpointInfo} (h : c.getCheckpoint checkpointId = some info) :
    info ∈ c.checkpoints.rows :=
  c.checkpoints.mem_of_find h

/-- A listing holds exactly the records of its run. -/
theorem mem_listCheckpoints {c : Coordinator} {runId : String} {info : CheckpointInfo} :
    info ∈ c.listCheckpoints runId ↔
      c.getCheckpoint info.checkpointId = some info ∧ info.runId = runId := by
  rw [listCheckpoints, List.mem_insertionSort, List.mem_filter, decide_eq_true_eq]
  exact and_congr_left fun _ => ⟨getCheckpoint_of_mem, mem_of_getCheckpoint⟩

/-- An update rewrites one record, if it exists, and no other. -/
theorem getCheckpoint_updateCheckpointState (c : Coordinator) (checkpointId : String)
    (state : CheckpointState) (summary : Option ShardSummary) (now : Nat) (other : String) :
    (c.updateCheckpointState checkpointId state summary now).1.getCheckpoint other =
      if other = checkpointId then
        (c.getCheckpoint checkpointId).map (fun info => updatedInfo info state summary now)
      else c.getCheckpoint other := by
  unfold updateCheckpointState
  cases hfind : c.getCheckpoint checkpointId with
  | none =>
      by_cases h : other = checkpointId
      · simp [h, hfind]
      · simp [h]
  | some info =>
      have hid : info.checkpointId = checkpointId := checkpointId_of_getCheckpoint hfind
      simp [updatedInfo, hid]

@[simp] theorem getRun_updateCheckpointState (c : Coordinator) (checkpointId : String)
    (state : CheckpointState) (summary : Option ShardSummary) (now : Nat) (runId : String) :
    (c.updateCheckpointState checkpointId state summary now).1.getRun runId =
      c.getRun runId := by
  unfold updateCheckpointState
  cases c.getCheckpoint checkpointId <;> rfl

@[simp] theorem fsms_updateCheckpointState (c : Coordinator) (checkpointId : String)
    (state : CheckpointState) (summary : Option ShardSummary) (now : Nat) :
    (c.updateCheckpointState checkpointId state summary now).1.fsms = c.fsms := by
  unfold updateCheckpointState
  cases c.getCheckpoint checkpointId <;> rfl

/-- An update answers with the record it wrote, or with a missing key. -/
theorem updateCheckpointState_result (c : Coordinator) (checkpointId : String)
    (state : CheckpointState) (summary : Option ShardSummary) (now : Nat) :
    (c.updateCheckpointState checkpointId state summary now).2 =
      match c.getCheckpoint checkpointId with
      | none => .error (.keyError ("Checkpoint " ++ pyRepr checkpointId ++ " not found"))
      | some info => .ok (updatedInfo info state summary now) := by
  unfold updateCheckpointState
  cases c.getCheckpoint checkpointId <;> rfl

@[simp] theorem checkpoints_moveRun (c : Coordinator) (runId : String) (target : RunState)
    (edit : RunStatus → RunStatus) (now : Nat) :
    (c.moveRun runId target edit now).1.checkpoints = c.checkpoints := by
  unfold moveRun
  split
  · rfl
  · dsimp only
    split <;> rfl

/-- Moving a run leaves every other run's record alone. -/
theorem getRun_moveRun_of_ne (c : Coordinator) {runId other : String} (target : RunState)
    (edit : RunStatus → RunStatus) (hedit : ∀ status, (edit status).runId = status.runId)
    (now : Nat) (hne : other ≠ runId) :
    (c.moveRun runId target edit now).1.getRun other = c.getRun other := by
  unfold moveRun
  split
  · rfl
  · next status hfind =>
    have hid := runId_of_getRun hfind
    dsimp only
    split
    · rfl
    · simp [hedit, hid, hne]

/-! ## The cached machines follow the records -/

/-- Every cached machine is in the persisted state of its run. -/
def Coherent (c : Coordinator) : Prop :=
  ∀ runId m, c.fsms runId = some m →
    ∃ status, c.getRun runId = some status ∧ status.state = m.state

/-- The state of a run, if it exists. -/
def runState (c : Coordinator) (runId : String) : Option RunState :=
  (c.getRun runId).map (·.state)

theorem coherent_init (store : KVStore) : (init store).Coherent := by
  intro runId m h
  simp [init] at h

/-- In a coherent coordinator the machine of a run is in its persisted state. -/
theorem Coherent.machine_state {c : Coordinator} (hc : c.Coherent) {runId : String}
    {status : RunStatus} (hrun : c.getRun runId = some status) :
    (c.machine runId status.state).state = status.state := by
  unfold machine
  cases hm : c.fsms runId with
  | none => rfl
  | some m =>
      obtain ⟨found, hfound, hstate⟩ := hc runId m hm
      obtain rfl : found = status := Option.some.inj (hfound.symm.trans hrun)
      exact hstate.symm

/-- Records that change neither a run's state nor a machine keep coherence. -/
theorem Coherent.of_same {c c' : Coordinator} (hc : c.Coherent)
    (hfsms : c'.fsms = c.fsms) (hruns : ∀ runId, c'.runState runId = c.runState runId) :
    c'.Coherent := by
  intro runId m hm
  rw [hfsms] at hm
  obtain ⟨status, hstatus, hstate⟩ := hc runId m hm
  have hsame := hruns runId
  simp only [runState, hstatus, Option.map_some, Option.map_eq_some_iff] at hsame
  obtain ⟨status', hstatus', hstate'⟩ := hsame
  exact ⟨status', hstatus', hstate'.trans hstate⟩

/-- What moving a run does to run states: the run follows the table of valid
transitions, and nothing else moves. -/
theorem Coherent.runState_moveRun {c : Coordinator} (hc : c.Coherent) (runId : String)
    (target : RunState) (edit : RunStatus → RunStatus)
    (hedit : ∀ status, (edit status).runId = status.runId) (now : Nat) (other : String) :
    (c.moveRun runId target edit now).1.runState other =
      if other = runId then
        (c.runState runId).map
          (fun state => if target ∈ validTransitions state then target else state)
      else c.runState other := by
  by_cases hne : other = runId
  · subst hne
    rw [if_pos rfl]
    unfold moveRun runState
    split
    · next hnone => simp [hnone]
    · next status hfind =>
      have hstate := hc.machine_state hfind
      have hid := runId_of_getRun hfind
      dsimp only
      split
      · next e he =>
        have hno := (RunStateMachine.transition_eq_error_iff.mp he).1
        rw [hstate] at hno
        simp [hfind, hno]
      · next moved hmoved =>
        have hyes := (RunStateMachine.transition_eq_ok_iff.mp hmoved).1
        rw [hstate] at hyes
        simp [hfind, hyes, hedit, hid]
  · rw [if_neg hne, runState, getRun_moveRun_of_ne c target edit hedit now hne, runState]

/-- Moving a run keeps the machines coherent. -/
theorem Coherent.moveRun {c : Coordinator} (hc : c.Coherent) (runId : String)
    (target : RunState) (edit : RunStatus → RunStatus)
    (hedit : ∀ status, (edit status).runId = status.runId) (now : Nat) :
    (c.moveRun runId target edit now).1.Coherent := by
  unfold Coordinator.moveRun
  split
  · exact hc
  · next status hfind =>
    have hstate := hc.machine_state hfind
    have hid := runId_of_getRun hfind
    dsimp only
    split
    · intro r m hm
      by_cases hr : r = runId
      · subst hr
        simp only [cacheFsm, if_pos, Option.some.injEq] at hm
        exact ⟨status, hfind, by rw [← hm, hstate]⟩
      · simp only [cacheFsm, if_neg hr] at hm
        exact hc r m hm
    · next moved hmoved =>
      obtain ⟨_, rfl⟩ := RunStateMachine.transition_eq_ok_iff.mp hmoved
      intro r m hm
      by_cases hr : r = runId
      · subst hr
        simp only [persistRun, cacheFsm, if_pos, Option.some.injEq] at hm
        refine ⟨{ edit status with state := target, updatedAt := now }, ?_, ?_⟩
        · simp [hedit, hid]
        · rw [← hm]
      · simp only [persistRun, cacheFsm, if_neg hr] at hm
        obtain ⟨found, hfound, hfoundState⟩ := hc r m hm
        exact ⟨found, by simp [hedit, hid, hr, hfound], hfoundState⟩

/-- A move that the machine of the run allows answers with the run in its new
state, and persists it. -/
theorem moveRun_valid {c : Coordinator} {runId : String} {status : RunStatus}
    (hrun : c.getRun runId = some status) {target : RunState}
    (hvalid : target ∈ validTransitions (c.machine runId status.state).state)
    (edit : RunStatus → RunStatus) (hedit : ∀ status, (edit status).runId = status.runId)
    (now : Nat) :
    let moved := { edit status with state := target, updatedAt := now }
    let out := c.moveRun runId target edit now
    out.2 = .ok moved ∧ out.1.getRun runId = some moved ∧
      ∀ current, (out.1.machine runId current).state = target := by
  have hid := runId_of_getRun hrun
  have hm := RunStateMachine.transition_eq_ok_iff.mpr ⟨hvalid, rfl⟩
  simp only [moveRun, hrun, hm]
  refine ⟨trivial, by simp [hedit, hid], ?_⟩
  intro current
  simp [machine, persistRun, cacheFsm]

/-- A move that the machine of the run refuses names the state of the machine,
and changes no record. -/
theorem moveRun_invalid {c : Coordinator} {runId : String} {status : RunStatus}
    (hrun : c.getRun runId = some status) {target : RunState}
    (hinvalid : target ∉ validTransitions (c.machine runId status.state).state)
    (edit : RunStatus → RunStatus) (now : Nat) :
    let out := c.moveRun runId target edit now
    out.2 = .error (.invalidTransition ⟨(c.machine runId status.state).state, target⟩) ∧
      out.1.getRun = c.getRun := by
  have hm := RunStateMachine.transition_eq_error_iff.mpr ⟨hinvalid, rfl⟩
  simp only [moveRun, hrun, hm]
  exact ⟨trivial, rfl⟩

/-- Moving a run that does not exist changes nothing. -/
theorem moveRun_missing {c : Coordinator} {runId : String} (hrun : c.getRun runId = none)
    (target : RunState) (edit : RunStatus → RunStatus) (now : Nat) :
    c.moveRun runId target edit now = (c, .error (runNotFound runId)) := by
  simp only [moveRun, hrun]

/-- Moving a run brings it to the target or leaves it where it was. -/
theorem runState_moveRun_self (c : Coordinator) (runId : String) (target : RunState)
    (edit : RunStatus → RunStatus) (hedit : ∀ status, (edit status).runId = status.runId)
    (now : Nat) :
    (c.moveRun runId target edit now).1.runState runId = c.runState runId ∨
      (c.moveRun runId target edit now).1.runState runId = some target := by
  cases hrun : c.getRun runId with
  | none =>
      rw [moveRun_missing hrun]
      exact Or.inl rfl
  | some status =>
      by_cases hvalid : target ∈ validTransitions (c.machine runId status.state).state
      · obtain ⟨_, hget, _⟩ := moveRun_valid hrun hvalid edit hedit now
        right
        rw [runState, hget]
        rfl
      · obtain ⟨_, hget⟩ := moveRun_invalid hrun hvalid edit now
        left
        rw [runState, hget, runState]

/-- Moving a run succeeds exactly when the run exists and the move is valid. -/
theorem Coherent.moveRun_isOk {c : Coordinator} (hc : c.Coherent) (runId : String)
    (target : RunState) (edit : RunStatus → RunStatus) (now : Nat) :
    (∃ status, (c.moveRun runId target edit now).2 = .ok status) ↔
      ∃ state, c.runState runId = some state ∧ target ∈ validTransitions state := by
  unfold Coordinator.moveRun runState
  split
  · next hnone => simp [hnone]
  · next status hfind =>
    have hstate := hc.machine_state hfind
    dsimp only
    split
    · next e he =>
      have hno := (RunStateMachine.transition_eq_error_iff.mp he).1
      rw [hstate] at hno
      simp [hfind, hno]
    · next moved hmoved =>
      have hyes := (RunStateMachine.transition_eq_ok_iff.mp hmoved).1
      rw [hstate] at hyes
      simp [hfind, hyes]

/-- A move that is not valid does not succeed. -/
theorem Coherent.moveRun_ne_ok {c : Coordinator} (hc : c.Coherent) {runId : String}
    {state target : RunState} (hstate : c.runState runId = some state)
    (hinvalid : target ∉ validTransitions state) (edit : RunStatus → RunStatus) (now : Nat)
    (moved : RunStatus) : (c.moveRun runId target edit now).2 ≠ .ok moved := by
  intro hok
  obtain ⟨found, hfound, hvalid⟩ := (hc.moveRun_isOk runId target edit now).mp ⟨moved, hok⟩
  obtain rfl := Option.some.inj (hstate.symm.trans hfound)
  exact hinvalid hvalid

/-- The answer of a move is the record that it has written; a refused move has
written none. -/
theorem getRun_of_moveRun (c : Coordinator) (runId : String) (target : RunState)
    (edit : RunStatus → RunStatus) (hedit : ∀ status, (edit status).runId = status.runId)
    (now : Nat) :
    (∀ status, (c.moveRun runId target edit now).2 = .ok status →
      (c.moveRun runId target edit now).1.getRun runId = some status) ∧
    ∀ e, (c.moveRun runId target edit now).2 = .error e →
      (c.moveRun runId target edit now).1.getRun = c.getRun := by
  cases hrun : c.getRun runId with
  | none =>
      rw [moveRun_missing hrun]
      exact ⟨(fun _ h => nomatch h), fun _ _ => rfl⟩
  | some status =>
      by_cases hvalid : target ∈ validTransitions (c.machine runId status.state).state
      · obtain ⟨hresult, hget, _⟩ := moveRun_valid hrun hvalid edit hedit now
        rw [hresult, hget]
        exact ⟨fun _ h => congrArg some (Except.ok.inj h), fun _ h => nomatch h⟩
      · obtain ⟨hresult, hget⟩ := moveRun_invalid hrun hvalid edit now
        rw [hresult, hget]
        exact ⟨(fun _ h => nomatch h), fun _ _ => rfl⟩

end Coordinator

end CheckpointRuntime
