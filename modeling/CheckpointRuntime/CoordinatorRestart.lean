import CheckpointRuntime.CoordinatorOperations
import CheckpointRuntime.Library.PartialRun

/-!
# Does anybody notice that the coordinator was replaced?

A fresh coordinator has no machines, and `_ensure_fsm` makes one in the
persisted state when a run is next moved.  Two coordinators over the same
records whose machines are all in the persisted states of their runs answer
alike and write alike.  Such a coordinator moves a run along the edges of the
table only.
-/

namespace CheckpointRuntime

open KeyedTable PartialRun

namespace Coordinator

/-! ## What the operations keep -/

theorem runState_createCheckpointWith (c : Coordinator) (runId : String) (step : Int)
    (metadata : List (String × String)) (checkpointId : String) (now : Nat) (other : String) :
    (c.createCheckpointWith runId step metadata checkpointId now).1.runState other =
      c.runState other := by
  unfold createCheckpointWith
  split
  · rfl
  · next status hfind =>
    have hid := runId_of_getRun hfind
    let status' : RunStatus :=
      { status with lastCheckpointId := some checkpointId, updatedAt := now }
    have hfound : c.getRun status'.runId = some status := by
      rw [← hfind, ← hid]
    exact runState_persistRun_same (c := c.putCheckpoint _) hfound rfl other

theorem fsms_createCheckpointWith (c : Coordinator) (runId : String) (step : Int)
    (metadata : List (String × String)) (checkpointId : String) (now : Nat) :
    (c.createCheckpointWith runId step metadata checkpointId now).1.fsms = c.fsms := by
  unfold createCheckpointWith
  split <;> rfl

theorem fsms_updateRunStep (c : Coordinator) (runId : String) (step : Int) (now : Nat) :
    (c.updateRunStep runId step now).1.fsms = c.fsms := by
  unfold updateRunStep
  split <;> rfl

theorem runState_editCheckpoint (c : Coordinator) (checkpointId : String)
    (edit : CheckpointInfo → CheckpointInfo) (other : String) :
    (c.editCheckpoint checkpointId edit).1.runState other = c.runState other := by
  unfold editCheckpoint
  split <;> rfl

theorem fsms_editCheckpoint (c : Coordinator) (checkpointId : String)
    (edit : CheckpointInfo → CheckpointInfo) :
    (c.editCheckpoint checkpointId edit).1.fsms = c.fsms := by
  unfold editCheckpoint
  split <;> rfl

/-- A run that exists stays where it is or moves along an edge. -/
def Follows (c c' : Coordinator) : Prop :=
  ∀ runId state, c.runState runId = some state →
    ∃ state', c'.runState runId = some state' ∧
      (state' = state ∨ state' ∈ validTransitions state)

theorem follows_of_same {c c' : Coordinator}
    (h : ∀ runId, c'.runState runId = c.runState runId) : c.Follows c' := by
  intro runId state hstate
  exact ⟨state, (h runId).trans hstate, Or.inl rfl⟩

/-- **A move.**  The machine of the run is in its persisted state, so the edge
that it follows starts there. -/
theorem Coherent.follows_moveRun {c : Coordinator} (hc : c.Coherent) (runId : String)
    (target : RunState) (edit : RunStatus → RunStatus)
    (hedit : ∀ status, (edit status).runId = status.runId) (now : Nat) :
    c.Follows (c.moveRun runId target edit now).1 := by
  intro other state hstate
  have hmoved := hc.runState_moveRun runId target edit hedit now other
  by_cases hother : other = runId
  · subst hother
    rw [if_pos rfl, hstate, Option.map_some] at hmoved
    by_cases hedge : target ∈ validTransitions state
    · rw [if_pos hedge] at hmoved
      exact ⟨target, hmoved, Or.inr hedge⟩
    · rw [if_neg hedge] at hmoved
      exact ⟨state, hmoved, Or.inl rfl⟩
  · rw [if_neg hother, hstate] at hmoved
    exact ⟨state, hmoved, Or.inl rfl⟩

theorem follows_createRun {c : Coordinator} {runId : String} (hfresh : c.getRun runId = none)
    (config : RunConfig) (now : Nat) : c.Follows (c.createRun config runId now).1 := by
  intro other state hstate
  have hne : other ≠ runId := by
    intro heq
    rw [heq, runState, hfresh] at hstate
    cases hstate
  exact ⟨state, by rw [runState_createRun, if_neg hne, hstate], Or.inl rfl⟩

/-- No run leaves a terminal state. -/
theorem Follows.terminal {c c' : Coordinator} (h : c.Follows c') {runId : String}
    {state : RunState} (hstate : c.runState runId = some state)
    (hterminal : state = .cancelled ∨ state = .completed) : c'.runState runId = some state := by
  obtain ⟨state', hstate', rfl | hedge⟩ := h runId state hstate
  · exact hstate'
  · rw [validTransitions_terminal.mpr hterminal] at hedge
    cases hedge

end Coordinator

namespace WorkerCoordinator

open Coordinator

/-- The same records, in the same order. -/
structure SameKV (c c' : WorkerCoordinator) : Prop where
  store : c.store = c'.store
  runs : c.runs = c'.runs
  checkpoints : c.checkpoints = c'.checkpoints
  workers : c.workers = c'.workers

/-- What an operation does to runs and machines: nothing, a new run, or a move
of one run. -/
inductive Served (c : WorkerCoordinator) (op : CoordinatorOp) (now : Nat) (c' : Coordinator) :
    Prop
  | quiet (hfsms : c'.fsms = c.fsms) (hruns : ∀ runId, c'.runState runId = c.runState runId)
  | created (config : RunConfig) (runId : String) (hop : op = .createRun config runId)
      (h : c' = (c.createRun config runId now).1)
  | moved (runId : String) (target : RunState) (edit : RunStatus → RunStatus)
      (hedit : ∀ status, (edit status).runId = status.runId)
      (h : c' = (c.moveRun runId target edit now).1)

theorem serve_cases (c : WorkerCoordinator) (op : CoordinatorOp) (now : Nat) :
    Served c op now (c.serve op now).1.toCoordinator := by
  have hworker : ∀ runId workerId edit,
      Served c op now (c.editWorker runId workerId edit).1.toCoordinator := by
    intro runId workerId edit
    rw [toCoordinator_editWorker]
    exact .quiet rfl fun _ => rfl
  have hcheckpoint : ∀ checkpointId edit,
      Served c op now (c.editCheckpoint checkpointId edit).1 := fun checkpointId edit =>
    .quiet (fsms_editCheckpoint ..) fun _ => runState_editCheckpoint ..
  cases op with
  | createRun config runId => exact .created config runId rfl rfl
  | getRun _ => exact .quiet rfl fun _ => rfl
  | listRuns => exact .quiet rfl fun _ => rfl
  | transitionRun runId target => exact .moved runId target id (fun _ => rfl) rfl
  | updateRunStep runId step =>
      refine .quiet ?_ fun _ => runState_updateRunStep ..
      exact fsms_updateRunStep c.toCoordinator runId step now
  | setRunError runId message =>
      exact .moved runId .failed (fun status => { status with errorMessage := some message })
        (fun _ => rfl) rfl
  | createCheckpoint runId step metadata checkpointId =>
      exact .quiet (fsms_createCheckpointWith ..) fun _ => runState_createCheckpointWith ..
  | getCheckpoint _ => exact .quiet rfl fun _ => rfl
  | deleteCheckpoint _ => exact .quiet rfl fun _ => rfl
  | listCheckpoints _ => exact .quiet rfl fun _ => rfl
  | updateCheckpointState _ _ _ _ _ => exact hcheckpoint _ _
  | updateCheckpointMetadata _ _ _ => exact hcheckpoint _ _
  | registerWorker _ _ _ _ => exact .quiet rfl fun _ => rfl
  | heartbeat _ _ _ => exact hworker _ _ _
  | listWorkers _ => exact .quiet rfl fun _ => rfl
  | markWorkerDead _ _ _ => exact hworker _ _ _

/-- Every operation keeps the machines in the persisted states. -/
theorem coherent_serve {c : WorkerCoordinator} (hc : c.Coherent) (op : CoordinatorOp)
    (now : Nat) : (c.serve op now).1.Coherent := by
  cases c.serve_cases op now with
  | quiet hfsms hruns => exact hc.of_same hfsms hruns
  | created config runId _ h => exact h ▸ hc.createRun config runId now
  | moved runId target edit hedit h => exact h ▸ hc.moveRun runId target edit hedit now

/-- A run is created under an id that no run has. -/
def drawsFreshRunId (c : WorkerCoordinator) : CoordinatorOp → Bool
  | .createRun _ runId => (c.getRun runId).isNone
  | _ => true

/-- **One operation.**  It moves every run along an edge at most. -/
theorem follows_serve {c : WorkerCoordinator} (hc : c.Coherent) {op : CoordinatorOp}
    (hop : c.drawsFreshRunId op = true) (now : Nat) :
    c.Follows (c.serve op now).1.toCoordinator := by
  cases c.serve_cases op now with
  | quiet _ hruns => exact follows_of_same hruns
  | created config runId hcreate h =>
      subst hcreate
      exact h ▸ follows_createRun (Option.isNone_iff_eq_none.mp hop) config now
  | moved runId target edit hedit h => exact h ▸ hc.follows_moveRun runId target edit hedit now

/-- **A move by two coordinators.**  The machines may have different histories,
but they are in the same state. -/
theorem SameKV.lift_moveRun {c c' : WorkerCoordinator} (h : SameKV c c') (hc : c.Coherent)
    (hc' : c'.Coherent) (runId : String) (target : RunState) (edit : RunStatus → RunStatus)
    (now : Nat) (answer : Except CoordinatorError RunStatus → CoordinatorResult) :
    (c.lift (c.moveRun runId target edit now) answer).2 =
        (c'.lift (c'.moveRun runId target edit now) answer).2 ∧
      SameKV (c.lift (c.moveRun runId target edit now) answer).1
        (c'.lift (c'.moveRun runId target edit now) answer).1 := by
  obtain ⟨hstore, hruns, hcheckpoints, hworkers⟩ := h
  have hget : c'.getRun runId = c.getRun runId := congrArg (·.find (runKey runId)) hruns.symm
  cases hrun : c.getRun runId with
  | none =>
      rw [moveRun_missing hrun, moveRun_missing (hget.trans hrun)]
      exact ⟨rfl, hstore, hruns, hcheckpoints, hworkers⟩
  | some status =>
      have hrun' := hget.trans hrun
      have hstate := hc.machine_state hrun
      have hstate' := hc'.machine_state hrun'
      by_cases hedge : target ∈ validTransitions status.state
      · have hmove := RunStateMachine.transition_eq_ok_iff.mpr ⟨hstate.symm ▸ hedge, rfl⟩
        have hmove' := RunStateMachine.transition_eq_ok_iff.mpr ⟨hstate'.symm ▸ hedge, rfl⟩
        simp only [moveRun, hrun, hrun', hmove, hmove', lift]
        refine ⟨trivial, hstore, ?_, hcheckpoints, hworkers⟩
        show c.runs.put c.store.placement _ = c'.runs.put c'.store.placement _
        rw [hruns, hstore]
      · have hmove := RunStateMachine.transition_eq_error_iff.mpr ⟨hstate.symm ▸ hedge, rfl⟩
        have hmove' := RunStateMachine.transition_eq_error_iff.mpr ⟨hstate'.symm ▸ hedge, rfl⟩
        simp only [moveRun, hrun, hrun', hmove, hmove', hstate, hstate', lift]
        exact ⟨trivial, hstore, hruns, hcheckpoints, hworkers⟩

/-- **One operation of two coordinators.**  Over the same records, with all
machines in the persisted states, they answer and write alike. -/
theorem SameKV.serve {c c' : WorkerCoordinator} (h : SameKV c c') (hc : c.Coherent)
    (hc' : c'.Coherent) (op : CoordinatorOp) (now : Nat) :
    (c.serve op now).2 = (c'.serve op now).2 ∧ SameKV (c.serve op now).1 (c'.serve op now).1 := by
  have hmove := h.lift_moveRun hc hc'
  obtain ⟨⟨store, runs, checkpoints, fsms⟩, workers⟩ := c
  obtain ⟨⟨store', runs', checkpoints', fsms'⟩, workers'⟩ := c'
  obtain ⟨rfl, rfl, rfl, rfl⟩ := h
  have hsame : SameKV ⟨⟨store, runs, checkpoints, fsms⟩, workers⟩
      ⟨⟨store, runs, checkpoints, fsms'⟩, workers⟩ := ⟨rfl, rfl, rfl, rfl⟩
  -- apart from moves no operation looks at a machine
  cases op with
  | createRun config runId => exact ⟨rfl, rfl, rfl, rfl, rfl⟩
  | getRun _ => exact ⟨rfl, hsame⟩
  | listRuns => exact ⟨rfl, hsame⟩
  | transitionRun runId target => exact hmove runId target id now _
  | updateRunStep runId step =>
      simp only [WorkerCoordinator.serve, lift, updateRunStep, Coordinator.getRun]
      cases runs.find (runKey runId) with
      | none => exact ⟨rfl, hsame⟩
      | some status => exact ⟨rfl, rfl, rfl, rfl, rfl⟩
  | setRunError runId message => exact hmove runId .failed _ now _
  | createCheckpoint runId step metadata checkpointId =>
      simp only [WorkerCoordinator.serve, lift, createCheckpointWith, Coordinator.getRun]
      cases runs.find (runKey runId) with
      | none => exact ⟨rfl, hsame⟩
      | some status => exact ⟨rfl, rfl, rfl, rfl, rfl⟩
  | getCheckpoint _ => exact ⟨rfl, hsame⟩
  | deleteCheckpoint _ => exact ⟨rfl, rfl, rfl, rfl, rfl⟩
  | listCheckpoints _ => exact ⟨rfl, hsame⟩
  | updateCheckpointState checkpointId _ _ _ _ =>
      simp only [WorkerCoordinator.serve, lift, editCheckpoint, Coordinator.getCheckpoint]
      cases checkpoints.find (checkpointKey checkpointId) with
      | none => exact ⟨rfl, hsame⟩
      | some info => exact ⟨rfl, rfl, rfl, rfl, rfl⟩
  | updateCheckpointMetadata checkpointId _ _ =>
      simp only [WorkerCoordinator.serve, lift, editCheckpoint, Coordinator.getCheckpoint]
      cases checkpoints.find (checkpointKey checkpointId) with
      | none => exact ⟨rfl, hsame⟩
      | some info => exact ⟨rfl, rfl, rfl, rfl, rfl⟩
  | registerWorker _ _ _ _ => exact ⟨rfl, rfl, rfl, rfl, rfl⟩
  | heartbeat runId workerId _ =>
      simp only [WorkerCoordinator.serve, heartbeat, editWorker, getWorkerRecord]
      cases workers.find (workerKey runId workerId) with
      | none => exact ⟨rfl, hsame⟩
      | some worker => exact ⟨rfl, rfl, rfl, rfl, rfl⟩
  | listWorkers _ => exact ⟨rfl, hsame⟩
  | markWorkerDead runId workerId _ =>
      simp only [WorkerCoordinator.serve, markWorkerDead, editWorker, getWorkerRecord]
      cases workers.find (workerKey runId workerId) with
      | none => exact ⟨rfl, hsame⟩
      | some worker => exact ⟨rfl, rfl, rfl, rfl, rfl⟩

/-- A coordinator that has just been made has no machines. -/
theorem coherent_restarted (c : WorkerCoordinator) : c.restarted.Coherent := by
  intro runId m hm
  cases hm

end WorkerCoordinator

/-! ## Runs -/

/-- An operation at a clock reading, or a fresh coordinator over the same
store. -/
inductive CoordinatorEvent
  | op (op : CoordinatorOp) (now : Nat)
  | restart

def CoordinatorEvent.isOp : CoordinatorEvent → Bool
  | .op _ _ => true
  | .restart => false

/-- The same operations by one and the same coordinator. -/
def withoutRestarts (events : List CoordinatorEvent) : List CoordinatorEvent :=
  events.filter (·.isOp)

namespace WorkerCoordinator

open Coordinator

/-- Let one thing happen, if it can. -/
def step (c : WorkerCoordinator) : CoordinatorEvent → Option WorkerCoordinator
  | .op op now => if c.drawsFreshRunId op then some (c.serve op now).1 else none
  | .restart => some c.restarted

/-- What the operations of a run return and raise. -/
def results : WorkerCoordinator → List CoordinatorEvent → List CoordinatorResult
  | _, [] => []
  | c, .op op now :: events => (c.serve op now).2 :: results (c.serve op now).1 events
  | c, .restart :: events => results c.restarted events

theorem coherent_step {c c' : WorkerCoordinator} (hc : c.Coherent) {event : CoordinatorEvent}
    (h : c.step event = some c') : c'.Coherent := by
  cases event with
  | op op now =>
      obtain ⟨_, hserved⟩ := Option.ite_none_right_eq_some.mp h
      obtain rfl := Option.some.inj hserved
      exact coherent_serve hc op now
  | restart =>
      obtain rfl := Option.some.inj h
      exact c.coherent_restarted

theorem follows_step {c c' : WorkerCoordinator} (hc : c.Coherent) {event : CoordinatorEvent}
    (h : c.step event = some c') : c.Follows c'.toCoordinator := by
  cases event with
  | op op now =>
      obtain ⟨hfresh, hserved⟩ := Option.ite_none_right_eq_some.mp h
      obtain rfl := Option.some.inj hserved
      exact follows_serve hc hfresh now
  | restart =>
      obtain rfl := Option.some.inj h
      exact follows_of_same fun _ => rfl

/-- **A run.**  Coordinators over the same records answer and write alike,
whether or not the first one is replaced now and then. -/
theorem SameKV.run {c c' last : WorkerCoordinator} (h : SameKV c c') (hc : c.Coherent)
    (hc' : c'.Coherent) {events : List CoordinatorEvent}
    (hrun : PartialRun.run step c events = some last) :
    (∃ last', PartialRun.run step c' (withoutRestarts events) = some last' ∧ SameKV last last') ∧
      results c events = results c' (withoutRestarts events) := by
  induction events generalizing c c' with
  | nil =>
      obtain rfl := Option.some.inj hrun
      exact ⟨⟨c', rfl, h⟩, rfl⟩
  | cons event events ih =>
      obtain ⟨next, hnext, hrest⟩ := run_cons_some _ hrun
      have hnextCoherent := coherent_step hc hnext
      cases event with
      | op op now =>
          obtain ⟨hfresh, hserved⟩ := Option.ite_none_right_eq_some.mp hnext
          obtain rfl := Option.some.inj hserved
          obtain ⟨hresult, hsame⟩ := h.serve hc hc' op now
          have hfresh' : c'.drawsFreshRunId op = true := by
            cases op with
            | createRun config runId =>
                have hget : c'.getRun runId = c.getRun runId :=
                  congrArg (·.find (runKey runId)) h.runs.symm
                show (c'.getRun runId).isNone = true
                rw [hget]
                exact hfresh
            | _ => rfl
          have hstep' : c'.step (.op op now) = some (c'.serve op now).1 := if_pos hfresh'
          obtain ⟨⟨last', hlast', hkv⟩, hresults⟩ :=
            ih hsame hnextCoherent (coherent_serve hc' op now) hrest
          refine ⟨⟨last', ?_, hkv⟩, ?_⟩
          · show PartialRun.run step c' (.op op now :: withoutRestarts events) = some last'
            rw [run_cons, hstep']
            exact hlast'
          · show (c.serve op now).2 :: results (c.serve op now).1 events =
              (c'.serve op now).2 :: results (c'.serve op now).1 (withoutRestarts events)
            rw [hresult, hresults]
      | restart =>
          obtain rfl := Option.some.inj hnext
          have hsame : SameKV c.restarted c' := ⟨h.store, h.runs, h.checkpoints, h.workers⟩
          exact ih hsame hnextCoherent hc' hrest

/-- A run that is cancelled or completed is so in the other state. -/
def KeepsTerminal (c c' : WorkerCoordinator) : Prop :=
  ∀ runId state, (state = .cancelled ∨ state = .completed) →
    c.runState runId = some state → c'.runState runId = some state

/-- **Coordinator restarts are invisible.**  However often the coordinator is
replaced by a fresh one over the same store, its operations return and raise
what one coordinator would, and leave the same records.  Every step moves every
run along an edge of the table at most, and no run ever leaves `CANCELLED` or
`COMPLETED`. -/
theorem coordinator_restarts_invisible {c last : WorkerCoordinator}
    {events : List CoordinatorEvent}
    (h : PartialRun.run step c.restarted events = some last) :
    ((∃ last', PartialRun.run step c.restarted (withoutRestarts events) = some last' ∧
        SameKV last last') ∧
      results c.restarted events = results c.restarted (withoutRestarts events)) ∧
    Guarded step (fun s event => ∀ t, step s event = some t → s.Follows t.toCoordinator)
      c.restarted events ∧
    Ordered step KeepsTerminal c.restarted events := by
  have hfollows : Guarded step
      (fun s event => ∀ t, step s event = some t → s.Follows t.toCoordinator)
      c.restarted events :=
    guarded_of_invariant step (I := fun s : WorkerCoordinator => s.Coherent)
      (fun _ _ _ hs hstep => coherent_step hs hstep)
      (fun _ _ hs _ hstep => follows_step hs hstep) c.coherent_restarted
  refine ⟨?_, hfollows, ?_⟩
  · exact SameKV.run ⟨rfl, rfl, rfl, rfl⟩ c.coherent_restarted c.coherent_restarted h
  · refine (ordered_iff_guarded step ?_ ?_).mpr (guarded_mono step ?_ hfollows)
    · exact fun _ _ _ _ hstate => hstate
    · exact fun _ _ _ hab hbc runId state hterminal hstate =>
        hbc runId state hterminal (hab runId state hterminal hstate)
    · exact fun _ _ hstep t ht runId state hterminal hstate =>
        (hstep t ht).terminal hstate hterminal

/-- A run that is started, completed after a restart, and after another one
asked to run again. -/
def restartedEvents : List CoordinatorEvent :=
  [.op (.createRun demoRun "00000000000000a1") 1,
    .op (.transitionRun "00000000000000a1" .running) 2, .restart,
    .op (.transitionRun "00000000000000a1" .completed) 3, .restart,
    .op (.transitionRun "00000000000000a1" .running) 4]

/-- The coordinator afterwards. -/
def restartedState : WorkerCoordinator :=
  (PartialRun.run step (init .etcdKVStore).restarted restartedEvents).get (by decide +kernel)

/-- The answers are those of one coordinator, and the run stays completed. -/
theorem coordinator_restarts_invisible_demo :
    results (init .etcdKVStore).restarted restartedEvents =
        results (init .etcdKVStore).restarted (withoutRestarts restartedEvents) ∧
      restartedState.runState "00000000000000a1" = some .completed :=
  ⟨(coordinator_restarts_invisible
    (show PartialRun.run step (init .etcdKVStore).restarted restartedEvents =
      some restartedState from (Option.some_get _).symm)).1.2, by decide +kernel⟩

end WorkerCoordinator

end CheckpointRuntime
