import CheckpointRuntime.RetentionPolicy
import CheckpointRuntime.WorkerRoster
import CheckpointRuntime.CoordinatorRestart
import CheckpointRuntime.FailedWrites
import CheckpointRuntime.RequestSequence

/-!
# Retention and the run that failed last

Retention takes `updated_at` for the time at which a run failed.  Moving a run
writes it, and so do two operations that leave a run in `FAILED`: reporting a
step, which heartbeats do as well, and creating a checkpoint.  The run that
failed last is safe from retention exactly as long as neither of them happens
to another failed run.
-/

namespace CheckpointRuntime

open KeyedTable PartialRun StableListing Coordinator

/-! ## What writes run records -/

namespace WorkerPlane

theorem coordinator_markWorkerDead (s : WorkerPlane) (runId workerId : String)
    (status : WorkerStatus) : (s.markWorkerDead runId workerId status).coordinator.toCoordinator =
      s.coordinator.toCoordinator :=
  WorkerCoordinator.toCoordinator_editWorker ..

/-- A loop whose body leaves runs and checkpoints alone does so as a whole. -/
theorem coordinator_foldl {α : Type} {f : WorkerPlane → α → WorkerPlane}
    (hf : ∀ s a, (f s a).coordinator.toCoordinator = s.coordinator.toCoordinator)
    (s : WorkerPlane) (l : List α) :
    (l.foldl f s).coordinator.toCoordinator = s.coordinator.toCoordinator := by
  induction l generalizing s with
  | nil => rfl
  | cons a l ih => exact (ih (f s a)).trans (hf s a)

theorem coordinator_registerWorker (s : WorkerPlane) (runId hostname : String)
    (rank : Option Int) (workerId : String) (now : Nat) :
    (s.registerWorker runId hostname rank workerId now).1.coordinator.toCoordinator =
      s.coordinator.toCoordinator := by
  have hsupersede : ∀ (rank : Int) (s : WorkerPlane) (old : String),
      (supersede runId rank s old).coordinator.toCoordinator = s.coordinator.toCoordinator := by
    intro rank s old
    unfold supersede
    split
    · rfl
    · split
      · show ((s.setStatus old .superseded).markWorkerDead runId old
          .superseded).coordinator.toCoordinator = _
        rw [coordinator_markWorkerDead, coordinator_setStatus]
      · rfl
  cases rank with
  | none => rfl
  | some rank => exact coordinator_foldl (hsupersede rank) _ _

theorem coordinator_deregisterWorker (s : WorkerPlane) (workerId : String) :
    (s.deregisterWorker workerId).coordinator.toCoordinator = s.coordinator.toCoordinator := by
  unfold deregisterWorker
  split
  · rfl
  · next worker _ =>
    show (((s.setStatus workerId .deregistered).discardFromRun worker.runId
      workerId).markWorkerDead worker.runId workerId .deregistered).coordinator.toCoordinator = _
    rw [coordinator_markWorkerDead]
    exact congrArg _ (coordinator_setStatus ..)

theorem coordinator_declareDead (s : WorkerPlane) (lease : WorkerLease) :
    (s.declareDead lease).coordinator.toCoordinator = s.coordinator.toCoordinator := by
  unfold declareDead
  rw [coordinator_setStatus, coordinator_markWorkerDead]
  rfl

theorem coordinator_restartGroup (s : WorkerPlane) (runId : String) :
    (s.restartGroup runId).coordinator.toCoordinator = s.coordinator.toCoordinator := by
  refine coordinator_foldl (fun s worker => ?_) _ _
  show (WorkerPlane.setStatus _ _ _).coordinator.toCoordinator = _
  rw [coordinator_setStatus]
  split
  · exact coordinator_markWorkerDead ..
  · rfl

/-- The run whose step a heartbeat is going to raise. -/
def heartbeatRun (s : WorkerPlane) (workerId : String) (step : Int) : Option String := do
  let worker ← s.getWorker workerId
  let _ ← s.coordinator.getWorkerRecord worker.runId workerId
  let status ← s.coordinator.getRun worker.runId
  if worker.status = .active ∧ 0 < step ∧ status.currentStep < step then
    some status.runId
  else
    none

end WorkerPlane

/-- What an operation does to the run records: it leaves them alone, it makes a
run or moves one, or it writes a new time under an old state. -/
inductive RunWrite (c c' : Coordinator) (refreshed : Option String) (now : Nat) : Prop
  | same (h : c'.runs = c.runs) (hquiet : refreshed = none)
  | moved (status : RunStatus)
      (hid : isHexId status.runId = true ∨ c.getRun status.runId ≠ none)
      (h : ∀ runId, c'.getRun runId = if runId = status.runId then some status else c.getRun runId)
      (hnow : status.updatedAt = now)
      (hfailed : status.state = .failed → c.runState status.runId ≠ some .failed)
      (hquiet : refreshed = none)
  | refreshed (old status : RunStatus) (hold : c.getRun status.runId = some old)
      (hstate : status.state = old.state)
      (h : ∀ runId, c'.getRun runId = if runId = status.runId then some status else c.getRun runId)
      (hnow : status.updatedAt = now) (hrefreshed : refreshed = some status.runId)

namespace Coordinator

theorem runWrite_moveRun {c : Coordinator} (hc : c.Coherent) (runId : String) (target : RunState)
    (edit : RunStatus → RunStatus) (hedit : ∀ status, (edit status).runId = status.runId)
    (now : Nat) : RunWrite c (c.moveRun runId target edit now).1 none now := by
  cases hrun : c.getRun runId with
  | none =>
      rw [moveRun_missing hrun]
      exact .same rfl rfl
  | some status =>
      have hid := runId_of_getRun hrun
      have hstate := hc.machine_state hrun
      unfold moveRun
      rw [hrun]
      dsimp only
      split
      · exact .same rfl rfl
      · next moved hmoved =>
        have hedge := (RunStateMachine.transition_eq_ok_iff.mp hmoved).1
        rw [hstate] at hedge
        have hsame : (edit status).runId = runId := (hedit status).trans hid
        refine .moved { edit status with state := target, updatedAt := now } (Or.inr ?_) ?_ rfl ?_
          rfl
        · show c.getRun (edit status).runId ≠ none
          rw [hsame, hrun]
          exact Option.some_ne_none _
        · intro other
          rw [getRun_persistRun, getRun_cacheFsm]
        · intro htarget hfailed
          have htarget : target = .failed := htarget
          have hfailed : c.runState (edit status).runId = some .failed := hfailed
          rw [runState, hsame, hrun] at hfailed
          obtain rfl : target = status.state := htarget.trans (Option.some.inj hfailed).symm
          exact self_notMem_validTransitions _ hedge

theorem runWrite_updateRunStep (c : Coordinator) (runId : String) (step : Int) (now : Nat) :
    RunWrite c (c.updateRunStep runId step now).1 ((c.getRun runId).map (·.runId)) now := by
  unfold updateRunStep
  cases hrun : c.getRun runId with
  | none => exact .same rfl rfl
  | some status =>
      obtain rfl := runId_of_getRun hrun
      exact .refreshed status { status with currentStep := step, updatedAt := now } hrun rfl
        (fun other => getRun_persistRun ..) rfl rfl

theorem runWrite_createCheckpointWith (c : Coordinator) (runId : String) (step : Int)
    (metadata : List (String × String)) (checkpointId : String) (now : Nat) :
    RunWrite c (c.createCheckpointWith runId step metadata checkpointId now).1
      ((c.getRun runId).map (·.runId)) now := by
  unfold createCheckpointWith
  cases hrun : c.getRun runId with
  | none => exact .same rfl rfl
  | some status =>
      obtain rfl := runId_of_getRun hrun
      exact .refreshed status
        { status with lastCheckpointId := some checkpointId, updatedAt := now } hrun rfl
        (fun other => getRun_persistRun ..) rfl rfl

theorem runs_editCheckpoint (c : Coordinator) (checkpointId : String)
    (edit : CheckpointInfo → CheckpointInfo) :
    (c.editCheckpoint checkpointId edit).1.runs = c.runs := by
  unfold editCheckpoint
  split <;> rfl

end Coordinator

namespace WorkerPlane

theorem getRun_of_heartbeatRun {s : WorkerPlane} {workerId runId : String} {step : Int}
    (h : s.heartbeatRun workerId step = some runId) :
    (s.coordinator.getRun runId).map (·.runId) = some runId := by
  simp only [heartbeatRun, Option.bind_eq_bind, Option.bind_eq_some_iff] at h
  obtain ⟨worker, _, _, _, status, hrun, h⟩ := h
  obtain ⟨_, h⟩ := Option.ite_none_right_eq_some.mp h
  obtain rfl := Option.some.inj h
  have hid := runId_of_getRun hrun
  rw [hid, hrun]
  exact congrArg some hid

/-- A heartbeat that raises the step of its run updates it; any other leaves runs
and checkpoints alone. -/
theorem coordinator_workerHeartbeat (s : WorkerPlane) (workerId : String) (step : Int)
    (now : Nat) :
    (s.workerHeartbeat workerId step now).1.coordinator.toCoordinator =
      match s.heartbeatRun workerId step with
      | none => s.coordinator.toCoordinator
      | some runId => (s.coordinator.updateRunStep runId step now).1 := by
  unfold workerHeartbeat updateWorkerHeartbeat heartbeatRun
  cases hworker : s.getWorker workerId with
  | none => rfl
  | some worker =>
      simp only [Option.bind_eq_bind, Option.bind_some]
      by_cases hactive : worker.status = .active
      · simp only [hactive, WorkerStatus.fenced, Bool.false_eq_true, if_false, ne_eq,
          not_true_eq_false, true_and]
        unfold WorkerCoordinator.heartbeat WorkerCoordinator.editWorker
        cases hrecord : s.coordinator.getWorkerRecord worker.runId workerId with
        | none => rfl
        | some record =>
            simp only [Option.bind_some]
            rw [(recordHeartbeat_other _ _ _ _).1]
            show s.coordinator.toCoordinator.propagateStep worker.runId step now = _
            unfold propagateStep
            cases hrun : s.coordinator.getRun worker.runId with
            | none => rfl
            | some status =>
                have hid := runId_of_getRun hrun
                simp only [Option.bind_some, hid]
                split <;> rfl
      · have hnone : ((s.coordinator.getWorkerRecord worker.runId workerId).bind fun _ =>
            (s.coordinator.getRun worker.runId).bind fun status =>
              if worker.status = .active ∧ 0 < step ∧ status.currentStep < step then
                some status.runId else none) = none := by
          simp [hactive]
        rw [hnone, if_pos hactive]
        split <;> rfl

end WorkerPlane

/-! ## Histories -/

/-- An operation of the coordinator or of the worker manager. -/
inductive HistoryEvent
  | coordinator (op : CoordinatorOp)
  | worker (op : WorkerOp)

/-- The managers, the run that moved into `FAILED` last, and the clock. -/
structure RunHistory where
  plane : WorkerPlane
  lastFailed : Option String
  clock : Nat

/-- The run that is in `FAILED` now and was not before. -/
def newlyFailed (before after : Coordinator) : Option String :=
  (after.runs.rows.find? fun run =>
    decide (run.state = .failed ∧ before.runState run.runId ≠ some .failed)).map (·.runId)

/-- New runs get ids that `uuid4` may hand out. -/
def CoordinatorOp.drawsRunId : CoordinatorOp → Bool
  | .createRun _ runId => isHexId runId
  | _ => true

namespace RunHistory

def init (store : KVStore) (deadThreshold : Nat) : RunHistory where
  plane := .init store deadThreshold
  lastFailed := none
  clock := 0

/-- Serve an operation, if it can occur. -/
def serve (s : RunHistory) (now : Nat) : HistoryEvent → Option WorkerPlane
  | .coordinator op =>
      if op.drawsRunId then
        some { s.plane with coordinator := (s.plane.coordinator.serve op now).1 }
      else
        none
  | .worker op => s.plane.serve (op, now)

/-- Let one thing happen later than everything before. -/
def step (s : RunHistory) (event : HistoryEvent × Nat) : Option RunHistory :=
  if s.clock < event.2 then
    (s.serve event.2 event.1).map fun plane =>
      { plane := plane
        lastFailed := (newlyFailed s.plane.coordinator.toCoordinator
          plane.coordinator.toCoordinator).or s.lastFailed
        clock := event.2 }
  else
    none

def runState (s : RunHistory) (runId : String) : Option RunState :=
  s.plane.coordinator.toCoordinator.runState runId

/-- The run whose `updated_at` an event rewrites without moving it. -/
def refreshes (s : RunHistory) : HistoryEvent → Option String
  | .coordinator (.updateRunStep runId _) => (s.plane.coordinator.getRun runId).map (·.runId)
  | .coordinator (.createCheckpoint runId _ _ _) =>
      (s.plane.coordinator.getRun runId).map (·.runId)
  | .worker (.heartbeat workerId step) => s.plane.heartbeatRun workerId step
  | _ => none

/-- As long as the run that failed last is in `FAILED`, no other run in `FAILED`
is refreshed. -/
def SparesRecency (s : RunHistory) (event : HistoryEvent × Nat) : Prop :=
  ∀ runId ∈ s.refreshes event.1, s.runState runId = some .failed →
    ∀ last ∈ s.lastFailed, s.runState last = some .failed → runId = last

instance (s : RunHistory) (event : HistoryEvent × Nat) : Decidable (s.SparesRecency event) :=
  inferInstanceAs (Decidable (∀ runId ∈ s.refreshes event.1, _))

/-- No run that is in `FAILED` was updated after the one that failed last. -/
def NewestIsLast (s : RunHistory) : Prop :=
  ∀ last status, s.lastFailed = some last → s.plane.coordinator.getRun last = some status →
    status.state = .failed → ∀ other status', s.plane.coordinator.getRun other = some status' →
      status'.state = .failed → status'.updatedAt ≤ status.updatedAt

/-- Machines follow the records, and no record is younger than the clock. -/
structure Stamped (s : RunHistory) : Prop where
  coherent : s.plane.coordinator.Coherent
  stamps : ∀ runId status, s.plane.coordinator.getRun runId = some status →
    status.updatedAt ≤ s.clock
  ids : ∀ runId status, s.plane.coordinator.getRun runId = some status → isHexId runId = true

section
variable {s s' : RunHistory} {event : HistoryEvent × Nat}

/-- What an operation of the coordinator writes. -/
theorem runWrite_serve (hs : s.plane.coordinator.Coherent) {op : CoordinatorOp}
    (hop : op.drawsRunId = true) (now : Nat) :
    RunWrite s.plane.coordinator.toCoordinator
      (s.plane.coordinator.serve op now).1.toCoordinator (s.refreshes (.coordinator op)) now := by
  have hworker : ∀ runId workerId edit, RunWrite s.plane.coordinator.toCoordinator
      (s.plane.coordinator.editWorker runId workerId edit).1.toCoordinator none now := by
    intro runId workerId edit
    rw [WorkerCoordinator.toCoordinator_editWorker]
    exact .same rfl rfl
  have hcheckpoint : ∀ checkpointId edit, RunWrite s.plane.coordinator.toCoordinator
      (s.plane.coordinator.editCheckpoint checkpointId edit).1 none now :=
    fun checkpointId edit => .same (runs_editCheckpoint ..) rfl
  cases op with
  | createRun config runId =>
      exact .moved (s.plane.coordinator.createRun config runId now).2 (Or.inl hop)
        (fun _ => getRun_persistRun ..) rfl (nofun) rfl
  | transitionRun runId target => exact runWrite_moveRun hs runId target id (fun _ => rfl) now
  | setRunError runId message =>
      exact runWrite_moveRun hs runId .failed
        (fun status => { status with errorMessage := some message }) (fun _ => rfl) now
  | updateRunStep runId step => exact runWrite_updateRunStep _ runId step now
  | createCheckpoint runId step metadata checkpointId =>
      exact runWrite_createCheckpointWith _ runId step metadata checkpointId now
  | updateCheckpointState _ _ _ _ _ => exact hcheckpoint _ _
  | updateCheckpointMetadata _ _ _ => exact hcheckpoint _ _
  | heartbeat _ _ _ => exact hworker _ _ _
  | markWorkerDead _ _ _ => exact hworker _ _ _
  | deleteCheckpoint _ => exact .same rfl rfl
  | getRun _ => exact .same rfl rfl
  | listRuns => exact .same rfl rfl
  | getCheckpoint _ => exact .same rfl rfl
  | listCheckpoints _ => exact .same rfl rfl
  | registerWorker _ _ _ _ => exact .same rfl rfl
  | listWorkers _ => exact .same rfl rfl

/-- An operation of the worker manager writes a run record only as a heartbeat
that raises a step. -/
theorem serve_worker {op : WorkerOp} {now : Nat} {plane : WorkerPlane}
    (h : s.plane.serve (op, now) = some plane) :
    (plane.coordinator.toCoordinator = s.plane.coordinator.toCoordinator ∧
        s.refreshes (.worker op) = none) ∨
      ∃ runId step,
        plane.coordinator.toCoordinator = (s.plane.coordinator.updateRunStep runId step now).1 ∧
        s.refreshes (.worker op) = (s.plane.coordinator.getRun runId).map (·.runId) := by
  cases op with
  | register runId hostname rank workerId =>
      obtain ⟨_, hserved⟩ := Option.ite_none_right_eq_some.mp h
      obtain rfl := Option.some.inj hserved
      exact Or.inl ⟨WorkerPlane.coordinator_registerWorker .., rfl⟩
  | heartbeat workerId step =>
      obtain rfl := Option.some.inj h
      have hafter := s.plane.coordinator_workerHeartbeat workerId step now
      cases hrun : s.plane.heartbeatRun workerId step with
      | none =>
          rw [hrun] at hafter
          exact Or.inl ⟨hafter, hrun⟩
      | some runId =>
          rw [hrun] at hafter
          exact Or.inr ⟨runId, step, hafter,
            hrun.trans (WorkerPlane.getRun_of_heartbeatRun hrun).symm⟩
  | deregister workerId =>
      obtain rfl := Option.some.inj h
      exact Or.inl ⟨WorkerPlane.coordinator_deregisterWorker .., rfl⟩
  | workerFailure workerId =>
      unfold WorkerPlane.serve at h
      dsimp only at h
      split at h
      · cases h
      · obtain ⟨_, hserved⟩ := Option.ite_none_right_eq_some.mp h
        obtain rfl := Option.some.inj hserved
        exact Or.inl ⟨WorkerPlane.coordinator_declareDead .., rfl⟩
  | restartGroup runId =>
      obtain rfl := Option.some.inj h
      exact Or.inl ⟨WorkerPlane.coordinator_restartGroup .., rfl⟩

/-- What a step consists of. -/
theorem step_eq_some (h : s.step event = some s') :
    s.clock < event.2 ∧ s.serve event.2 event.1 = some s'.plane ∧ s'.clock = event.2 ∧
      s'.lastFailed = (newlyFailed s.plane.coordinator.toCoordinator
        s'.plane.coordinator.toCoordinator).or s.lastFailed := by
  obtain ⟨hclock, hserved⟩ := Option.ite_none_right_eq_some.mp h
  obtain ⟨plane, hplane, rfl⟩ := Option.map_eq_some_iff.mp hserved
  exact ⟨hclock, hplane, rfl, rfl⟩

/-- **One step.**  It writes at most one run record, and the machines go on
following the records. -/
theorem runWrite_step (hs : s.Stamped) (h : s.step event = some s') :
    RunWrite s.plane.coordinator.toCoordinator s'.plane.coordinator.toCoordinator
        (s.refreshes event.1) event.2 ∧ s'.plane.coordinator.Coherent := by
  obtain ⟨_, hserved, _⟩ := step_eq_some h
  obtain ⟨event, now⟩ := event
  cases event with
  | coordinator op =>
      obtain ⟨hop, hplane⟩ := Option.ite_none_right_eq_some.mp hserved
      rw [← Option.some.inj hplane]
      exact ⟨runWrite_serve hs.coherent hop now,
        WorkerCoordinator.coherent_serve hs.coherent op now⟩
  | worker op =>
      rcases serve_worker hserved with ⟨hsame, hquiet⟩ | ⟨runId, step, hafter, hrun⟩
      · rw [hsame, hquiet]
        exact ⟨.same rfl rfl, hs.coherent⟩
      · rw [hafter, hrun]
        exact ⟨runWrite_updateRunStep _ runId step now, hs.coherent.updateRunStep runId step now⟩

theorem getRun_of_mem {c : Coordinator} {status : RunStatus} (h : status ∈ c.runs.rows) :
    c.getRun status.runId = some status :=
  c.runs.find_of_mem h

theorem newlyFailed_eq_some {before after : Coordinator} {runId : String}
    (h : newlyFailed before after = some runId) :
    after.runState runId = some .failed ∧ before.runState runId ≠ some .failed := by
  obtain ⟨status, hfound, rfl⟩ := Option.map_eq_some_iff.mp h
  have hnew := List.find?_some hfound
  rw [decide_eq_true_eq] at hnew
  refine ⟨?_, hnew.2⟩
  rw [Coordinator.runState, getRun_of_mem (List.mem_of_find?_eq_some hfound), Option.map_some,
    hnew.1]

theorem newlyFailed_eq_none {before after : Coordinator} (h : newlyFailed before after = none)
    {runId : String} (hfailed : after.runState runId = some .failed) :
    before.runState runId = some .failed := by
  obtain ⟨status, hrun, hstate⟩ := Option.map_eq_some_iff.mp hfailed
  have hold := List.find?_eq_none.mp (Option.map_eq_none_iff.mp h) status
    (after.runs.mem_of_find hrun)
  by_contra hbefore
  rw [← runId_of_getRun hrun] at hbefore
  exact hold (decide_eq_true ⟨hstate, hbefore⟩)

theorem Stamped.step (hs : s.Stamped) (h : s.step event = some s') : s'.Stamped := by
  obtain ⟨hclock, _, hnow, _⟩ := step_eq_some h
  obtain ⟨hwrite, hcoherent⟩ := runWrite_step hs h
  have hold : ∀ runId status, s.plane.coordinator.getRun runId = some status →
      status.updatedAt ≤ s'.clock := fun runId status hrun =>
    (hs.stamps runId status hrun).trans (hnow ▸ hclock.le)
  -- one record is written with the time of the step, under an id of the right form
  have hone : ∀ written : RunStatus, written.updatedAt = event.2 →
      isHexId written.runId = true →
      (∀ runId, s'.plane.coordinator.getRun runId =
        if runId = written.runId then some written else s.plane.coordinator.getRun runId) →
      s'.Stamped := by
    intro written hstamp hhex hafter
    refine ⟨hcoherent, fun runId status hrun => ?_, fun runId status hrun => ?_⟩
    · rw [hafter] at hrun
      split at hrun
      · obtain rfl := Option.some.inj hrun
        rw [hstamp, hnow]
      · exact hold runId status hrun
    · rw [hafter] at hrun
      split at hrun
      · next hsame => exact hsame ▸ hhex
      · exact hs.ids runId status hrun
  cases hwrite with
  | same hruns _ =>
      have hget : ∀ runId, s'.plane.coordinator.getRun runId = s.plane.coordinator.getRun runId :=
        fun runId => congrArg (·.find (runKey runId)) hruns
      exact ⟨hcoherent, fun runId status hrun => hold runId status (hget runId ▸ hrun),
        fun runId status hrun => hs.ids runId status (hget runId ▸ hrun)⟩
  | moved written hid hafter hstamp _ _ =>
      apply hone written hstamp _ hafter
      rcases hid with hhex | hknown
      · exact hhex
      · obtain ⟨old, hfound⟩ := Option.ne_none_iff_exists'.mp hknown
        exact hs.ids _ old hfound
  | refreshed old written hfound _ hafter hstamp _ =>
      exact hone written hstamp (hs.ids _ old hfound) hafter

/-- A run is in a state exactly when its record is. -/
theorem runState_eq_some {c : Coordinator} {runId : String} {state : RunState} :
    c.runState runId = some state ↔ ∃ status, c.getRun runId = some status ∧ status.state = state :=
  Option.map_eq_some_iff

/-- Where no state changes, no run fails. -/
theorem newlyFailed_of_states {before after : Coordinator}
    (h : ∀ runId, after.runState runId = before.runState runId) :
    newlyFailed before after = none := by
  by_contra hsome
  obtain ⟨runId, hnew⟩ := Option.ne_none_iff_exists'.mp hsome
  obtain ⟨hafter, hbefore⟩ := newlyFailed_eq_some hnew
  exact hbefore (h runId ▸ hafter)

/-- If the last run to fail had failed before the step, no run fails in it. -/
theorem lastFailed_before {last : String} (h : s.step event = some s')
    (hlast : s'.lastFailed = some last) (hfailed : s.runState last = some .failed) :
    newlyFailed s.plane.coordinator.toCoordinator s'.plane.coordinator.toCoordinator = none ∧
      s.lastFailed = some last := by
  obtain ⟨_, _, _, hstep⟩ := step_eq_some h
  rw [hstep] at hlast
  rcases Option.or_eq_some_iff.mp hlast with hnew | hold
  · exact absurd hfailed (newlyFailed_eq_some hnew).2
  · exact hold

/-- Making or moving a run leaves the run that failed last the newest. -/
theorem newestIsLast_moved (hs : s.Stamped) (hgood : s.NewestIsLast)
    (h : s.step event = some s') {written : RunStatus}
    (hafter : ∀ runId, s'.plane.coordinator.getRun runId =
      if runId = written.runId then some written else s.plane.coordinator.getRun runId)
    (hstamp : written.updatedAt = event.2)
    (hfailed : written.state = .failed → s.runState written.runId ≠ some .failed) :
    s'.NewestIsLast := by
  obtain ⟨_, _, hnow, _⟩ := step_eq_some h
  intro last status hlast hrun hstate other status' hother hstate'
  by_cases hsame : last = written.runId
  · -- the run has just been written, so nothing is newer
    rw [hafter, if_pos hsame] at hrun
    obtain rfl := Option.some.inj hrun
    rw [hstamp, ← hnow]
    exact (hs.step h).stamps other status' hother
  · rw [hafter, if_neg hsame] at hrun
    obtain ⟨hnone, hold⟩ :=
      lastFailed_before h hlast (runState_eq_some.mpr ⟨status, hrun, hstate⟩)
    by_cases hsame' : other = written.runId
    · -- if the written run had just failed, it would be the last one
      rw [hafter, if_pos hsame'] at hother
      obtain rfl := Option.some.inj hother
      refine absurd (newlyFailed_eq_none hnone ?_) (hfailed hstate')
      exact runState_eq_some.mpr ⟨written, by rw [hafter, if_pos rfl], hstate'⟩
    · rw [hafter, if_neg hsame'] at hother
      exact hgood last status hold hrun hstate other status' hother hstate'

/-- Refreshing a run leaves the run that failed last the newest exactly when the
refreshed run is not another one in `FAILED`. -/
theorem newestIsLast_refreshed_iff (hs : s.Stamped) (hgood : s.NewestIsLast)
    (h : s.step event = some s') {old written : RunStatus}
    (hold : s.plane.coordinator.getRun written.runId = some old)
    (hsame : written.state = old.state)
    (hafter : ∀ runId, s'.plane.coordinator.getRun runId =
      if runId = written.runId then some written else s.plane.coordinator.getRun runId)
    (hstamp : written.updatedAt = event.2) (hrefreshed : s.refreshes event.1 = some written.runId) :
    s'.NewestIsLast ↔ s.SparesRecency event := by
  obtain ⟨hclock, _, hnow, hlast⟩ := step_eq_some h
  have hstates : ∀ runId, s'.plane.coordinator.runState runId =
      s.plane.coordinator.runState runId := by
    intro runId
    rw [Coordinator.runState, Coordinator.runState, hafter]
    split
    · next hid => rw [hid, hold, Option.map_some, Option.map_some, hsame]
    · rfl
  rw [newlyFailed_of_states hstates, Option.none_or] at hlast
  constructor
  · intro hgood' runId hrun hfailed last hfound hlastFailed
    obtain rfl := Option.some.inj (hrefreshed.symm.trans hrun)
    obtain ⟨status, hstatus, hstate⟩ := runState_eq_some.mp hlastFailed
    obtain ⟨old', hold', hstate'⟩ := runState_eq_some.mp hfailed
    obtain rfl := Option.some.inj (hold.symm.trans hold')
    by_contra hne
    -- the refreshed run is newer than the one that failed last
    have hle := hgood' last status (hlast.trans hfound)
      (by rw [hafter, if_neg (Ne.symm hne), hstatus]) hstate written.runId written
      (by rw [hafter, if_pos rfl]) (hsame.trans hstate')
    have hbound := hs.stamps last status hstatus
    omega
  · intro hspares last status hfound hrun hstate other status' hother hstate'
    rw [hlast] at hfound
    by_cases hsameLast : last = written.runId
    · rw [hafter, if_pos hsameLast] at hrun
      obtain rfl := Option.some.inj hrun
      rw [hstamp, ← hnow]
      exact (hs.step h).stamps other status' hother
    · rw [hafter, if_neg hsameLast] at hrun
      by_cases hsameOther : other = written.runId
      · rw [hafter, if_pos hsameOther] at hother
        obtain rfl := Option.some.inj hother
        have hfailed : s.runState written.runId = some .failed :=
          runState_eq_some.mpr ⟨old, hold, hsame ▸ hstate'⟩
        exact absurd (hspares written.runId hrefreshed hfailed last hfound
          (runState_eq_some.mpr ⟨status, hrun, hstate⟩)).symm hsameLast
      · rw [hafter, if_neg hsameOther] at hother
        exact hgood last status hfound hrun hstate other status' hother hstate'

/-- A step keeps the run that failed last the newest exactly when it spares
it. -/
theorem newestIsLast_step_iff (hs : s.Stamped) (hgood : s.NewestIsLast)
    (h : s.step event = some s') : s'.NewestIsLast ↔ s.SparesRecency event := by
  have hspares : s.refreshes event.1 = none → s.SparesRecency event := by
    intro hquiet runId hrun
    rw [hquiet] at hrun
    cases hrun
  obtain ⟨_, _, _, hlast⟩ := step_eq_some h
  cases (runWrite_step hs h).1 with
  | same hruns hquiet =>
      have hget : ∀ runId, s'.plane.coordinator.getRun runId = s.plane.coordinator.getRun runId :=
        fun runId => congrArg (·.find (runKey runId)) hruns
      have hstates : ∀ runId, s'.plane.coordinator.runState runId =
          s.plane.coordinator.runState runId := fun runId => congrArg (·.map (·.state)) (hget runId)
      have hnone := newlyFailed_of_states hstates
      rw [hnone, Option.none_or] at hlast
      refine iff_of_true ?_ (hspares hquiet)
      intro last status hfound hrun hfailed other status' hother
      rw [hlast] at hfound
      rw [hget] at hrun hother
      exact hgood last status hfound hrun hfailed other status' hother
  | moved written _ hafter hstamp hfailed hquiet =>
      exact iff_of_true (newestIsLast_moved hs hgood h hafter hstamp hfailed) (hspares hquiet)
  | refreshed old written hold hsame hafter hstamp hrefreshed =>
      exact newestIsLast_refreshed_iff hs hgood h hold hsame hafter hstamp hrefreshed

end

/-! ## What retention does -/

/-- Over any bucket, no pass deletes anything of the newest committed prefixes
of the run that failed last, if that run is still in `FAILED`. -/
def KeepsLastFailed (s : RunHistory) : Prop :=
  ∀ last, s.lastFailed = some last → s.runState last = some .failed →
    ∀ (bucket : Listing) (config : RetentionConfig) (now : Int) (cut : Option Cut),
      let w : Stores := ⟨bucket, s.plane.coordinator.toCoordinator⟩
      let snapshot := w.snapshot config now
      ∀ p ∈ snapshot.manifestPrefixes last,
        rank snapshot.lastWritten (snapshot.manifestPrefixes last) p <
          config.keepCommittedPerRun →
        ∀ item ∈ bucket.rows, prefixOf item.key = some p →
          item ∈ (w.runOnce config now cut).1.bucket.rows

/-- A bucket with one committed checkpoint of a run, older than one of another
run. -/
def outlived (runId : String) (h : isHexId runId = true) : Listing where
  rows := [{ key := runId ++ "/c/_manifest.json", lastModified := 0 },
    { key := "q/c/_manifest.json", lastModified := 1 }]
  distinct := by
    simp only [List.map_cons, List.map_nil, List.nodup_cons, List.mem_singleton,
      List.not_mem_nil, not_false_eq_true, List.nodup_nil, and_self, and_true]
    intro hsame
    have hlength := congrArg (fun key : String => key.toList.length) hsame
    rw [isHexId, Bool.and_eq_true, decide_eq_true_eq] at h
    simp [h.1] at hlength

/-- Room for one run. -/
def keepOneRun : RetentionConfig := { keepRuns := 1, keepRuns_pos := Nat.one_pos }

/-- With room for one run, a pass over that bucket deletes the checkpoint of a
run that is not retained for its state. -/
theorem outlived_deleted (c : Coordinator) {runId : String} (h : isHexId runId = true) :
    let w : Stores := ⟨outlived runId h, c⟩
    let s := w.snapshot keepOneRun 0
    let p := (runId, "c")
    p ∈ s.manifestPrefixes runId ∧ rank s.lastWritten (s.manifestPrefixes runId) p = 0 ∧
      (¬ s.Active runId → ¬ s.NewestFailed runId → s.Expired p) := by
  intro w s p
  have hne : runId ≠ "q" := by
    intro hsame
    subst hsame
    cases h
  have hobjects : s.objects = [{ key := runId ++ "/c/_manifest.json", lastModified := 0 },
      { key := "q/c/_manifest.json", lastModified := 1 }] := w.snapshot_objects _ _
  have hkey : prefixOf (runId ++ "/c/_manifest.json") = some (runId, "c") := by
    refine prefixOf_eq_some_iff.mpr ⟨slash_notMem_of_isHexId h, by decide, "_manifest.json", ?_⟩
    simp only [String.append_assoc]
    rfl
  have hkey' : prefixOf "q/c/_manifest.json" = some ("q", "c") := by decide
  have hmanifest : s.HasManifest p := by
    refine ⟨{ key := runId ++ "/c/_manifest.json", lastModified := 0 }, ?_, ?_⟩
    · exact Snapshot.mem_objectsOf.mpr ⟨hobjects ▸ List.mem_cons_self, hkey⟩
    · rw [endsWithManifest, List.isSuffixOf_iff_suffix]
      exact ⟨runId.toList ++ ['/', 'c'], by simp⟩
  have hprefixes : s.prefixes = [(runId, "c"), ("q", "c")] := by
    simp [Snapshot.prefixes, Grouping.keys, hobjects, hkey, hkey', List.eraseDups_cons, Ne.symm hne]
  have hruns : s.listedRuns = [runId, "q"] := by
    simp [Snapshot.listedRuns, Grouping.keys, hobjects, hkey, hkey', List.eraseDups_cons,
      Ne.symm hne]
  refine ⟨Snapshot.mem_manifestPrefixes.mpr ⟨rfl, hmanifest⟩, ?_, ?_⟩
  · apply List.countP_eq_zero.mpr
    intro q hq
    obtain ⟨hrun, hq⟩ := Snapshot.mem_manifestPrefixes.mp hq
    have hmem := hq.mem_prefixes
    rw [hprefixes] at hmem
    have hqp : q = p := by
      rcases List.mem_cons.mp hmem with hsame | hother
      · exact hsame
      · rw [List.mem_singleton.mp hother] at hrun
        exact absurd hrun.symm hne
    rw [hqp, decide_eq_true_eq]
    exact Leads.irrefl _ (s.nodup_manifestPrefixes runId) p
  · intro hactive hnewest
    refine ⟨hmanifest.mem_prefixes, Or.inl ?_⟩
    intro h
    rcases h with hyes | hyes | ⟨_, hrank⟩
    · exact hactive hyes
    · exact hnewest hyes
    · have hleads : Leads s.runLastWritten s.listedRuns "q" runId := by
        left
        simp [Snapshot.runLastWritten, Snapshot.objectsOfRun, Grouping.rowsOf, hobjects, hkey,
          hkey', hne, Ne.symm hne, latest]
      have hpos : 0 < rank s.runLastWritten s.listedRuns runId :=
        List.countP_pos_iff.mpr ⟨"q", by simp [hruns], decide_eq_true hleads⟩
      have hone : rank s.runLastWritten s.listedRuns runId < 1 := hrank
      omega

/-- Retention is safe for the run that failed last exactly when no run in
`FAILED` is newer. -/
theorem keepsLastFailed_iff {s : RunHistory} (hs : s.Stamped) :
    s.KeepsLastFailed ↔ s.NewestIsLast := by
  constructor
  · intro h last status hlast hrun hstate other status' hother hstate'
    have hid := hs.ids last status hrun
    by_contra hnewer
    let w : Stores := ⟨outlived last hid, s.plane.coordinator.toCoordinator⟩
    obtain ⟨hmem, hrank, hexpired⟩ := outlived_deleted s.plane.coordinator.toCoordinator hid
    obtain ⟨_, item, hitem, _⟩ := Snapshot.mem_manifestPrefixes.mp hmem
    obtain ⟨hlisted, hkey⟩ := Snapshot.mem_objectsOf.mp hitem
    have hobjects := w.snapshot_objects keepOneRun 0
    have hkept := h last hlast (runState_eq_some.mpr ⟨status, hrun, hstate⟩) w.bucket keepOneRun 0
      none _ hmem (by rw [hrank]; decide) item (hobjects ▸ hlisted) hkey
    have hspared : ¬ (w.snapshot keepOneRun 0).Doomed item := by
      have hrows := w.rows_deleted hobjects
      have hcutoff : (w.snapshot keepOneRun 0).cutoff? = some (-3600000000) := rfl
      rw [Stores.runOnce_of_cutoff hcutoff] at hkept
      have hkept' : item ∈ ((w.snapshot keepOneRun 0).batches.foldl deleteObjects w.bucket).rows :=
        hkept
      rw [hrows] at hkept'
      exact of_decide_eq_true (List.mem_filter.mp hkept').2
    have honly : ∀ run ∈ s.plane.coordinator.runs.rows, run.runId = last → run = status := by
      intro run hrun' hsame
      have hfound := getRun_of_mem hrun'
      rw [hsame] at hfound
      exact Option.some.inj (hfound.symm.trans hrun)
    refine hspared ⟨_, hkey, hexpired ?_ ?_⟩
    · intro h
      obtain ⟨run, hrun', hsame, hactive⟩ := h
      rw [honly run hrun' hsame, hstate] at hactive
      exact absurd hactive (by decide)
    · intro h
      obtain ⟨run, hrun', hsame, _, hnewest⟩ := h
      rw [honly run hrun' hsame] at hnewest
      have hother' := s.plane.coordinator.runs.mem_of_find hother
      exact hnewer (hnewest status' hother' hstate')
  · intro h last hlast hfailed bucket config now cut w snapshot p hp hrank item hitem hkey
    obtain ⟨status, hrun, hstate⟩ := runState_eq_some.mp hfailed
    have hwithin := w.within_runOnce config now cut
    apply hwithin.keptObjects item hitem
    intro h
    obtain ⟨q, hq, hexpired⟩ := h
    rw [hkey] at hq
    obtain rfl := Option.some.inj hq
    obtain ⟨rfl, hmanifest⟩ := Snapshot.mem_manifestPrefixes.mp hp
    have hnewest : snapshot.NewestFailed p.1 := by
      refine ⟨status, s.plane.coordinator.runs.mem_of_find hrun, runId_of_getRun hrun, hstate, ?_⟩
      intro other hother hstate'
      exact h p.1 status hlast hrun hstate other.runId other (getRun_of_mem hother) hstate'
    rcases hexpired.2 with hgone | hsuperseded | hstale
    · exact hgone (Or.inr (Or.inl hnewest))
    · exact absurd hsuperseded.2 (Nat.not_le.mpr hrank)
    · exact hstale.1 hmanifest

theorem stamped_init (store : KVStore) (deadThreshold : Nat) :
    (init store deadThreshold).Stamped where
  coherent := coherent_init store
  stamps := fun _ _ h => by cases h
  ids := fun _ _ h => by cases h

/-- **The last failure is kept, exactly.**  In every state of a history the
newest committed prefixes of the run that failed last are safe from retention,
exactly when no step refreshes another run in `FAILED` while it is still
there. -/
theorem last_failed_kept_iff (store : KVStore) (deadThreshold : Nat)
    (events : List (HistoryEvent × Nat)) :
    Throughout step KeepsLastFailed (init store deadThreshold) events ↔
      Guarded step SparesRecency (init store deadThreshold) events := by
  refine throughout_iff_guarded step (I := Stamped) (fun _ _ _ hs h => hs.step h) ?_
    (stamped_init store deadThreshold) ?_
  · intro s event s' hs hgood h
    rw [keepsLastFailed_iff (hs.step h)]
    exact newestIsLast_step_iff hs ((keepsLastFailed_iff hs).mp hgood) h
  · intro last hlast
    cases hlast

/-- Two runs fail one after the other; then a worker of the first one sends a
heartbeat with a larger step. -/
def lateHeartbeat : List (HistoryEvent × Nat) :=
  [(.coordinator (.createRun soloRun "00000000000000a1"), 1),
    (.coordinator (.createRun soloRun "00000000000000a2"), 2),
    (.worker (.register "00000000000000a1" "host" none "0000000000b1"), 3),
    (.coordinator (.transitionRun "00000000000000a1" .running), 4),
    (.coordinator (.transitionRun "00000000000000a2" .running), 5),
    (.coordinator (.transitionRun "00000000000000a1" .failed), 6),
    (.coordinator (.transitionRun "00000000000000a2" .failed), 7),
    (.worker (.heartbeat "0000000000b1" 10), 8)]

/-- The heartbeat makes the first run the newest one in `FAILED`, and the run
that failed last is no longer protected. -/
theorem last_failed_run_not_kept :
    ¬ Throughout step KeepsLastFailed (init .inMemoryKVStore 30) lateHeartbeat := by
  rw [last_failed_kept_iff]
  decide +kernel

end RunHistory

end CheckpointRuntime
