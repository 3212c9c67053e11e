import CheckpointRuntime.FailedRunRetention
import CheckpointRuntime.FailureHandling
import CheckpointRuntime.GroupRestart
import CheckpointRuntime.WorkerLiveness

/-!
# The control plane with automatic restarts

The managers wired as in `lifespan` when `AUTO_RESTART_WORKERS` is set.  A scan
declares a worker dead, its callbacks mark it in the index and hand the run to
the recovery manager, and that calls `_schedule_worker_group_restart`, which
takes the whole group down while the scan is still under way.

The supervisor is the last thing that the recovery manager calls, so here it is
called when the manager is through; `recoveryPlane_onWorkerFailure` says that
this is the same.
-/

namespace CheckpointRuntime

open KeyedTable PartialRun Coordinator

/-- What a call of `_schedule_worker_group_restart` finds: the environment, the
state that all restarts share, the monotonic clock, and whether a thread can be
started. -/
structure RestartGate where
  environment : RestartEnvironment
  restarts : GroupRestarts
  now : Nat
  threadStarts : Bool

namespace RestartGate

/-- What the call answers before it touches a worker; nothing if it goes on. -/
def answer (gate : RestartGate) (runId : String) : Option Bool :=
  if gate.environment.admits runId then gate.restarts.checkSlot runId gate.now else some false

/-- `_get_supervised_run_id` -/
def supervisedRunId (gate : RestartGate) : Option String :=
  if gate.environment.sharedRunPath then gate.environment.supervisedRunId else none

end RestartGate

/-- The managers, the runs for which the supervisor was called, the runs for
which a restart thread was started, and the workers and runs for which the
failure callbacks were invoked. -/
structure AutoRestart where
  workers : WorkerPlane
  recovery : RecoveryManager
  restarts : List String := []
  threads : List String := []
  calls : List (String × String) := []

namespace AutoRestart

/-- What the recovery manager works on. -/
def recoveryPlane (s : AutoRestart) : RecoveryPlane where
  coordinator := s.workers.coordinator
  manager := s.recovery
  restarts := s.restarts

def withRecoveryPlane (s : AutoRestart) (p : RecoveryPlane) : AutoRestart :=
  { s with
    workers := { s.workers with coordinator := p.coordinator }
    recovery := p.manager
    restarts := p.restarts }

/-! ## The supervisor -/

/-- Restart all configured DDP workers as one generation. -/
def scheduleWorkerGroupRestart (s : AutoRestart) (gate : RestartGate) (runId : String) :
    AutoRestart × RestartOutcome :=
  match gate.answer runId with
  | some true => (s, .scheduled)
  | some false => (s, .notScheduled)
  | none =>
      let s := { s with workers := s.workers.restartGroup runId }
      if gate.threadStarts then
        ({ s with threads := s.threads ++ [runId] }, .scheduled)
      else
        (s, .notScheduled)

/-- The supervisor as the recovery manager calls it. -/
def supervisor (s : AutoRestart) (gate : RestartGate) (runId : String) : Supervisor := fun p =>
  let called := (s.withRecoveryPlane p).scheduleWorkerGroupRestart gate runId
  (called.1.recoveryPlane, called.2)

/-- A supervisor that leaves its work for later. -/
def later : Supervisor := fun p => (p, .scheduled)

/-- The work of a supervisor that was called. -/
def catchUp (s : AutoRestart) (gate : RestartGate) (runId : String) (p : RecoveryPlane) :
    AutoRestart :=
  let s' := s.withRecoveryPlane p
  if p.restarts = s.restarts then s' else (s'.scheduleWorkerGroupRestart gate runId).1

/-- `RecoveryManager._on_worker_failure` -/
def onWorkerFailure (s : AutoRestart) (gate : RestartGate) (workerId runId : String) (now : Nat) :
    AutoRestart :=
  s.catchUp gate runId (s.recoveryPlane.onWorkerFailure later workerId runId now)

/-- `RecoveryManager.recover_run`, without its answer. -/
def recoverRun (s : AutoRestart) (gate : RestartGate) (runId : String) (now : Nat) : AutoRestart :=
  s.catchUp gate runId (s.recoveryPlane.recoverRun later runId now).1

/-- One round of `_reconcile_worker_recovery`. -/
def reconcile (s : AutoRestart) (gate : RestartGate) : AutoRestart :=
  match gate.supervisedRunId.bind s.workers.coordinator.getRun with
  | none => s
  | some run =>
      let registered := s.workers.coordinator.listWorkers run.runId
      let active := registered.filter fun worker => decide (worker.status = .active)
      if run.state = .recovering ∧ registered ≠ [] ∧ active.length < run.numWorkers then
        (s.scheduleWorkerGroupRestart gate run.runId).1
      else
        s

/-! ## The scan -/

/-- A worker is declared dead, and its failure callbacks are invoked; the worker
manager's is part of `declareDead`. -/
def declareDead (s : AutoRestart) (workerId : String) (lease : WorkerLease) : AutoRestart :=
  { s with
    workers := s.workers.declareDead lease
    calls := s.calls ++ [(workerId, lease.runId)] }

/-- One lease of a scan. -/
def checkWorker (clock : String → Nat) (gates : String → RestartGate) (now : Nat)
    (s : AutoRestart) (workerId : String) : AutoRestart :=
  match s.workers.getLease workerId with
  | none => s
  | some lease =>
      if lease.isAlive ∧
          lease.lastHeartbeat + s.workers.heartbeats.deadThreshold < clock workerId then
        (s.declareDead workerId lease).onWorkerFailure (gates workerId) workerId lease.runId now
      else
        s

/-- `_check_workers`: each lease of the snapshot has its own reading of the
clock, and its own gate if it comes to a restart. -/
def checkWorkers (s : AutoRestart) (clock : String → Nat) (gates : String → RestartGate)
    (now : Nat) : AutoRestart :=
  (s.workers.heartbeats.leases.rows.map (·.workerId)).foldl (checkWorker clock gates now) s

/-- A new process over the same store. -/
def restarted (s : AutoRestart) (now : Nat) : AutoRestart :=
  { s with
    workers := .rehydrate s.workers.coordinator.restarted s.workers.heartbeats.deadThreshold now
    recovery :=
      { autoRecover := s.recovery.autoRecover, hasSupervisor := s.recovery.hasSupervisor } }

/-- A control plane that has just started over an empty store. -/
def init (store : KVStore) (deadThreshold : Nat) : AutoRestart where
  workers := .init store deadThreshold
  recovery := { autoRecover := true, hasSupervisor := true }

end AutoRestart

/-- The operation is about runs and checkpoints. -/
def CoordinatorOp.aboutRuns : CoordinatorOp → Bool
  | .registerWorker .. | .heartbeat .. | .markWorkerDead .. => false
  | _ => true

/-- The event calls no supervisor and touches no worker. -/
def RecoveryEvent.aboutRuns : RecoveryEvent → Bool
  | .op served => served.aboutRuns
  | .executeRecovery _ | .resumeRun _ => true
  | .workerFailure .. | .recoverRun .. | .restart => false

/-- What may happen to the control plane.  The kill endpoint of the demo removes
leases by `unregister`. -/
inductive AutoRestartEvent
  | worker (op : WorkerOp)
  | unregister (workerId : String)
  | recovery (event : RecoveryEvent)
  | recoverRun (runId : String) (gate : RestartGate)
  | reconcile (gate : RestartGate)
  | checkWorkers (clock : String → Nat) (gates : String → RestartGate)
  | restart

/-- Workers register for runs with plain ids. -/
def AutoRestartEvent.Plain : AutoRestartEvent → Prop
  | .worker (.register runId _ _ _) => PlainRunId runId
  | _ => True

instance (event : AutoRestartEvent) : Decidable event.Plain := by
  unfold AutoRestartEvent.Plain
  split <;> infer_instance

namespace AutoRestart

/-- Let one thing happen, if it can. -/
def step (s : AutoRestart) (event : AutoRestartEvent × Nat) : Option AutoRestart :=
  match event.1 with
  | .worker op => (s.workers.serve (op, event.2)).map fun workers => { s with workers := workers }
  | .unregister workerId => some { s with workers := s.workers.unregister workerId }
  | .recovery e =>
      if e.aboutRuns then (s.recoveryPlane.step (e, event.2)).map s.withRecoveryPlane else none
  | .recoverRun runId gate => some (s.recoverRun gate runId event.2)
  | .reconcile gate => some (s.reconcile gate)
  | .checkWorkers clock gates => some (s.checkWorkers clock gates event.2)
  | .restart => some (s.restarted event.2)

end AutoRestart

namespace RecoveryPlane

/-! ## The supervisor is called last -/

section
variable (s : RecoveryPlane) (supervisor : Supervisor) (runId : String) (now : Nat)

/-- What a supervisor adds to a plane in which it has been called. -/
def finish (t : RecoveryPlane) : RecoveryPlane :=
  if t.restarts = s.restarts then t else (supervisor t).1

theorem attemptRecovery_last : s.attemptRecovery supervisor runId now =
    s.finish supervisor (s.attemptRecovery AutoRestart.later runId now) := by
  unfold attemptRecovery
  split
  · dsimp only
    cases (s.coordinator.transitionRun runId .recovering now).2 with
    | error e => exact (if_pos rfl).symm
    | ok moved =>
        have hcalled : s.restarts ++ [runId] ≠ s.restarts := by simp
        refine Eq.trans ?_ (if_neg hcalled).symm
        dsimp only
        split <;> next heq => exact (congrArg Prod.fst heq).symm
  · exact (if_pos rfl).symm

theorem abortAndRecover_last : s.abortAndRecover supervisor runId now =
    s.finish supervisor (s.abortAndRecover AutoRestart.later runId now) := by
  unfold abortAndRecover
  dsimp only
  split
  · exact attemptRecovery_last (s.abortPendingCheckpoints runId now) supervisor runId now
  · exact (if_pos rfl).symm

theorem handleFailure_last : s.handleFailure supervisor runId now =
    s.finish supervisor (s.handleFailure AutoRestart.later runId now) := by
  unfold handleFailure
  dsimp only
  cases (s.markRecovering runId).coordinator.getRun runId with
  | none => exact (if_pos rfl).symm
  | some status =>
      dsimp only
      cases status.state with
      | cancelled => exact (if_pos rfl).symm
      | completed => exact (if_pos rfl).symm
      | failed => exact abortAndRecover_last (s.markRecovering runId) supervisor runId now
      | _ =>
          dsimp only
          cases ((s.markRecovering runId).coordinator.transitionRun runId .failed now).2 with
          | error e => exact (if_pos rfl).symm
          | ok moved => exact abortAndRecover_last _ supervisor runId now

end

end RecoveryPlane

namespace AutoRestart

section
variable (s : AutoRestart) (gate : RestartGate) (runId : String)

/-- The supervisor leaves the recovery manager alone and reads nothing of it. -/
theorem manager_supervisor (p : RecoveryPlane) :
    (s.supervisor gate runId p).1.manager = p.manager := by
  unfold supervisor scheduleWorkerGroupRestart
  dsimp only
  split
  · rfl
  · rfl
  · split <;> rfl

theorem supervisor_manager (p : RecoveryPlane) (manager : RecoveryManager) :
    (s.supervisor gate runId { p with manager := manager }).1 =
      { (s.supervisor gate runId p).1 with manager := manager } := by
  unfold supervisor scheduleWorkerGroupRestart
  dsimp only
  cases gate.answer runId with
  | none =>
      dsimp only
      split <;> rfl
  | some answer => cases answer <;> rfl

/-- **Called last, or called when the manager is through.**  The recovery
manager leaves the same behind. -/
theorem recoveryPlane_onWorkerFailure (workerId : String) (now : Nat) :
    (s.onWorkerFailure gate workerId runId now).recoveryPlane =
      s.recoveryPlane.onWorkerFailure (s.supervisor gate runId) workerId runId now := by
  have hlast : ∀ p : RecoveryPlane, (s.catchUp gate runId p).recoveryPlane =
      s.recoveryPlane.finish (s.supervisor gate runId) p := by
    intro p
    unfold catchUp RecoveryPlane.finish
    dsimp only
    split
    · next hsame => exact (if_pos hsame).symm
    · next hcalled => exact (if_neg hcalled).symm
  unfold onWorkerFailure
  rw [hlast]
  unfold RecoveryPlane.onWorkerFailure
  split
  · exact if_pos rfl
  · rw [RecoveryPlane.handleFailure_last s.recoveryPlane (s.supervisor gate runId)]
    unfold RecoveryPlane.finish
    dsimp only
    split
    · rfl
    · rw [supervisor_manager, manager_supervisor]

end

end AutoRestart

/-! ## What the handler does to machines and worker records -/

namespace Coordinator

/-- How often the machine of a run has entered `RECOVERING`. -/
def recoveries (c : Coordinator) (runId : String) : Nat :=
  ((c.fsms runId).map fun m => m.history.countP fun move => decide (move.2 = .recovering)).getD 0

section
variable {c : Coordinator} {runId : String}

theorem recoveries_congr {c' : Coordinator} (h : c'.fsms = c.fsms) (runId : String) :
    c'.recoveries runId = c.recoveries runId := by
  rw [recoveries, h, recoveries]

/-- The machine of a run knows its own recoveries, also when it is a new one. -/
theorem recoveries_machine (c : Coordinator) (runId : String) (current : RunState) :
    (c.machine runId current).history.countP (fun move => decide (move.2 = .recovering)) =
      c.recoveries runId := by
  unfold machine recoveries
  cases c.fsms runId <;> rfl

theorem recoveries_cacheFsm (c : Coordinator) (runId : String) (m : RunStateMachine)
    (other : String) : (c.cacheFsm runId m).recoveries other =
      if other = runId then m.history.countP fun move => decide (move.2 = .recovering)
      else c.recoveries other := by
  unfold cacheFsm recoveries
  dsimp only
  split <;> rfl

/-- A move elsewhere, or to another run, is no recovery. -/
theorem recoveries_moveRun_of_ne {other : String} {target : RunState}
    (h : other ≠ runId ∨ target ≠ .recovering) (edit : RunStatus → RunStatus) (now : Nat) :
    (c.moveRun runId target edit now).1.recoveries other = c.recoveries other := by
  cases hrun : c.getRun runId with
  | none => rw [moveRun_missing hrun]
  | some status =>
      cases hmove : (c.machine runId status.state).transition target with
      | error e =>
          simp only [moveRun, hrun, hmove]
          rw [recoveries_cacheFsm, recoveries_machine]
          split
          · next hother => rw [hother]
          · rfl
      | ok moved =>
          obtain ⟨_, rfl⟩ := RunStateMachine.transition_eq_ok_iff.mp hmove
          simp only [moveRun, hrun, hmove]
          apply (recoveries_cacheFsm ..).trans
          split
          · next hother =>
            rw [List.countP_append, recoveries_machine, hother]
            have htarget : target ≠ .recovering := h.resolve_left fun hne => hne hother
            simp [htarget]
          · rfl

/-- A move to `RECOVERING` is one more. -/
theorem recoveries_moveRun {status : RunStatus} {edit : RunStatus → RunStatus} {now : Nat}
    (hok : (c.moveRun runId .recovering edit now).2 = .ok status) :
    (c.moveRun runId .recovering edit now).1.recoveries runId = c.recoveries runId + 1 := by
  cases hrun : c.getRun runId with
  | none =>
      rw [moveRun_missing hrun] at hok
      cases hok
  | some found =>
      cases hmove : (c.machine runId found.state).transition .recovering with
      | error e =>
          simp only [moveRun, hrun, hmove] at hok
          cases hok
      | ok moved =>
          obtain ⟨_, rfl⟩ := RunStateMachine.transition_eq_ok_iff.mp hmove
          simp only [moveRun, hrun, hmove]
          apply (recoveries_cacheFsm ..).trans
          rw [if_pos rfl, List.countP_append, recoveries_machine]
          rfl

end

end Coordinator

namespace RecoveryPlane

/-- No worker record has changed, and no run has entered `RECOVERING`. -/
structure Aside (s s' : RecoveryPlane) : Prop where
  workers : s'.coordinator.workers = s.coordinator.workers
  recoveries : ∀ r, s'.coordinator.recoveries r = s.coordinator.recoveries r

section
variable {s t u : RecoveryPlane} {supervisor : Supervisor} {runId : String} (now : Nat)

theorem Aside.trans (h : Aside s t) (h' : Aside t u) : Aside s u :=
  ⟨h'.workers.trans h.workers, fun r => (h'.recoveries r).trans (h.recoveries r)⟩

theorem aside_fail (s : RecoveryPlane) (runId : String) :
    Aside s (s.withCoordinator (s.coordinator.transitionRun runId .failed now).1) :=
  ⟨rfl, fun _ => recoveries_moveRun_of_ne (Or.inr (by decide)) id now⟩

theorem aside_aborted (s : RecoveryPlane) (runId : String) :
    Aside s (s.abortPendingCheckpoints runId now) :=
  ⟨rfl, recoveries_congr (getRun_abortPendingCheckpoints _ runId now).2⟩

/-- A failed run enters `RECOVERING` once. -/
theorem recovering_recoveries (hc : s.coordinator.Coherent)
    (hfailed : s.coordinator.runState runId = some .failed) (r : String) :
    (s.recovering runId now).coordinator.recoveries r =
      s.coordinator.recoveries r + if r = runId then 1 else 0 := by
  split
  · next hr =>
    obtain ⟨moved, hok⟩ := (hc.moveRun_isOk runId .recovering id now).mpr
      ⟨.failed, hfailed, by decide⟩
    rw [hr]
    exact recoveries_moveRun hok
  · next hr => exact recoveries_moveRun_of_ne (Or.inl hr) id now

/-- The handler fails a run that can fail and goes on from there; for another
run it does nothing that shows. -/
theorem handleFailure_aside (hc : s.coordinator.Coherent) :
    (s.Failable runId → ∃ t, s.handleFailure supervisor runId now =
        t.abortAndRecover supervisor runId now ∧ Aside s t ∧ t.coordinator.Coherent ∧
        t.coordinator.runState runId = some .failed ∧
        t.manager = (s.markRecovering runId).manager) ∧
      (¬ s.Failable runId → Aside s (s.handleFailure supervisor runId now)) := by
  have hrefl : Aside s (s.markRecovering runId) := ⟨rfl, fun _ => rfl⟩
  have hfail : Aside s ((s.markRecovering runId).withCoordinator
      (s.coordinator.transitionRun runId .failed now).1) :=
    hrefl.trans (aside_fail now (s.markRecovering runId) runId)
  unfold handleFailure
  dsimp only
  rw [show (s.markRecovering runId).coordinator = s.coordinator from rfl]
  cases hrun : s.coordinator.getRun runId with
  | none =>
      refine ⟨?_, fun _ => hrefl⟩
      intro h
      obtain ⟨state, hstate, _⟩ := h
      simp [runState, hrun] at hstate
  | some status =>
      have hstate : s.coordinator.runState runId = some status.state := by simp [runState, hrun]
      have hyes : s.Failable runId → failable status.state = true := by
        intro h
        obtain ⟨state, hfound, hyes⟩ := h
        rwa [← Option.some.inj (hstate.symm.trans hfound)] at hyes
      have hmove : RunState.failed ∈ validTransitions status.state →
          ∃ moved, (s.coordinator.transitionRun runId .failed now).2 = .ok moved ∧
            (s.coordinator.transitionRun runId .failed now).1.Coherent ∧
            (s.coordinator.transitionRun runId .failed now).1.runState runId = some .failed := by
        intro hedge
        obtain ⟨moved, hok⟩ := (hc.moveRun_isOk runId .failed id now).mpr ⟨_, hstate, hedge⟩
        have hmoved := hc.runState_moveRun runId .failed id (fun _ => rfl) now runId
        rw [if_pos rfl, hstate, Option.map_some, if_pos hedge] at hmoved
        exact ⟨moved, hok, hc.moveRun runId .failed id (fun _ => rfl) now, hmoved⟩
      dsimp only
      cases hcase : status.state with
      | created =>
          refine ⟨fun h => by rw [hcase] at hyes; exact absurd (hyes h) (by decide), fun _ => ?_⟩
          cases hresult : (s.coordinator.transitionRun runId .failed now).2 with
          | error e => exact hfail
          | ok moved =>
              rw [hcase] at hstate
              exact absurd hresult (hc.moveRun_ne_ok hstate (by decide) id now moved)
      | cancelled => exact ⟨fun h => by rw [hcase] at hyes; exact absurd (hyes h) (by decide),
          fun _ => hrefl⟩
      | completed => exact ⟨fun h => by rw [hcase] at hyes; exact absurd (hyes h) (by decide),
          fun _ => hrefl⟩
      | failed =>
          rw [hcase] at hstate
          exact ⟨fun _ => ⟨_, rfl, hrefl, hc, hstate, rfl⟩,
            fun hno => absurd ⟨_, hstate, rfl⟩ hno⟩
      | _ =>
          rw [hcase] at hstate hmove
          obtain ⟨moved, hok, hcoherent, hfailed⟩ := hmove (by decide)
          refine ⟨fun _ => ⟨_, ?_, hfail, hcoherent, hfailed, rfl⟩,
            fun hno => absurd ⟨_, hstate, rfl⟩ hno⟩
          dsimp only
          rw [hok]

/-- **What a failure leaves of machines and workers.**  No worker record changes,
and only a run whose failure is handled enters `RECOVERING`, once. -/
theorem onWorkerFailure_aside (hc : s.coordinator.Coherent) (hout : runId ∉ s.manager.recovering)
    (hauto : s.manager.autoRecover = true) (hsup : s.manager.hasSupervisor = true)
    (hquiet : Quiet supervisor runId) (workerId : String) :
    let s' := s.onWorkerFailure supervisor workerId runId now
    s'.coordinator.workers = s.coordinator.workers ∧
      (¬ s.Failable runId → ∀ r, s'.coordinator.recoveries r = s.coordinator.recoveries r) ∧
      (s.Failable runId → ∀ r, s'.coordinator.recoveries r =
        s.coordinator.recoveries r + if r = runId then 1 else 0) := by
  have hhandle : ∀ t : RecoveryPlane, s.handleFailure supervisor runId now = t →
      (s.onWorkerFailure supervisor workerId runId now).coordinator = t.coordinator := by
    intro t h
    subst h
    unfold onWorkerFailure
    rw [if_neg hout]
  obtain ⟨hyes, hno⟩ : (s.Failable runId → _) ∧ (¬ s.Failable runId →
      Aside s (s.handleFailure supervisor runId now)) := handleFailure_aside now hc
  dsimp only
  by_cases hf : s.Failable runId
  · obtain ⟨t, heq, haside, ht, hfailed, hmanager⟩ := hyes hf
    have hin : runId ∈ t.manager.recovering := hmanager ▸ List.mem_cons_self
    have ht' := coherent_aborted ht runId now
    have hfailed' := (t.runState_aborted runId now runId).trans hfailed
    have hrecovered : t.abortAndRecover supervisor runId now =
        (t.abortPendingCheckpoints runId now).recovering runId now := by
      unfold abortAndRecover
      dsimp only
      rw [attemptRecovery_eq now ht' hfailed' hquiet hin]
      have hauto' : (t.abortPendingCheckpoints runId now).manager.autoRecover = true :=
        (congrArg (·.autoRecover) hmanager).trans hauto
      have hsup' : (t.abortPendingCheckpoints runId now).manager.hasSupervisor = true :=
        (congrArg (·.hasSupervisor) hmanager).trans hsup
      rw [if_pos hauto', if_pos hsup']
    rw [hhandle _ (heq.trans hrecovered)]
    have haborted := haside.trans (aside_aborted now t runId)
    refine ⟨haborted.workers, fun h => absurd hf h, fun _ r => ?_⟩
    rw [recovering_recoveries now ht' hfailed', haborted.recoveries]
  · rw [hhandle _ rfl]
    exact ⟨(hno hf).workers, fun _ => (hno hf).recoveries, fun h => absurd h hf⟩

end

end RecoveryPlane

/-! ## What every step keeps -/

/-- The run ids of all workers are plain. -/
def Roster.Plain (r : Roster) : Prop :=
  ∀ id m, r.members id = some m → PlainRunId m.record.runId

/-- The managers show a roster of plain runs whose next ranks are right. -/
structure Known (s : WorkerPlane) (r : Roster) : Prop where
  shows : Shows s r
  ranked : r.Ranked
  plain : r.Plain

section
variable {s s' : WorkerPlane} {r : Roster}

theorem Roster.Plain.update (hr : r.Plain) {f : String → Member → Member}
    (hf : ∀ id m, Member.SameOrigin m (f id m)) : (r.update f).Plain := by
  intro id m' hm'
  obtain ⟨m, hm, rfl⟩ := Option.map_eq_some_iff.mp hm'
  rw [(hf id m).2.1]
  exact hr id m hm

theorem Known.update (h : Known s r) {f : String → Member → Member}
    (hshows : Shows s' (r.update f)) (hf : ∀ id m, Member.SameOrigin m (f id m)) :
    Known s' (r.update f) :=
  ⟨hshows, h.ranked.update hf, h.plain.update hf⟩

theorem Known.edit (h : Known s r) {workerId : String} {f : Member → Member}
    (hshows : Shows s' (r.edit workerId f)) (hf : ∀ m, Member.SameOrigin m (f m)) :
    Known s' (r.edit workerId f) := h.update hshows (Member.sameOrigin_edit hf workerId)

theorem Known.serve (h : Known s r) {op : WorkerOp} {now : Nat}
    (hplain : (AutoRestartEvent.worker op).Plain) (hserve : s.serve (op, now) = some s') :
    Known s' (r.serve op now) := by
  have hnew : ∀ runId hostname rank workerId, op = .register runId hostname rank workerId →
      r.members workerId = none := by
    intro runId hostname rank workerId h
    subst h
    obtain ⟨hfresh, _⟩ := Option.ite_none_right_eq_some.mp hserve
    exact (h.shows.members_of_fresh hfresh).2
  refine ⟨h.shows.serve hserve, h.ranked.serve hnew now, ?_⟩
  obtain ⟨f, hf, -, hserved | ⟨runId, hostname, rank, workerId, m, rfl, -, hrun, hserved⟩⟩ :=
    r.serve_origins op now
  · exact hserved ▸ h.plain.update hf
  · rw [hserved]
    intro id found hfound
    have hcases : (if id = workerId then some m else (r.update f).members id) = some found :=
      hfound
    split at hcases
    · rw [← Option.some.inj hcases, hrun]
      exact hplain
    · exact h.plain.update hf id found hcases

theorem Known.unregister (h : Known s r) (workerId : String) :
    ∃ r', Known (s.unregister workerId) r' := by
  cases hm : r.members workerId with
  | none => exact ⟨r, h.shows.unregister_missing hm, h.ranked, h.plain⟩
  | some m => exact ⟨_, h.edit (h.shows.unregister hm) fun _ => ⟨rfl, rfl, rfl⟩⟩

theorem Known.declareDead (h : Known s r) {lease : WorkerLease}
    (hlease : s.getLease lease.workerId = some lease) :
    Known (s.declareDead lease) (r.edit lease.workerId .died) :=
  h.edit (h.shows.declareDead hlease) fun _ => ⟨rfl, rfl, rfl⟩

theorem Known.restartGroup (h : Known s r) (runId : String) :
    Known (s.restartGroup runId) (r.update fun _ => .restarted runId) :=
  h.update (h.shows.restartGroup runId) fun _ m => m.sameOrigin_restarted runId

/-- Worker operations move no run. -/
theorem WorkerPlane.coherent_serve (hc : s.coordinator.Coherent) {op : WorkerOp} {now : Nat}
    (hserve : s.serve (op, now) = some s') : s'.coordinator.Coherent := by
  cases op with
  | register runId hostname rank workerId =>
      obtain ⟨_, hsome⟩ := Option.ite_none_right_eq_some.mp hserve
      obtain rfl := Option.some.inj hsome
      rwa [coordinator_registerWorker]
  | heartbeat workerId step =>
      obtain rfl := Option.some.inj hserve
      rw [coordinator_workerHeartbeat]
      split
      · exact hc
      · exact hc.updateRunStep _ step now
  | deregister workerId =>
      obtain rfl := Option.some.inj hserve
      rwa [coordinator_deregisterWorker]
  | workerFailure workerId =>
      obtain ⟨_, _, _, rfl⟩ := WorkerPlane.serve_workerFailure_eq_some hserve
      rwa [coordinator_declareDead]
  | restartGroup runId =>
      obtain rfl := Option.some.inj hserve
      rwa [coordinator_restartGroup]

end

namespace AutoRestart

/-- Between two events the managers know their workers, no failure is being
handled, and restarts are wired. -/
structure Ready (s : AutoRestart) : Prop where
  known : ∃ r, Known s.workers r
  coherent : s.workers.coordinator.Coherent
  idle : s.recovery.recovering = []
  autoRecover : s.recovery.autoRecover = true
  hasSupervisor : s.recovery.hasSupervisor = true

theorem ready_init (store : KVStore) (deadThreshold : Nat) : (init store deadThreshold).Ready where
  known := ⟨.empty, shows_init store deadThreshold, Roster.sound_empty.ranked,
    fun _ _ hm => (by cases hm)⟩
  coherent := coherent_init store
  idle := rfl
  autoRecover := rfl
  hasSupervisor := rfl

section
variable {s s' : AutoRestart}

theorem quiet_later (runId : String) : RecoveryPlane.Quiet later runId := fun _ _ => rfl

theorem Ready.settled (hs : s.Ready) : s.recoveryPlane.Settled := ⟨hs.coherent, hs.idle⟩

/-- Workers that change without a run. -/
theorem Ready.withWorkers (hs : s.Ready) {workers : WorkerPlane} (hknown : ∃ r, Known workers r)
    (hc : workers.coordinator.Coherent) : ({ s with workers := workers } : AutoRestart).Ready :=
  ⟨hknown, hc, hs.idle, hs.autoRecover, hs.hasSupervisor⟩

/-- Runs that change without a worker. -/
theorem Ready.withRecoveryPlane (hs : s.Ready) {p : RecoveryPlane} (hp : p.Settled)
    (hworkers : p.coordinator.workers = s.workers.coordinator.workers)
    (hauto : p.manager.autoRecover = s.recovery.autoRecover)
    (hsup : p.manager.hasSupervisor = s.recovery.hasSupervisor) :
    (s.withRecoveryPlane p).Ready := by
  obtain ⟨r, hknown⟩ := hs.known
  exact ⟨⟨r, hknown.shows.other hworkers rfl rfl, hknown.ranked, hknown.plain⟩, hp.coherent,
    hp.idle, hauto.trans hs.autoRecover, hsup.trans hs.hasSupervisor⟩

theorem Ready.schedule (hs : s.Ready) (gate : RestartGate) (runId : String) :
    (s.scheduleWorkerGroupRestart gate runId).1.Ready := by
  have hrestarted : ({ s with workers := s.workers.restartGroup runId } : AutoRestart).Ready := by
    obtain ⟨r, hknown⟩ := hs.known
    apply hs.withWorkers ⟨_, hknown.restartGroup runId⟩
    rw [WorkerPlane.coordinator_restartGroup]
    exact hs.coherent
  unfold scheduleWorkerGroupRestart
  split
  · exact hs
  · exact hs
  · dsimp only
    split
    · obtain ⟨hknown, hc, hidle, hauto, hsup⟩ := hrestarted
      exact ⟨hknown, hc, hidle, hauto, hsup⟩
    · exact hrestarted

theorem Ready.catchUp (hs : s.Ready) {p : RecoveryPlane}
    (hkept : RecoveryPlane.Kept s.recoveryPlane p)
    (hworkers : p.coordinator.workers = s.workers.coordinator.workers) (gate : RestartGate)
    (runId : String) : (s.catchUp gate runId p).Ready := by
  have hwith := hs.withRecoveryPlane (hkept.settled hs.settled) hworkers hkept.autoRecover
    hkept.hasSupervisor
  unfold AutoRestart.catchUp
  dsimp only
  split
  · exact hwith
  · exact hwith.schedule gate runId

theorem Ready.onWorkerFailure (hs : s.Ready) (gate : RestartGate) (workerId runId : String)
    (now : Nat) : (s.onWorkerFailure gate workerId runId now).Ready :=
  hs.catchUp
    (RecoveryPlane.onWorkerFailure_effect now hs.coherent (hs.settled.notMem runId)
      (quiet_later runId) workerId).1
    (RecoveryPlane.onWorkerFailure_aside now hs.coherent (hs.settled.notMem runId) hs.autoRecover
      hs.hasSupervisor (quiet_later runId) workerId).1 gate runId

theorem Ready.recoverRun (hs : s.Ready) (gate : RestartGate) (runId : String) (now : Nat) :
    (s.recoverRun gate runId now).Ready := by
  refine hs.catchUp (RecoveryPlane.kept_recoverRun hs.settled (.answer .scheduled) now) ?_ gate
    runId
  rw [RecoveryPlane.recoverRun_eq hs.settled]
  split
  · split <;> rfl
  · rfl

theorem Ready.declareDead (hs : s.Ready) {id : String} {lease : WorkerLease}
    (hlease : s.workers.getLease id = some lease) : (s.declareDead id lease).Ready := by
  obtain ⟨r, hknown⟩ := hs.known
  have hid : lease.workerId = id := s.workers.heartbeats.leases.key_of_find hlease
  refine ⟨⟨_, hknown.declareDead (hid ▸ hlease)⟩, ?_, hs.idle, hs.autoRecover, hs.hasSupervisor⟩
  show (s.workers.declareDead lease).coordinator.Coherent
  rw [WorkerPlane.coordinator_declareDead]
  exact hs.coherent

theorem Ready.checkWorker (hs : s.Ready) (clock : String → Nat) (gates : String → RestartGate)
    (now : Nat) (id : String) : (AutoRestart.checkWorker clock gates now s id).Ready := by
  unfold AutoRestart.checkWorker
  split
  · exact hs
  · next hlease =>
    split
    · exact (hs.declareDead hlease).onWorkerFailure ..
    · exact hs

theorem Ready.checkAll (hs : s.Ready) (clock : String → Nat) (gates : String → RestartGate)
    (now : Nat) (ids : List String) :
    (ids.foldl (AutoRestart.checkWorker clock gates now) s).Ready := by
  induction ids generalizing s with
  | nil => exact hs
  | cons id ids ih => exact ih (hs.checkWorker clock gates now id)

/-- **One step.** -/
theorem Ready.step (hs : s.Ready) {event : AutoRestartEvent × Nat} (hplain : event.1.Plain)
    (h : s.step event = some s') : s'.Ready := by
  obtain ⟨event, now⟩ := event
  cases event with
  | worker op =>
      obtain ⟨workers, hserve, rfl⟩ := Option.map_eq_some_iff.mp h
      obtain ⟨r, hknown⟩ := hs.known
      exact hs.withWorkers ⟨_, hknown.serve hplain hserve⟩
        (WorkerPlane.coherent_serve hs.coherent hserve)
  | unregister workerId =>
      obtain rfl := Option.some.inj h
      obtain ⟨r, hknown⟩ := hs.known
      exact hs.withWorkers (hknown.unregister workerId) hs.coherent
  | recovery e =>
      obtain ⟨habout, h⟩ := Option.ite_none_right_eq_some.mp h
      obtain ⟨p, hp, rfl⟩ := Option.map_eq_some_iff.mp h
      have hsettled := RecoveryPlane.settled_step hs.settled hp
      cases e with
      | op op =>
          obtain ⟨_, hserved⟩ := Option.ite_none_right_eq_some.mp hp
          obtain rfl := Option.some.inj hserved
          refine hs.withRecoveryPlane hsettled ?_ rfl rfl
          cases op <;> first | rfl | cases habout
      | executeRecovery runId =>
          obtain rfl := Option.some.inj hp
          refine hs.withRecoveryPlane hsettled ?_ ?_ ?_ <;>
            · unfold RecoveryPlane.executeRecovery
              split <;> rfl
      | resumeRun runId =>
          obtain rfl := Option.some.inj hp
          exact hs.withRecoveryPlane hsettled rfl rfl rfl
      | workerFailure workerId runId callback => cases habout
      | recoverRun runId callback => cases habout
      | restart => cases habout
  | recoverRun runId gate =>
      obtain rfl := Option.some.inj h
      exact hs.recoverRun gate runId now
  | reconcile gate =>
      obtain rfl := Option.some.inj h
      show (s.reconcile gate).Ready
      unfold reconcile
      split
      · exact hs
      · dsimp only
        split
        · exact hs.schedule ..
        · exact hs
  | checkWorkers clock gates =>
      obtain rfl := Option.some.inj h
      exact hs.checkAll clock gates now _
  | restart =>
      obtain rfl := Option.some.inj h
      obtain ⟨r, hknown⟩ := hs.known
      have hworkers : s.workers.coordinator.restarted.workers = s.workers.coordinator.workers := rfl
      have hshows := hknown.shows.rehydrate hknown.ranked hworkers
        s.workers.heartbeats.deadThreshold now
      refine ⟨⟨_, hknown.update hshows fun _ _ => ⟨rfl, rfl, rfl⟩⟩, ?_, rfl, hs.autoRecover,
        hs.hasSupervisor⟩
      show (WorkerPlane.rehydrate _ _ _).coordinator.Coherent
      rw [WorkerPlane.coordinator_rehydrate]
      exact s.workers.coordinator.coherent_restarted

/-- **Every state that is reached** with plain run ids is ready. -/
theorem ready_of_run {store : KVStore} {deadThreshold : Nat}
    {events : List (AutoRestartEvent × Nat)} (hplain : ∀ event ∈ events, event.1.Plain)
    (h : run step (init store deadThreshold) events = some s) : s.Ready :=
  guarded_invariant step (fun _ _ _ ht hevent hstep => ht.step hevent hstep)
    (ready_init store deadThreshold) (guarded_of_forall _ _ hplain) h

end

end AutoRestart

end CheckpointRuntime
