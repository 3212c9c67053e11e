import CheckpointRuntime.CoordinatorRestart
import CheckpointRuntime.LatestCheckpoint

/-!
# Failure handling with a supervisor that calls back

`recovery.py` with the supervisor as the callback that it is: it may report
further failures of the run before it answers, and each report may call it
again.  The set `_recovering` turns such reports away, so a supervisor that is
called from the failure handler changes nothing; `recover_run` does not use the
set, and there a report is handled.
-/

namespace CheckpointRuntime

open Coordinator StableListing

/-- What a supervisor does when it is called for a run: it reports failures of
that run, one after another, and answers or raises in the end.  `nested` is what
it does when it is called while the report is handled. -/
inductive RestartCallback
  | answer (outcome : RestartOutcome)
  | report (workerId : String) (now : Nat) (nested rest : RestartCallback)

/-- The coordinator, the recovery manager, and the runs for which its supervisor
was called. -/
structure RecoveryPlane where
  coordinator : WorkerCoordinator
  manager : RecoveryManager
  restarts : List String := []

/-- A supervisor, as a function that acts on what it shares with its caller. -/
abbrev Supervisor := RecoveryPlane → RecoveryPlane × RestartOutcome

namespace RecoveryPlane

def withCoordinator (s : RecoveryPlane) (c : Coordinator) : RecoveryPlane :=
  { s with coordinator := { s.coordinator with toCoordinator := c } }

/-! ## The protocol -/

/-- `_restart_worker_group(run_id)` -/
def restartWorkerGroup (s : RecoveryPlane) (supervisor : Supervisor) (runId : String) :
    RecoveryPlane × RestartOutcome :=
  supervisor { s with restarts := s.restarts ++ [runId] }

/-- Move a failed run to `RECOVERING` and restart its worker group; the answer
and an exception of the supervisor are logged only. -/
def attemptRecovery (s : RecoveryPlane) (supervisor : Supervisor) (runId : String) (now : Nat) :
    RecoveryPlane :=
  if s.manager.hasSupervisor then
    let (c, moved) := s.coordinator.transitionRun runId .recovering now
    let s := s.withCoordinator c
    match moved with
    | .error _ => s
    | .ok _ =>
        let s := { s with manager := s.manager.recordRecoveryCheckpoint c runId }
        match s.restartWorkerGroup supervisor runId with
        | (s, .scheduled) | (s, .notScheduled) | (s, .raised) => s
  else
    s

def abortPendingCheckpoints (s : RecoveryPlane) (runId : String) (now : Nat) : RecoveryPlane :=
  s.withCoordinator (RecoveryManager.abortPendingCheckpoints s.coordinator.toCoordinator runId now)

/-- The second half of the protocol: abort in-flight checkpoints, then recover
if that is configured. -/
def abortAndRecover (s : RecoveryPlane) (supervisor : Supervisor) (runId : String) (now : Nat) :
    RecoveryPlane :=
  let s := s.abortPendingCheckpoints runId now
  if s.manager.autoRecover then s.attemptRecovery supervisor runId now else s

/-- `_recovering.add(run_id)` -/
def markRecovering (s : RecoveryPlane) (runId : String) : RecoveryPlane :=
  { s with manager := { s.manager with recovering := runId :: s.manager.recovering } }

/-- The failure-handling protocol for a run. -/
def handleFailure (s : RecoveryPlane) (supervisor : Supervisor) (runId : String) (now : Nat) :
    RecoveryPlane :=
  let s := s.markRecovering runId
  match s.coordinator.getRun runId with
  | none => s
  | some status =>
      match status.state with
      | .cancelled | .completed => s
      | .failed => s.abortAndRecover supervisor runId now
      | _ =>
          let (c, moved) := s.coordinator.transitionRun runId .failed now
          let s := s.withCoordinator c
          match moved with
          | .error _ => s
          | .ok _ => s.abortAndRecover supervisor runId now

/-- Handle a worker failure notification; the worker is logged only. -/
def onWorkerFailure (s : RecoveryPlane) (supervisor : Supervisor) (_workerId runId : String)
    (now : Nat) : RecoveryPlane :=
  if runId ∈ s.manager.recovering then
    s
  else
    let s := s.handleFailure supervisor runId now
    { s with manager := { s.manager with
        recovering := s.manager.recovering.filter (fun r => decide (r ≠ runId)) } }

/-- Manually trigger recovery for a failed run. -/
def recoverRun (s : RecoveryPlane) (supervisor : Supervisor) (runId : String) (now : Nat) :
    RecoveryPlane × Bool :=
  match s.coordinator.getRun runId with
  | none => (s, false)
  | some status =>
      if status.state = .failed then
        let s := s.abortPendingCheckpoints runId now
        if s.manager.hasSupervisor then
          let (c, moved) := s.coordinator.transitionRun runId .recovering now
          let s := s.withCoordinator c
          match moved with
          | .error _ => (s, false)
          | .ok _ =>
              let s := { s with manager := s.manager.recordRecoveryCheckpoint c runId }
              match s.restartWorkerGroup supervisor runId with
              | (s, .scheduled) => (s, true)
              | (s, .notScheduled) | (s, .raised) => (s, false)
        else
          (s, false)
      else
        (s, false)

/-- The checkpoint ID to resume from for a recovered run. -/
def getRecoveryCheckpoint (s : RecoveryPlane) (runId : String) : Option String :=
  (s.manager.recoveryCheckpoints runId).getD none

end RecoveryPlane

/-- What a supervisor of this behaviour does. -/
def RestartCallback.invoke (runId : String) : RestartCallback → Supervisor
  | .answer outcome => fun s => (s, outcome)
  | .report workerId now nested rest => fun s =>
      rest.invoke runId (s.onWorkerFailure (nested.invoke runId) workerId runId now)

namespace RecoveryPlane

/-! ## What handling a failure comes to -/

/-- A supervisor that changes nothing while the run is being handled. -/
def Quiet (supervisor : Supervisor) (runId : String) : Prop :=
  ∀ s : RecoveryPlane, runId ∈ s.manager.recovering → (supervisor s).1 = s

/-- Reports of the run that is being handled are turned away, whatever the
supervisor would do if they were not. -/
theorem quiet_invoke (callback : RestartCallback) (runId : String) :
    Quiet (callback.invoke runId) runId := by
  intro s hs
  induction callback generalizing s with
  | answer outcome => rfl
  | report workerId now nested rest _ ih =>
      unfold RestartCallback.invoke
      have hskip : s.onWorkerFailure (nested.invoke runId) workerId runId now = s := if_pos hs
      rw [hskip]
      exact ih s hs

/-- The states in which a failure is handled. -/
def failable : RunState → Bool
  | .running | .checkpointing | .committed | .failed | .recovering => true
  | .created | .cancelled | .completed => false

/-- An id names a committed checkpoint of the largest step, and nothing means
that nothing is committed. -/
def NewestPoint (c : Coordinator) (runId : String) : Option String → Prop
  | none => ∀ info, ¬ c.CommittedFor runId info
  | some id => ∃ info, c.CommittedFor runId info ∧ info.checkpointId = id ∧
      ∀ other, c.CommittedFor runId other → other.step ≤ info.step

/-- Nothing that is recorded has changed. -/
structure Unchanged (s s' : RecoveryPlane) : Prop where
  runs : ∀ r, s'.coordinator.getRun r = s.coordinator.getRun r
  checkpoints : ∀ id, s'.coordinator.getCheckpoint id = s.coordinator.getCheckpoint id
  points : ∀ r, s'.getRecoveryCheckpoint r = s.getRecoveryCheckpoint r
  restarts : s'.restarts = s.restarts
  workers : s'.coordinator.workers = s.coordinator.workers

/-- The postcondition of a handled failure. -/
structure Handled (s s' : RecoveryPlane) (runId : String) : Prop where
  state : s'.coordinator.runState runId =
    some (if s.manager.autoRecover && s.manager.hasSupervisor then .recovering else .failed)
  closed : ∀ id info, s'.coordinator.getCheckpoint id = some info → info.runId = runId →
    ¬ info.isOpen
  committed : ∀ id info, info.state = .committed →
    (s'.coordinator.getCheckpoint id = some info ↔ s.coordinator.getCheckpoint id = some info)
  otherRuns : ∀ r, r ≠ runId → s'.coordinator.getRun r = s.coordinator.getRun r
  otherCheckpoints : ∀ id info, info.runId ≠ runId →
    (s'.coordinator.getCheckpoint id = some info ↔ s.coordinator.getCheckpoint id = some info)
  otherPoints : ∀ r, r ≠ runId → s'.getRecoveryCheckpoint r = s.getRecoveryCheckpoint r
  workers : s'.coordinator.workers = s.coordinator.workers
  restarts : s'.restarts =
    s.restarts ++ if s.manager.autoRecover && s.manager.hasSupervisor then [runId] else []
  point : s'.restarts ≠ s.restarts →
    NewestPoint s'.coordinator.toCoordinator runId (s'.getRecoveryCheckpoint runId)

section
variable {s : RecoveryPlane} {supervisor : Supervisor} {runId : String} (now : Nat)

/-- What is left when the supervisor has been called. -/
def recovering (s : RecoveryPlane) (runId : String) (now : Nat) : RecoveryPlane :=
  let c := (s.coordinator.transitionRun runId .recovering now).1
  { s.withCoordinator c with
    manager := s.manager.recordRecoveryCheckpoint c runId
    restarts := s.restarts ++ [runId] }

/-- A failed run can be recovered. -/
theorem attemptRecovery_eq (hc : s.coordinator.Coherent)
    (hfailed : s.coordinator.runState runId = some .failed) (hquiet : Quiet supervisor runId)
    (hin : runId ∈ s.manager.recovering) :
    s.attemptRecovery supervisor runId now =
      if s.manager.hasSupervisor then s.recovering runId now else s := by
  unfold attemptRecovery
  refine if_congr Iff.rfl ?_ rfl
  obtain ⟨status, hok⟩ := (hc.moveRun_isOk runId .recovering id now).mpr
    ⟨.failed, hfailed, by decide⟩
  have hok' : (s.coordinator.transitionRun runId .recovering now).2 = .ok status := hok
  dsimp only
  rw [hok']
  have hcall : (restartWorkerGroup { s.withCoordinator
        (s.coordinator.transitionRun runId .recovering now).1 with
      manager := s.manager.recordRecoveryCheckpoint
        (s.coordinator.transitionRun runId .recovering now).1 runId } supervisor runId).1 =
      s.recovering runId now := hquiet _ hin
  rw [← hcall]
  dsimp only
  split <;> next heq => exact (congrArg Prod.fst heq).symm

theorem newestPoint_latest {c : Coordinator} :
    NewestPoint c runId ((latestCommitted (c.listCheckpoints runId)).map (·.checkpointId)) := by
  cases hlatest : latestCommitted (c.listCheckpoints runId) with
  | none => exact latestCommitted_eq_none_iff.mp hlatest
  | some info =>
      obtain ⟨hinfo, hleads⟩ := latestCommitted_eq_some_iff.mp hlatest
      refine ⟨info, hinfo, rfl, fun other hother => ?_⟩
      by_cases hsame : other = info
      · exact hsame ▸ le_refl _
      · rcases hleads other hother hsame with hlt | ⟨heq, _⟩
        · exact le_of_lt hlt
        · exact le_of_eq heq

/-- Closing the open checkpoints of a run leaves no open one of that run, every
committed one and every one of another run. -/
theorem records_of_closed {c c' : Coordinator}
    (h : ∀ id, c'.getCheckpoint id = (c.getCheckpoint id).map (closedFor runId now)) :
    (∀ id info, c'.getCheckpoint id = some info → info.runId = runId → ¬ info.isOpen) ∧
      ∀ id info, info.state = .committed ∨ info.runId ≠ runId →
        (c'.getCheckpoint id = some info ↔ c.getCheckpoint id = some info) := by
  constructor
  · intro id info hinfo hrun
    rw [h] at hinfo
    obtain ⟨old, _, rfl⟩ := Option.map_eq_some_iff.mp hinfo
    rw [closedFor_runId] at hrun
    unfold closedFor
    split
    · intro h
      rcases h with hstate | hstate <;> cases hstate
    · next hnot => exact fun hopen => hnot ⟨hrun, hopen⟩
  · intro id info hspared
    have hself : closedFor runId now info = info := by
      apply if_neg
      intro h
      obtain ⟨hrun, hopen⟩ := h
      rcases hspared with hstate | hne
      · rcases hopen with hopen | hopen <;> cases hstate.symm.trans hopen
      · exact hne hrun
    rw [h]
    constructor
    · intro hinfo
      obtain ⟨old, hold, hclosed⟩ := Option.map_eq_some_iff.mp hinfo
      have hkept : closedFor runId now old = old := by
        apply if_neg
        intro hopen
        rw [closedFor, if_pos hopen] at hclosed
        subst hclosed
        rcases hspared with hstate | hne
        · cases hstate
        · exact hne hopen.1
      rw [hold, ← hkept, hclosed]
    · intro hinfo
      rw [hinfo, Option.map_some, hself]

theorem getCheckpoint_aborted (s : RecoveryPlane) (runId : String) (now : Nat) (id : String) :
    (s.abortPendingCheckpoints runId now).coordinator.getCheckpoint id =
      (s.coordinator.getCheckpoint id).map (closedFor runId now) :=
  getCheckpoint_abortPendingCheckpoints ..

theorem getRun_aborted (s : RecoveryPlane) (runId : String) (now : Nat) :
    (s.abortPendingCheckpoints runId now).coordinator.getRun = s.coordinator.getRun :=
  (getRun_abortPendingCheckpoints ..).1

theorem runState_aborted (s : RecoveryPlane) (runId : String) (now : Nat) (r : String) :
    (s.abortPendingCheckpoints runId now).coordinator.runState r = s.coordinator.runState r :=
  runState_abortPendingCheckpoints ..

theorem coherent_aborted (hc : s.coordinator.Coherent) (runId : String) (now : Nat) :
    (s.abortPendingCheckpoints runId now).coordinator.Coherent :=
  hc.abortPendingCheckpoints runId now

/-- Calling the supervisor leaves the checkpoints alone and records one to
resume from. -/
theorem recovering_effect (hc : s.coordinator.Coherent)
    (hfailed : s.coordinator.runState runId = some .failed) :
    let s' := s.recovering runId now
    s'.coordinator.runState runId = some .recovering ∧
      (∀ r, r ≠ runId → s'.coordinator.getRun r = s.coordinator.getRun r) ∧
      (∀ id, s'.coordinator.getCheckpoint id = s.coordinator.getCheckpoint id) ∧
      s'.restarts = s.restarts ++ [runId] ∧
      (∀ r, r ≠ runId → s'.getRecoveryCheckpoint r = s.getRecoveryCheckpoint r) ∧
      s'.getRecoveryCheckpoint runId =
        (latestCommitted (s'.coordinator.listCheckpoints runId)).map (·.checkpointId) := by
  refine ⟨?_, fun r hr => getRun_moveRun_of_ne _ _ _ (fun _ => rfl) _ hr,
    getCheckpoint_congr (checkpoints_moveRun ..), rfl, fun r hr => ?_, ?_⟩
  · have hmoved := hc.runState_moveRun runId .recovering id (fun _ => rfl) now runId
    rw [if_pos rfl, hfailed] at hmoved
    exact hmoved
  · show (if r = runId then _ else s.manager.recoveryCheckpoints r).getD none = _
    rw [if_neg hr]
    rfl
  · show (if runId = runId then _ else _ : Option (Option String)).getD none = _
    rw [if_pos rfl]
    rfl

/-- **A failed run.**  Its open checkpoints are closed, and it is recovered if
that is configured. -/
theorem handled_abortAndRecover (hc : s.coordinator.Coherent)
    (hfailed : s.coordinator.runState runId = some .failed) (hquiet : Quiet supervisor runId)
    (hin : runId ∈ s.manager.recovering) :
    Handled s (s.abortAndRecover supervisor runId now) runId := by
  have hc' := coherent_aborted hc runId now
  have hfailed' := (s.runState_aborted runId now runId).trans hfailed
  have hstay : (s.manager.autoRecover && s.manager.hasSupervisor) = false →
      Handled s (s.abortPendingCheckpoints runId now) runId := by
    intro hoff
    obtain ⟨hclosed, hspared⟩ := records_of_closed now (s.getCheckpoint_aborted runId now)
    exact {
      state := by rw [hfailed', hoff]; rfl
      closed := hclosed
      committed := fun id info hstate => hspared id info (Or.inl hstate)
      otherRuns := fun r _ => congrFun (s.getRun_aborted runId now) r
      otherCheckpoints := fun id info hne => hspared id info (Or.inr hne)
      otherPoints := fun _ _ => rfl
      workers := rfl
      restarts := by
        rw [hoff]
        exact (List.append_nil _).symm
      point := fun hcalled => absurd rfl hcalled }
  unfold abortAndRecover
  dsimp only
  split
  · next hauto =>
    have hsame : (s.abortPendingCheckpoints runId now).manager = s.manager := rfl
    rw [attemptRecovery_eq now hc' hfailed' hquiet hin]
    split
    · next hsup =>
      rw [hsame] at hauto hsup
      obtain ⟨hstate, hruns, hrecords, hrestarts, hpoints, hpoint⟩ :=
        recovering_effect now hc' hfailed'
      have hrecords' := fun id => (hrecords id).trans (s.getCheckpoint_aborted runId now id)
      obtain ⟨hclosed, hspared⟩ := records_of_closed now hrecords'
      exact {
        state := by rw [hstate, hauto, hsup]; rfl
        closed := hclosed
        committed := fun id info hstate => hspared id info (Or.inl hstate)
        otherRuns := fun r hr => (hruns r hr).trans (congrFun (s.getRun_aborted runId now) r)
        otherCheckpoints := fun id info hne => hspared id info (Or.inr hne)
        otherPoints := hpoints
        workers := rfl
        restarts := by
          rw [hrestarts, hauto, hsup]
          rfl
        point := fun _ => by rw [hpoint]; exact newestPoint_latest }
    · next hsup =>
      rw [hsame, Bool.not_eq_true] at hsup
      exact hstay (by rw [hsup, Bool.and_false])
  · next hauto =>
    have hoff : s.manager.autoRecover = false := (Bool.not_eq_true _).mp hauto
    exact hstay (by rw [hoff, Bool.false_and])

/-- What all the steps of the protocol keep. -/
structure Kept (s s' : RecoveryPlane) : Prop where
  coherent : s.coordinator.Coherent → s'.coordinator.Coherent
  autoRecover : s'.manager.autoRecover = s.manager.autoRecover
  hasSupervisor : s'.manager.hasSupervisor = s.manager.hasSupervisor
  recovering : s'.manager.recovering = s.manager.recovering

theorem Kept.refl (s : RecoveryPlane) : Kept s s := ⟨id, rfl, rfl, rfl⟩

theorem Kept.trans {s s' s'' : RecoveryPlane} (h : Kept s s') (h' : Kept s' s'') : Kept s s'' :=
  ⟨fun hc => h'.coherent (h.coherent hc), h'.autoRecover.trans h.autoRecover,
    h'.hasSupervisor.trans h.hasSupervisor, h'.recovering.trans h.recovering⟩

theorem kept_transition (s : RecoveryPlane) (runId : String) (target : RunState) (now : Nat) :
    Kept s (s.withCoordinator (s.coordinator.transitionRun runId target now).1) :=
  ⟨fun hc => hc.moveRun runId target id (fun _ => rfl) now, rfl, rfl, rfl⟩

theorem kept_aborted (s : RecoveryPlane) (runId : String) (now : Nat) :
    Kept s (s.abortPendingCheckpoints runId now) :=
  ⟨fun hc => coherent_aborted hc runId now, rfl, rfl, rfl⟩

theorem kept_recovering (s : RecoveryPlane) (runId : String) (now : Nat) :
    Kept s (s.recovering runId now) :=
  ⟨fun hc => hc.moveRun runId .recovering id (fun _ => rfl) now, rfl, rfl, rfl⟩

theorem kept_abortAndRecover (hc : s.coordinator.Coherent)
    (hfailed : s.coordinator.runState runId = some .failed) (hquiet : Quiet supervisor runId)
    (hin : runId ∈ s.manager.recovering) : Kept s (s.abortAndRecover supervisor runId now) := by
  have hc' := coherent_aborted hc runId now
  have hfailed' := (s.runState_aborted runId now runId).trans hfailed
  unfold abortAndRecover
  dsimp only
  split
  · rw [attemptRecovery_eq now hc' hfailed' hquiet hin]
    split
    · exact (s.kept_aborted runId now).trans (kept_recovering _ _ _)
    · exact s.kept_aborted runId now
  · exact s.kept_aborted runId now

/-- Whether a failure of the run is handled. -/
def Failable (s : RecoveryPlane) (runId : String) : Prop :=
  ∃ state, s.coordinator.runState runId = some state ∧ failable state = true

/-- A refused or an impossible move changes no record. -/
theorem unchanged_transition {target : RunState} {e : CoordinatorError}
    (h : (s.coordinator.transitionRun runId target now).2 = .error e) :
    Unchanged s (s.withCoordinator (s.coordinator.transitionRun runId target now).1) := by
  refine ⟨fun r => ?_, getCheckpoint_congr (checkpoints_moveRun ..), fun _ => rfl, rfl, rfl⟩
  show (s.coordinator.moveRun runId target id now).1.getRun r = _
  have herror : (s.coordinator.moveRun runId target id now).2 = .error e := h
  unfold moveRun at herror ⊢
  split at herror
  · rfl
  · dsimp only at herror ⊢
    split at herror
    · rfl
    · cases herror

/-- What is handled after the run has been failed is handled. -/
theorem Handled.of_failed {s t s' : RecoveryPlane} (h : Handled t s' runId)
    (hmanager : t.manager = s.manager) (hrestarts : t.restarts = s.restarts)
    (hruns : ∀ r, r ≠ runId → t.coordinator.getRun r = s.coordinator.getRun r)
    (hrecords : ∀ id, t.coordinator.getCheckpoint id = s.coordinator.getCheckpoint id)
    (hworkers : t.coordinator.workers = s.coordinator.workers) : Handled s s' runId where
  state := by rw [← hmanager]; exact h.state
  closed := h.closed
  committed := fun id info hstate => by rw [← hrecords]; exact h.committed id info hstate
  otherRuns := fun r hr => (h.otherRuns r hr).trans (hruns r hr)
  otherCheckpoints := fun id info hne => by rw [← hrecords]; exact h.otherCheckpoints id info hne
  otherPoints := fun r hr =>
    (h.otherPoints r hr).trans (by rw [getRecoveryCheckpoint, hmanager]; rfl)
  workers := h.workers.trans hworkers
  restarts := by rw [← hrestarts, ← hmanager]; exact h.restarts
  point := by rw [← hrestarts]; exact h.point

/-- What the handler makes of a failure: it is handled to the end, or nothing
changes but the mark. -/
structure Effect (s s' : RecoveryPlane) (runId : String) : Prop where
  kept : Kept (s.markRecovering runId) s'
  handled : s.Failable runId → Handled (s.markRecovering runId) s' runId
  unchanged : ¬ s.Failable runId → Unchanged s s'

/-- The handler returns at once. -/
theorem effect_skip (hno : ¬ s.Failable runId) : Effect s (s.markRecovering runId) runId where
  kept := .refl _
  handled := fun hyes => absurd hyes hno
  unchanged := fun _ => ⟨fun _ => rfl, fun _ => rfl, fun _ => rfl, rfl, rfl⟩

/-- The run has been failed, or was in `FAILED` already. -/
theorem effect_failed {t : RecoveryPlane} (ht : t.coordinator.Coherent)
    (hfailed : t.coordinator.runState runId = some .failed)
    (hmanager : t.manager = (s.markRecovering runId).manager) (hrestarts : t.restarts = s.restarts)
    (hruns : ∀ r, r ≠ runId → t.coordinator.getRun r = s.coordinator.getRun r)
    (hrecords : ∀ id, t.coordinator.getCheckpoint id = s.coordinator.getCheckpoint id)
    (hworkers : t.coordinator.workers = s.coordinator.workers)
    (hquiet : Quiet supervisor runId) (hyes : s.Failable runId) :
    Effect s (t.abortAndRecover supervisor runId now) runId := by
  have hin : runId ∈ t.manager.recovering := hmanager ▸ List.mem_cons_self
  have hkept := kept_abortAndRecover now ht hfailed hquiet hin
  refine ⟨⟨fun _ => hkept.coherent ht, ?_, ?_, ?_⟩, fun _ => ?_, fun hno => absurd hyes hno⟩
  · rw [hkept.autoRecover, hmanager]
  · rw [hkept.hasSupervisor, hmanager]
  · rw [hkept.recovering, hmanager]
  · exact (handled_abortAndRecover now ht hfailed hquiet hin).of_failed hmanager hrestarts hruns
      hrecords hworkers

/-- The handler fails the run first. -/
theorem effect_transition (hc : s.coordinator.Coherent) (hquiet : Quiet supervisor runId)
    {state : RunState} (hstate : s.coordinator.runState runId = some state)
    (hedge : RunState.failed ∈ validTransitions state) (hyes : s.Failable runId) :
    ∃ moved, (s.coordinator.transitionRun runId .failed now).2 = .ok moved ∧
      Effect s (((s.markRecovering runId).withCoordinator
        (s.coordinator.transitionRun runId .failed now).1).abortAndRecover
          supervisor runId now) runId := by
  obtain ⟨moved, hok⟩ := (hc.moveRun_isOk runId .failed id now).mpr ⟨_, hstate, hedge⟩
  have hmoved := hc.runState_moveRun runId .failed id (fun _ => rfl) now runId
  rw [if_pos rfl, hstate, Option.map_some, if_pos hedge] at hmoved
  exact ⟨moved, hok, effect_failed now (hc.moveRun runId .failed id (fun _ => rfl) now) hmoved
    rfl rfl (fun r hr => getRun_moveRun_of_ne _ _ _ (fun _ => rfl) _ hr)
    (getCheckpoint_congr (checkpoints_moveRun ..)) rfl hquiet hyes⟩

/-- **The handler.** -/
theorem handleFailure_effect (hc : s.coordinator.Coherent) (hquiet : Quiet supervisor runId) :
    Effect s (s.handleFailure supervisor runId now) runId := by
  unfold handleFailure
  dsimp only
  rw [show (s.markRecovering runId).coordinator = s.coordinator from rfl]
  cases hrun : s.coordinator.getRun runId with
  | none =>
      apply effect_skip
      intro h
      obtain ⟨state, hstate, _⟩ := h
      simp [runState, hrun] at hstate
  | some status =>
      have hstate : s.coordinator.runState runId = some status.state := by simp [runState, hrun]
      have hfailable : s.Failable runId ↔ failable status.state = true := by
        constructor
        · intro h
          obtain ⟨state, hfound, hyes⟩ := h
          rwa [← Option.some.inj (hstate.symm.trans hfound)] at hyes
        · exact fun hyes => ⟨_, hstate, hyes⟩
      dsimp only
      cases hcase : status.state with
      | created =>
          rw [hcase] at hfailable
          have hno : ¬ s.Failable runId := fun h => Bool.false_ne_true (hfailable.mp h)
          -- a run that has not started cannot fail
          cases hresult : (s.coordinator.transitionRun runId .failed now).2 with
          | ok moved =>
              rw [hcase] at hstate
              exact absurd hresult (hc.moveRun_ne_ok hstate (by decide) id now moved)
          | error e =>
              obtain ⟨hruns, hrecords, hpoints, hrestarts, hworkers⟩ :=
                unchanged_transition now hresult
              exact ⟨(s.markRecovering runId).kept_transition runId .failed now,
                fun h => absurd h hno, fun _ => ⟨hruns, hrecords, hpoints, hrestarts, hworkers⟩⟩
      | cancelled =>
          rw [hcase] at hfailable
          exact effect_skip fun h => Bool.false_ne_true (hfailable.mp h)
      | completed =>
          rw [hcase] at hfailable
          exact effect_skip fun h => Bool.false_ne_true (hfailable.mp h)
      | failed =>
          rw [hcase] at hfailable hstate
          exact effect_failed now (t := s.markRecovering runId) hc hstate rfl rfl (fun _ _ => rfl)
            (fun _ => rfl) rfl hquiet (hfailable.mpr rfl)
      | _ =>
          rw [hcase] at hfailable hstate
          obtain ⟨moved, hok, heffect⟩ :=
            effect_transition now hc hquiet hstate (by decide) (hfailable.mpr rfl)
          dsimp only
          rw [hok]
          exact heffect

/-- **One failure.**  It is handled to the end, or changes nothing. -/
theorem onWorkerFailure_effect (hc : s.coordinator.Coherent) (hout : runId ∉ s.manager.recovering)
    (hquiet : Quiet supervisor runId) (workerId : String) :
    let s' := s.onWorkerFailure supervisor workerId runId now
    Kept s s' ∧ (s.Failable runId → Handled s s' runId) ∧
      (¬ s.Failable runId → Unchanged s s') := by
  obtain ⟨hkept, hhandled, hunchanged⟩ := handleFailure_effect now hc hquiet
  have hreset : (runId :: s.manager.recovering).filter (fun r => decide (r ≠ runId)) =
      s.manager.recovering := by
    rw [List.filter_cons_of_neg (by simp), List.filter_eq_self]
    exact fun r hr => decide_eq_true fun heq => hout (heq ▸ hr)
  unfold onWorkerFailure
  rw [if_neg hout]
  refine ⟨⟨hkept.coherent, hkept.autoRecover, hkept.hasSupervisor, ?_⟩, fun hf => ?_, fun hf => ?_⟩
  · show List.filter _ (s.handleFailure supervisor runId now).manager.recovering = _
    rw [hkept.recovering]
    exact hreset
  · obtain ⟨hstate, hclosed, hcommitted, hruns, hothers, hpoints, hworkers, hrestarts, hpoint⟩ :=
      hhandled hf
    exact ⟨hstate, hclosed, hcommitted, hruns, hothers, hpoints, hworkers, hrestarts, hpoint⟩
  · obtain ⟨hruns, hrecords, hpoints, hrestarts, hworkers⟩ := hunchanged hf
    exact ⟨hruns, hrecords, hpoints, hrestarts, hworkers⟩

/-- The manager and the coordinator behind a plane. -/
def records (s : RecoveryPlane) : RecoveryManager × Coordinator :=
  (s.manager, s.coordinator.toCoordinator)

theorem records_attemptRecovery (hquiet : Quiet supervisor runId)
    (hin : runId ∈ s.manager.recovering) (restart : RestartOutcome) :
    (s.attemptRecovery supervisor runId now).records =
      s.manager.attemptRecovery s.coordinator.toCoordinator runId restart now := by
  unfold attemptRecovery RecoveryManager.attemptRecovery
  refine (apply_ite records _ _ _).trans (if_congr Iff.rfl ?_ rfl)
  dsimp only
  cases (s.coordinator.transitionRun runId .recovering now).2 with
  | error e => rfl
  | ok moved =>
      have hcall : (restartWorkerGroup { s.withCoordinator
            (s.coordinator.transitionRun runId .recovering now).1 with
          manager := s.manager.recordRecoveryCheckpoint
            (s.coordinator.transitionRun runId .recovering now).1 runId } supervisor runId).1 =
          s.recovering runId now := hquiet _ hin
      refine Eq.trans (b := (s.recovering runId now).records) ?_ ?_
      · rw [← hcall]
        dsimp only
        split <;> next heq => exact congrArg records (congrArg Prod.fst heq).symm
      · cases restart <;> rfl

theorem records_abortAndRecover (hquiet : Quiet supervisor runId)
    (hin : runId ∈ s.manager.recovering) (restart : RestartOutcome) :
    (s.abortAndRecover supervisor runId now).records =
      s.manager.abortAndRecover s.coordinator.toCoordinator runId restart now := by
  unfold abortAndRecover RecoveryManager.abortAndRecover
  dsimp only
  split
  · next hauto =>
    rw [if_pos (show s.manager.autoRecover = true from hauto)]
    exact records_attemptRecovery (s := s.abortPendingCheckpoints runId now) now hquiet hin restart
  · next hauto =>
    rw [if_neg (show ¬ s.manager.autoRecover = true from hauto)]
    rfl

/-- A supervisor that the set keeps quiet matters as little as its answer: the
handler does what it does with a supervisor that only answers. -/
theorem records_onWorkerFailure (hquiet : Quiet supervisor runId) (workerId : String)
    (restart : RestartOutcome) :
    (s.onWorkerFailure supervisor workerId runId now).records =
      s.manager.onWorkerFailure s.coordinator.toCoordinator runId restart now := by
  have hin : runId ∈ (s.markRecovering runId).manager.recovering := List.mem_cons_self
  have hhandle : (s.handleFailure supervisor runId now).records =
      s.manager.handleFailure s.coordinator.toCoordinator runId restart now := by
    unfold handleFailure RecoveryManager.handleFailure
    dsimp only
    rw [show (s.markRecovering runId).coordinator = s.coordinator from rfl]
    cases s.coordinator.getRun runId with
    | none => rfl
    | some status =>
        dsimp only
        cases status.state with
        | cancelled => rfl
        | completed => rfl
        | failed =>
            exact records_abortAndRecover (s := s.markRecovering runId) now hquiet hin restart
        | _ =>
            dsimp only
            cases (s.coordinator.transitionRun runId .failed now).2 with
            | error e => rfl
            | ok moved =>
                exact records_abortAndRecover
                  (s := (s.markRecovering runId).withCoordinator
                    (s.coordinator.transitionRun runId .failed now).1)
                  now hquiet hin restart
  unfold onWorkerFailure RecoveryManager.onWorkerFailure
  refine (apply_ite records _ _ _).trans (if_congr Iff.rfl rfl ?_)
  rw [← hhandle]
  rfl

end

/-! ## Runs -/

/-- The last committed checkpoint of a listing. -/
def lastCommitted (infos : List CheckpointInfo) : Option CheckpointInfo :=
  (infos.filter (fun info => decide (info.state = .committed))).getLast?

/-- Record the last committed checkpoint of a run that exists. -/
def executeRecovery (s : RecoveryPlane) (runId : String) : RecoveryPlane :=
  match s.coordinator.getRun runId with
  | none => s
  | some _ =>
      let latest := lastCommitted (s.coordinator.listCheckpoints runId)
      { s with manager := { s.manager with
          recoveryCheckpoints := fun r =>
            if r = runId then some (latest.map (·.checkpointId))
            else s.manager.recoveryCheckpoints r } }

/-- The control plane over the same coordinator; a resume reads nothing else. -/
def controlPlane (s : RecoveryPlane) : ControlPlane :=
  { ControlPlane.init s.coordinator.store with coordinator := s.coordinator.toCoordinator }

/-- The resume endpoint. -/
def resumeRun (s : RecoveryPlane) (runId : String) (now : Nat) : RecoveryPlane :=
  s.withCoordinator (s.controlPlane.resumeRun runId now).1.coordinator

/-- A new control plane over the same store. -/
def restarted (s : RecoveryPlane) : RecoveryPlane where
  coordinator := s.coordinator.restarted
  manager :=
    { autoRecover := s.manager.autoRecover, hasSupervisor := s.manager.hasSupervisor }
  restarts := s.restarts

end RecoveryPlane

/-- What may happen to the coordinator and the recovery manager. -/
inductive RecoveryEvent
  | op (op : CoordinatorOp)
  | workerFailure (workerId runId : String) (callback : RestartCallback)
  | recoverRun (runId : String) (callback : RestartCallback)
  | executeRecovery (runId : String)
  | resumeRun (runId : String)
  | restart

namespace RecoveryPlane

def init (store : KVStore) (autoRecover hasSupervisor : Bool) : RecoveryPlane where
  coordinator := .init store
  manager := { autoRecover := autoRecover, hasSupervisor := hasSupervisor }

/-- Ids never repeat. -/
def drawsFreshId (c : WorkerCoordinator) (op : CoordinatorOp) : Bool :=
  c.drawsFreshRunId op &&
    match op with
    | .createCheckpoint _ _ _ checkpointId => (c.getCheckpoint checkpointId).isNone
    | _ => true

/-- Let one thing happen at a clock reading. -/
def step (s : RecoveryPlane) (event : RecoveryEvent × Nat) : Option RecoveryPlane :=
  match event.1 with
  | .op op =>
      if drawsFreshId s.coordinator op then
        some { s with coordinator := (s.coordinator.serve op event.2).1 }
      else
        none
  | .workerFailure workerId runId callback =>
      some (s.onWorkerFailure (callback.invoke runId) workerId runId event.2)
  | .recoverRun runId callback => some (s.recoverRun (callback.invoke runId) runId event.2).1
  | .executeRecovery runId => some (s.executeRecovery runId)
  | .resumeRun runId => some (s.resumeRun runId event.2)
  | .restart => some s.restarted

/-- Between two events no failure is being handled. -/
structure Settled (s : RecoveryPlane) : Prop where
  coherent : s.coordinator.Coherent
  idle : s.manager.recovering = []

section
variable {s s' : RecoveryPlane} {runId : String}

theorem Kept.settled (h : Kept s s') (hs : s.Settled) : s'.Settled :=
  ⟨h.coherent hs.coherent, h.recovering.trans hs.idle⟩

theorem Settled.notMem (hs : s.Settled) (runId : String) : runId ∉ s.manager.recovering := by
  rw [hs.idle]
  exact List.not_mem_nil

/-- A supervisor that is called outside the failure handler keeps the plane
settled: each report is handled by itself. -/
theorem kept_invoke (callback : RestartCallback) (hs : s.Settled) :
    Kept s (callback.invoke runId s).1 := by
  induction callback generalizing s with
  | answer outcome => exact .refl s
  | report workerId now nested rest _ ih =>
      have hone := (onWorkerFailure_effect now hs.coherent (hs.notMem runId)
        (quiet_invoke nested runId) workerId).1
      exact hone.trans (ih (hone.settled hs))

theorem settled_init (store : KVStore) (autoRecover hasSupervisor : Bool) :
    (init store autoRecover hasSupervisor).Settled :=
  ⟨coherent_init store, rfl⟩

/-- A manual recovery of a failed run calls the supervisor, if there is one. -/
theorem recoverRun_eq (hs : s.Settled) (supervisor : Supervisor) (runId : String) (now : Nat) :
    (s.recoverRun supervisor runId now).1 =
      if s.coordinator.runState runId = some .failed then
        if s.manager.hasSupervisor then
          (supervisor ((s.abortPendingCheckpoints runId now).recovering runId now)).1
        else s.abortPendingCheckpoints runId now
      else s := by
  unfold recoverRun
  cases hrun : s.coordinator.getRun runId with
  | none => simp [runState, hrun]
  | some status =>
      have hstate : s.coordinator.runState runId = some status.state := by simp [runState, hrun]
      rw [hstate]
      dsimp only
      split
      · next hfailed =>
        rw [if_pos (congrArg some hfailed)]
        split
        · next hsup =>
          rw [if_pos (show s.manager.hasSupervisor = true from hsup)]
          obtain ⟨moved, hok⟩ := ((coherent_aborted hs.coherent runId now).moveRun_isOk runId
            .recovering id now).mpr
              ⟨.failed, (s.runState_aborted runId now runId).trans
                (hstate.trans (congrArg some hfailed)), by decide⟩
          have hok : ((s.abortPendingCheckpoints runId now).coordinator.transitionRun runId
            .recovering now).2 = .ok moved := hok
          rw [hok]
          dsimp only
          split <;> next heq => exact (congrArg Prod.fst heq).symm
        · next hsup => rw [if_neg (show ¬ s.manager.hasSupervisor = true from hsup)]
      · next hother => rw [if_neg fun h => hother (Option.some.inj h)]

theorem kept_recoverRun (hs : s.Settled) (callback : RestartCallback) (now : Nat) :
    Kept s (s.recoverRun (callback.invoke runId) runId now).1 := by
  have haborted := s.kept_aborted runId now
  have hcalled := haborted.trans (kept_recovering _ runId now)
  rw [recoverRun_eq hs]
  split
  · split
    · exact hcalled.trans (kept_invoke callback (hcalled.settled hs))
    · exact haborted
  · exact .refl s

theorem settled_step (hs : s.Settled) {event : RecoveryEvent × Nat}
    (h : s.step event = some s') : s'.Settled := by
  obtain ⟨event, now⟩ := event
  cases event with
  | op op =>
      obtain ⟨_, hserved⟩ := Option.ite_none_right_eq_some.mp h
      obtain rfl := Option.some.inj hserved
      exact ⟨WorkerCoordinator.coherent_serve hs.coherent op now, hs.idle⟩
  | workerFailure workerId runId callback =>
      obtain rfl := Option.some.inj h
      exact (onWorkerFailure_effect now hs.coherent (hs.notMem runId)
        (quiet_invoke callback runId) workerId).1.settled hs
  | recoverRun runId callback =>
      obtain rfl := Option.some.inj h
      exact (kept_recoverRun hs callback now).settled hs
  | executeRecovery runId =>
      obtain rfl := Option.some.inj h
      show (s.executeRecovery runId).Settled
      unfold executeRecovery
      split
      · exact hs
      · exact ⟨hs.coherent, hs.idle⟩
  | resumeRun runId =>
      obtain rfl := Option.some.inj h
      have hc : s.controlPlane.coordinator.Coherent := hs.coherent
      exact ⟨(ControlPlane.resumeRun_effect hc runId now).1, hs.idle⟩
  | restart =>
      obtain rfl := Option.some.inj h
      exact ⟨s.coordinator.coherent_restarted, rfl⟩

/-- **Failure handling.**  In every state that is reached, and whatever the
supervisor does, a failure of a run is handled to the end; one of a run that is
unknown, has not started or is over changes nothing. -/
theorem failure_handled {store : KVStore} {autoRecover hasSupervisor : Bool}
    {events : List (RecoveryEvent × Nat)}
    (h : PartialRun.run step (init store autoRecover hasSupervisor) events = some s)
    (workerId runId : String) (callback : RestartCallback) (now : Nat) :
    let s' := s.onWorkerFailure (callback.invoke runId) workerId runId now
    (s.Failable runId → Handled s s' runId) ∧ (¬ s.Failable runId → Unchanged s s') := by
  have hs := PartialRun.run_invariant step (I := Settled)
    (fun _ _ _ ht hstep => settled_step ht hstep)
    (settled_init store autoRecover hasSupervisor) h
  exact (onWorkerFailure_effect now hs.coherent (hs.notMem runId) (quiet_invoke callback runId)
    workerId).2

end

/-- A running run with a committed checkpoint and an open one. -/
def busyRun : List (RecoveryEvent × Nat) :=
  [(.op (.createRun demoRun "a1"), 1), (.op (.transitionRun "a1" .running), 2),
    (.op (.createCheckpoint "a1" 10 [] "c1"), 3),
    (.op (.updateCheckpointState "c1" .committed none none none), 4),
    (.op (.createCheckpoint "a1" 20 [] "c2"), 5)]

/-- The plane afterwards. -/
def busyPlane : RecoveryPlane :=
  (PartialRun.run step (init .etcdKVStore true true) busyRun).get (by decide +kernel)

/-- A supervisor that reports two more failures and raises, and would do so
again. -/
def reportTwice : RestartCallback :=
  .report "w2" 7 (.report "w1" 7 (.answer .scheduled) (.answer .raised))
    (.report "w3" 8 (.answer .scheduled) (.answer .raised))

/-- The reports are turned away: the supervisor is called once, and the run
waits for its checkpoint. -/
theorem failure_handled_reports :
    let s' := busyPlane.onWorkerFailure (reportTwice.invoke "a1") "w1" "a1" 6
    Handled busyPlane s' "a1" ∧ s'.restarts = ["a1"] ∧
      s'.getRecoveryCheckpoint "a1" = some "c1" := by
  have hreached : PartialRun.run step (init .etcdKVStore true true) busyRun = some busyPlane :=
    (Option.some_get _).symm
  refine ⟨(failure_handled hreached "w1" "a1" reportTwice 6).1 ⟨.running, ?_, rfl⟩, ?_, ?_⟩ <;>
    decide +kernel

end RecoveryPlane

end CheckpointRuntime
