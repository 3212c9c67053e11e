import CheckpointRuntime.RestHandlers
import CheckpointRuntime.RecoveryManager

/-!
# What the handlers do to the records

For each handler, its effect on the state of every run and on every checkpoint
record.  Later modules reason with these effects only and never look inside a
handler again:

* `runState_resumeRun`, `Coherent.runState_moveRun` and the lemmas beside
  them say how the state of a run moves;
* `getCheckpoint_abortPendingCheckpoints` closes the open checkpoints of one
  run at once;
* `triggerCheckpoint_effect`, `failCheckpoint_effect`,
  `uploadShardFinish_effect` and `commitRunFinish_effect` are the four writers
  of checkpoint records;
* `Edited` is what the ends of uploads and commits, resumes and recoveries have
  in common: they rewrite records and move runs.
-/

namespace CheckpointRuntime

open KeyedTable

namespace Coordinator

/-! ## Records and runs, one at a time -/

@[simp] theorem runState_putCheckpoint (c : Coordinator) (info : CheckpointInfo)
    (runId : String) : (c.putCheckpoint info).runState runId = c.runState runId := rfl

@[simp] theorem runState_updateCheckpointState (c : Coordinator) (checkpointId : String)
    (state : CheckpointState) (summary : Option ShardSummary) (now : Nat) (runId : String) :
    (c.updateCheckpointState checkpointId state summary now).1.runState runId =
      c.runState runId := by
  rw [runState, getRun_updateCheckpointState, runState]

@[simp] theorem updatedInfo_runId (info : CheckpointInfo) (state : CheckpointState)
    (summary : Option ShardSummary) (now : Nat) :
    (updatedInfo info state summary now).runId = info.runId := rfl

@[simp] theorem updatedInfo_state (info : CheckpointInfo) (state : CheckpointState)
    (summary : Option ShardSummary) (now : Nat) :
    (updatedInfo info state summary now).state = state := rfl

@[simp] theorem updatedInfo_checkpointId (info : CheckpointInfo) (state : CheckpointState)
    (summary : Option ShardSummary) (now : Nat) :
    (updatedInfo info state summary now).checkpointId = info.checkpointId := rfl

theorem Coherent.updateCheckpointState {c : Coordinator} (hc : c.Coherent)
    (checkpointId : String) (state : CheckpointState) (summary : Option ShardSummary)
    (now : Nat) : (c.updateCheckpointState checkpointId state summary now).1.Coherent :=
  hc.of_same (fsms_updateCheckpointState ..) fun _ => runState_updateCheckpointState ..

/-- Rewriting a run record in the state that it has moves no run. -/
theorem runState_persistRun_same {c : Coordinator} {status found : RunStatus}
    (hfound : c.getRun status.runId = some found) (hstate : status.state = found.state)
    (runId : String) : (c.persistRun status).runState runId = c.runState runId := by
  by_cases h : runId = status.runId
  · subst h
    simp [runState, hfound, hstate]
  · simp [runState, h]

theorem Coherent.persistRun_same {c : Coordinator} (hc : c.Coherent)
    {status found : RunStatus} (hfound : c.getRun status.runId = some found)
    (hstate : status.state = found.state) : (c.persistRun status).Coherent :=
  hc.of_same rfl (runState_persistRun_same hfound hstate)

/-- A new run is in `CREATED`; nothing else moves. -/
theorem runState_createRun (c : Coordinator) (config : RunConfig) (runId : String) (now : Nat)
    (other : String) :
    (c.createRun config runId now).1.runState other =
      if other = runId then some .created else c.runState other := by
  by_cases h : other = runId <;> simp [createRun, runState, h]

theorem Coherent.createRun {c : Coordinator} (hc : c.Coherent) (config : RunConfig)
    (runId : String) (now : Nat) : (c.createRun config runId now).1.Coherent := by
  intro r m hm
  by_cases hr : r = runId
  · subst hr
    simp only [Coordinator.createRun, Coordinator.persistRun, cacheFsm, if_pos,
      Option.some.injEq] at hm
    refine ⟨(c.createRun config r now).2, ?_, ?_⟩
    · simp [Coordinator.createRun]
    · rw [← hm]
      rfl
  · simp only [Coordinator.createRun, Coordinator.persistRun, cacheFsm, if_neg hr] at hm
    obtain ⟨status, hstatus, hstate⟩ := hc r m hm
    exact ⟨status, by simp [Coordinator.createRun, hr, hstatus], hstate⟩

/-- Reporting a step moves no run. -/
theorem runState_updateRunStep (c : Coordinator) (runId : String) (step : Int) (now : Nat)
    (other : String) :
    (c.updateRunStep runId step now).1.runState other = c.runState other := by
  unfold updateRunStep
  split
  · rfl
  · next status hfind =>
    have hid := runId_of_getRun hfind
    let status' : RunStatus := { status with currentStep := step, updatedAt := now }
    have hfound : c.getRun status'.runId = some status := by
      rw [← hfind, ← hid]
    exact runState_persistRun_same hfound rfl other

theorem Coherent.updateRunStep {c : Coordinator} (hc : c.Coherent) (runId : String)
    (step : Int) (now : Nat) : (c.updateRunStep runId step now).1.Coherent := by
  refine hc.of_same ?_ (runState_updateRunStep c runId step now)
  unfold Coordinator.updateRunStep
  split <;> rfl

@[simp] theorem checkpoints_updateRunStep (c : Coordinator) (runId : String) (step : Int)
    (now : Nat) : (c.updateRunStep runId step now).1.checkpoints = c.checkpoints := by
  unfold updateRunStep
  split <;> rfl

/-- Creating a checkpoint for a run that exists writes one pending record. -/
theorem createCheckpoint_effect {c : Coordinator} (hc : c.Coherent) {runId : String}
    {status : RunStatus} (hrun : c.getRun runId = some status) (step : Int)
    (checkpointId : String) (now : Nat) :
    let out := c.createCheckpoint runId step checkpointId now
    out.2 = .ok { checkpointId := checkpointId, runId := runId, step := step, createdAt := now } ∧
    out.1.Coherent ∧
    (∀ other, out.1.runState other = c.runState other) ∧
    (∀ other, out.1.getCheckpoint other =
      if other = checkpointId then
        some { checkpointId := checkpointId, runId := runId, step := step, createdAt := now }
      else c.getCheckpoint other) ∧
    (∀ other, out.1.getRun other =
      if other = runId then
        some { status with lastCheckpointId := some checkpointId, updatedAt := now }
      else c.getRun other) := by
  have hid := runId_of_getRun hrun
  have hput : ∀ info : CheckpointInfo, (c.putCheckpoint info).Coherent :=
    fun info => hc.of_same rfl fun _ => rfl
  have hfound : c.getRun status.runId = some status := by rw [hid]; exact hrun
  simp only [createCheckpoint, hrun]
  refine ⟨trivial, ?_, ?_, ?_, ?_⟩
  · exact (hput _).persistRun_same hfound rfl
  · exact runState_persistRun_same hfound rfl
  · intro other
    rw [getCheckpoint_congr (checkpoints_persistRun _ _), getCheckpoint_putCheckpoint]
  · intro other
    simp [hid]

/-! ## Closing the open checkpoints of a run -/

/-- The effect of closing some checkpoints, whose ids are distinct and whose
records are current, one after another. -/
theorem getCheckpoint_foldl_abort (now : Nat) (infos : List CheckpointInfo)
    (c : Coordinator) (hdistinct : (infos.map (·.checkpointId)).Nodup)
    (hcurrent : ∀ info ∈ infos, c.getCheckpoint info.checkpointId = some info)
    (other : String) :
    (infos.foldl (RecoveryManager.abortCheckpoint now) c).getCheckpoint other =
      if ∃ info ∈ infos, info.checkpointId = other ∧ info.isOpen then
        (c.getCheckpoint other).map (fun info => updatedInfo info .failed none now)
      else c.getCheckpoint other := by
  induction infos generalizing c with
  | nil => simp
  | cons info infos ih =>
      obtain ⟨hnew, hrest⟩ := List.nodup_cons.mp hdistinct
      have hfirst := hcurrent info List.mem_cons_self
      have hstep : ∀ id, (RecoveryManager.abortCheckpoint now c info).getCheckpoint id =
          if id = info.checkpointId ∧ info.isOpen then
            (c.getCheckpoint id).map (fun info => updatedInfo info .failed none now)
          else c.getCheckpoint id := by
        intro id
        unfold RecoveryManager.abortCheckpoint
        by_cases hopen : info.isOpen
        · rw [if_pos hopen, getCheckpoint_updateCheckpointState]
          by_cases hid : id = info.checkpointId <;> simp [hid, hopen]
        · rw [if_neg hopen, if_neg (fun h => hopen h.2)]
      have hapart : ∀ later ∈ infos, later.checkpointId ≠ info.checkpointId :=
        fun later hlater heq => hnew (List.mem_map.mpr ⟨later, hlater, heq⟩)
      rw [List.foldl_cons, ih (RecoveryManager.abortCheckpoint now c info) hrest]
      · by_cases hlater : ∃ later ∈ infos, later.checkpointId = other ∧ later.isOpen
        · obtain ⟨later, hmem, rfl, hopen⟩ := hlater
          have hne := hapart later hmem
          rw [if_pos ⟨later, hmem, rfl, hopen⟩, hstep, if_neg (fun h => hne h.1),
            if_pos ⟨later, List.mem_cons_of_mem _ hmem, rfl, hopen⟩]
        · rw [if_neg hlater, hstep]
          by_cases hhere : other = info.checkpointId ∧ info.isOpen
          · rw [if_pos hhere, if_pos ⟨info, List.mem_cons_self, hhere.1.symm, hhere.2⟩]
          · rw [if_neg hhere, if_neg]
            intro h
            obtain ⟨found, hmem, hid, hopen⟩ := h
            rcases List.mem_cons.mp hmem with rfl | hmem
            · exact hhere ⟨hid.symm, hopen⟩
            · exact hlater ⟨found, hmem, hid, hopen⟩
      · intro later hlater
        rw [hstep, if_neg (fun h => hapart later hlater h.1)]
        exact hcurrent later (List.mem_cons_of_mem _ hlater)

/-- The ids of a listing are distinct. -/
theorem nodup_listCheckpoints (c : Coordinator) (runId : String) :
    ((c.listCheckpoints runId).map (·.checkpointId)).Nodup := by
  have hkeys : (c.checkpoints.rows.map (·.checkpointId)).Nodup := by
    apply List.Nodup.of_map checkpointKey
    rw [List.map_map]
    exact c.checkpoints.distinct
  rw [listCheckpoints, ((List.perm_insertionSort _ _).map _).nodup_iff]
  exact hkeys.sublist (List.filter_sublist.map _)

/-- What closing the open checkpoints of a run leaves of a record. -/
def closedFor (runId : String) (now : Nat) (info : CheckpointInfo) : CheckpointInfo :=
  if info.runId = runId ∧ info.isOpen then updatedInfo info .failed none now else info

@[simp] theorem closedFor_runId (runId : String) (now : Nat) (info : CheckpointInfo) :
    (closedFor runId now info).runId = info.runId := by
  unfold closedFor
  split <;> rfl

/-- Closing the open checkpoints of a run fails exactly those. -/
theorem getCheckpoint_abortPendingCheckpoints (c : Coordinator) (runId : String) (now : Nat)
    (other : String) :
    (RecoveryManager.abortPendingCheckpoints c runId now).getCheckpoint other =
      (c.getCheckpoint other).map (closedFor runId now) := by
  have hcurrent : ∀ info ∈ c.listCheckpoints runId,
      c.getCheckpoint info.checkpointId = some info :=
    fun info hmem => (mem_listCheckpoints.mp hmem).1
  rw [RecoveryManager.abortPendingCheckpoints,
    getCheckpoint_foldl_abort now _ c (c.nodup_listCheckpoints runId) hcurrent]
  cases hfind : c.getCheckpoint other with
  | none => simp
  | some info =>
      have hid := checkpointId_of_getCheckpoint hfind
      have hiff : (∃ found ∈ c.listCheckpoints runId,
          found.checkpointId = other ∧ found.isOpen) ↔ info.runId = runId ∧ info.isOpen := by
        constructor
        · intro h
          obtain ⟨found, hmem, hfound, hopen⟩ := h
          obtain ⟨hget, hrun⟩ := mem_listCheckpoints.mp hmem
          rw [hfound, hfind] at hget
          obtain rfl := Option.some.inj hget
          exact ⟨hrun, hopen⟩
        · intro h
          obtain ⟨hrun, hopen⟩ := h
          exact ⟨info, mem_listCheckpoints.mpr ⟨by rw [hid]; exact hfind, hrun⟩, hid, hopen⟩
      simp only [hiff, Option.map_some, closedFor]
      split <;> rfl

theorem getRun_abortPendingCheckpoints (c : Coordinator) (runId : String) (now : Nat) :
    (RecoveryManager.abortPendingCheckpoints c runId now).getRun = c.getRun ∧
      (RecoveryManager.abortPendingCheckpoints c runId now).fsms = c.fsms := by
  unfold RecoveryManager.abortPendingCheckpoints
  induction c.listCheckpoints runId generalizing c with
  | nil => exact ⟨rfl, rfl⟩
  | cons info infos ih =>
      have hone : (RecoveryManager.abortCheckpoint now c info).getRun = c.getRun ∧
          (RecoveryManager.abortCheckpoint now c info).fsms = c.fsms := by
        unfold RecoveryManager.abortCheckpoint
        split
        · exact ⟨funext fun _ => getRun_updateCheckpointState .., fsms_updateCheckpointState ..⟩
        · exact ⟨rfl, rfl⟩
      obtain ⟨hrun, hfsms⟩ := ih (RecoveryManager.abortCheckpoint now c info)
      exact ⟨hrun.trans hone.1, hfsms.trans hone.2⟩

@[simp] theorem runState_abortPendingCheckpoints (c : Coordinator) (runId : String) (now : Nat)
    (other : String) :
    (RecoveryManager.abortPendingCheckpoints c runId now).runState other =
      c.runState other := by
  rw [runState, (getRun_abortPendingCheckpoints c runId now).1, runState]

theorem Coherent.abortPendingCheckpoints {c : Coordinator} (hc : c.Coherent) (runId : String)
    (now : Nat) : (RecoveryManager.abortPendingCheckpoints c runId now).Coherent :=
  hc.of_same (getRun_abortPendingCheckpoints c runId now).2
    (runState_abortPendingCheckpoints c runId now)

end Coordinator

/-! ## Worker failures -/

open Coordinator

/-- `c'` is what handling a failure of a run makes of `c`: the run is in
`FAILED` or `RECOVERING`, and its open checkpoints are closed. -/
def FailureHandled (c c' : Coordinator) (runId : String) (now : Nat) : Prop :=
  (∀ id, c'.getCheckpoint id = (c.getCheckpoint id).map (closedFor runId now)) ∧
  (c.runState runId).isSome ∧
  ∃ state, (state = .failed ∨ state = .recovering) ∧
    ∀ r, c'.runState r = if r = runId then some state else c.runState r

/-- A recovery attempt moves the run, if there is a supervisor, and no record. -/
theorem attemptRecovery_coordinator (rm : RecoveryManager) (c : Coordinator) (runId : String)
    (restart : RestartOutcome) (now : Nat) :
    (rm.attemptRecovery c runId restart now).2 =
      if rm.hasSupervisor then (c.transitionRun runId .recovering now).1 else c := by
  unfold RecoveryManager.attemptRecovery
  split
  · dsimp only
    split
    · rfl
    · cases restart <;> rfl
  · rfl

/-- Once the run is in `FAILED`, its checkpoints are closed, and recovery is
attempted or not. -/
theorem abortAndRecover_effect (rm : RecoveryManager) {c d : Coordinator} {runId : String}
    (hd : d.Coherent) (hfailed : d.runState runId = some .failed)
    (hexists : (c.runState runId).isSome)
    (hrecords : ∀ id, d.getCheckpoint id = c.getCheckpoint id)
    (hothers : ∀ r, r ≠ runId → d.runState r = c.runState r)
    (restart : RestartOutcome) (now : Nat) :
    (rm.abortAndRecover d runId restart now).2.Coherent ∧
      FailureHandled c (rm.abortAndRecover d runId restart now).2 runId now := by
  let e := RecoveryManager.abortPendingCheckpoints d runId now
  have he : e.Coherent := hd.abortPendingCheckpoints runId now
  have hclosed : ∀ id, e.getCheckpoint id = (c.getCheckpoint id).map (closedFor runId now) := by
    intro id
    rw [getCheckpoint_abortPendingCheckpoints, hrecords]
  have hruns : ∀ r, e.runState r = if r = runId then some .failed else c.runState r := by
    intro r
    rw [runState_abortPendingCheckpoints]
    by_cases hr : r = runId
    · rw [if_pos hr, hr, hfailed]
    · rw [if_neg hr, hothers r hr]
  have hstay : e.Coherent ∧ FailureHandled c e runId now :=
    ⟨he, hclosed, hexists, .failed, Or.inl rfl, hruns⟩
  have hmoved := he.runState_moveRun runId .recovering id (fun _ => rfl) now
  have hmove : (e.transitionRun runId .recovering now).1.Coherent ∧
      FailureHandled c (e.transitionRun runId .recovering now).1 runId now := by
    refine ⟨he.moveRun _ _ _ (fun _ => rfl) _, ?_, hexists, .recovering, Or.inr rfl, ?_⟩
    · intro id
      rw [← hclosed id]
      exact getCheckpoint_congr (checkpoints_moveRun ..) id
    · intro r
      rw [transitionRun, hmoved, hruns, hruns]
      by_cases hr : r = runId
      · simp [hr, validTransitions]
      · simp [hr]
  unfold RecoveryManager.abortAndRecover
  dsimp only
  split
  · rw [attemptRecovery_coordinator]
    split
    · exact hmove
    · exact hstay
  · exact hstay

/-- A worker-failure callback leaves all records and run states alone, or it
handles the failure of its run. -/
theorem onWorkerFailure_effect (rm : RecoveryManager) {c : Coordinator} (hc : c.Coherent)
    (runId : String) (restart : RestartOutcome) (now : Nat) :
    let c' := (rm.onWorkerFailure c runId restart now).2
    c'.Coherent ∧
    (((∀ id, c'.getCheckpoint id = c.getCheckpoint id) ∧
        ∀ r, c'.runState r = c.runState r) ∨
      FailureHandled c c' runId now) := by
  have hskip : c.Coherent ∧
      (((∀ id, c.getCheckpoint id = c.getCheckpoint id) ∧ ∀ r, c.runState r = c.runState r) ∨
        FailureHandled c c runId now) :=
    ⟨hc, Or.inl ⟨fun _ => rfl, fun _ => rfl⟩⟩
  unfold RecoveryManager.onWorkerFailure
  split
  · exact hskip
  unfold RecoveryManager.handleFailure
  cases hrun : c.getRun runId with
  | none => exact hskip
  | some status =>
      have hstate : c.runState runId = some status.state := by simp [runState, hrun]
      have hexists : (c.runState runId).isSome := by rw [hstate]; rfl
      have hmoved := hc.runState_moveRun runId .failed id (fun _ => rfl) now
      have hcoherent := hc.moveRun runId .failed id (fun _ => rfl) now
      have hok := hc.moveRun_isOk runId .failed id now
      have hrecords : ∀ other, (c.moveRun runId .failed id now).1.getCheckpoint other =
          c.getCheckpoint other := getCheckpoint_congr (checkpoints_moveRun ..)
      simp only [transitionRun]
      split
      · exact hskip
      · exact hskip
      · next hfailed =>
        have heff := abortAndRecover_effect (c := c)
          { rm with recovering := runId :: rm.recovering } hc (hstate.trans (by rw [hfailed]))
          hexists (fun _ => rfl) (fun _ _ => rfl) restart now
        exact ⟨heff.1, Or.inr heff.2⟩
      · split
        · next e he =>
          -- the move was refused, so only a machine has been cached
          have hno : RunState.failed ∉ validTransitions status.state := by
            intro hmem
            obtain ⟨moved, hmoved⟩ := hok.mpr ⟨_, hstate, hmem⟩
            rw [he] at hmoved
            cases hmoved
          refine ⟨hcoherent, Or.inl ⟨hrecords, ?_⟩⟩
          intro r
          by_cases hr : r = runId
          · simp [hr, hmoved, hstate, hno]
          · simp [hr, hmoved]
        · next moved hm =>
          obtain ⟨state, hstate', hmem⟩ := hok.mp ⟨_, hm⟩
          have hfailed : (c.moveRun runId .failed id now).1.runState runId = some .failed := by
            simp [hmoved, hstate', hmem]
          have hothers : ∀ r, r ≠ runId →
              (c.moveRun runId .failed id now).1.runState r = c.runState r := by
            intro r hr
            rw [hmoved, if_neg hr]
          have heff := abortAndRecover_effect { rm with recovering := runId :: rm.recovering }
            hcoherent hfailed hexists hrecords hothers restart now
          exact ⟨heff.1, Or.inr heff.2⟩

/-! ## Endpoints -/

namespace ControlPlane

/-- Triggering a checkpoint of a running run opens one record and moves the
run to `CHECKPOINTING`. -/
theorem triggerCheckpoint_running {cp : ControlPlane} (hc : cp.coordinator.Coherent)
    {runId : String} {status : RunStatus} (hrun : cp.coordinator.getRun runId = some status)
    (hrunning : status.state = .running) (step : Option Int) (checkpointId : String)
    (now : Nat) :
    let out := cp.triggerCheckpoint runId step checkpointId now
    let info : CheckpointInfo :=
      { checkpointId := checkpointId, runId := runId, step := step.getD status.currentStep,
        createdAt := now }
    out.2 = .ok info ∧ out.1.coordinator.Coherent ∧
    out.1.checkpointShards = cp.checkpointShards ∧
    (∀ r, out.1.coordinator.runState r =
      if r = runId then some .checkpointing else cp.coordinator.runState r) ∧
    (∀ other, out.1.coordinator.getCheckpoint other =
      if other = checkpointId then some info else cp.coordinator.getCheckpoint other) ∧
    (∀ r, r ≠ runId → out.1.coordinator.getRun r = cp.coordinator.getRun r) ∧
    ∃ status', out.1.coordinator.getRun runId = some status' ∧
      status'.lastCheckpointId = some checkpointId := by
  have hvalid : RunState.checkpointing ∈
      validTransitions (cp.coordinator.machine runId status.state).state := by
    rw [hc.machine_state hrun, hrunning]
    decide
  have hmoved := hc.runState_moveRun runId .checkpointing id (fun _ => rfl) now
  have hcoherent := hc.moveRun runId .checkpointing id (fun _ => rfl) now
  have hrecords := getCheckpoint_congr
    (checkpoints_moveRun cp.coordinator runId .checkpointing id now)
  obtain ⟨hresult, hget, _⟩ := moveRun_valid hrun hvalid id (fun _ => rfl) now
  obtain ⟨hcreated, hcoherent', hruns, hinfos, hget'⟩ := createCheckpoint_effect hcoherent hget
    (step.getD status.currentStep) checkpointId now
  have hstate : cp.coordinator.runState runId = some .running := by
    simp [runState, hrun, hrunning]
  simp only [triggerCheckpoint, transitionRun, hresult, id]
  refine ⟨by rw [hcreated]; rfl, hcoherent', trivial, ?_, ?_, ?_, ?_⟩
  · intro r
    rw [hruns, hmoved, hstate]
    by_cases hr : r = runId <;> simp [hr, validTransitions]
  · intro other
    rw [hinfos, hrecords]
  · intro r hr
    rw [hget', if_neg hr]
    exact getRun_moveRun_of_ne cp.coordinator .checkpointing id (fun _ => rfl) now hr
  · exact ⟨_, by rw [hget', if_pos rfl], rfl⟩

/-- Triggering a checkpoint of any other run answers an error and changes no
record. -/
theorem triggerCheckpoint_refused {cp : ControlPlane} (hc : cp.coordinator.Coherent)
    {runId : String} (hstate : cp.coordinator.runState runId ≠ some .running)
    (step : Option Int) (checkpointId : String) (now : Nat) :
    let out := cp.triggerCheckpoint runId step checkpointId now
    (∃ e, out.2 = .error e) ∧ out.1.coordinator.Coherent ∧
    out.1.checkpointShards = cp.checkpointShards ∧
    out.1.coordinator.getRun = cp.coordinator.getRun ∧
    ∀ other, out.1.coordinator.getCheckpoint other = cp.coordinator.getCheckpoint other := by
  have hcoherent := hc.moveRun runId .checkpointing id (fun _ => rfl) now
  have hrecords := getCheckpoint_congr
    (checkpoints_moveRun cp.coordinator runId .checkpointing id now)
  cases hrun : cp.coordinator.getRun runId with
  | none =>
      simp only [triggerCheckpoint, transitionRun, moveRun_missing hrun]
      exact ⟨⟨_, rfl⟩, hc, trivial, trivial, fun _ => trivial⟩
  | some status =>
      have hinvalid : RunState.checkpointing ∉
          validTransitions (cp.coordinator.machine runId status.state).state := by
        rw [hc.machine_state hrun, checkpointing_mem_validTransitions]
        intro hrunning
        exact hstate (by simp [runState, hrun, hrunning])
      obtain ⟨hresult, hget⟩ := moveRun_invalid hrun hinvalid id now
      simp only [triggerCheckpoint, transitionRun, hresult]
      exact ⟨⟨_, rfl⟩, hcoherent, trivial, hget, hrecords⟩

/-- Where `resume_run` takes a run. -/
def resumed : RunState → RunState
  | .failed => .recovering
  | .cancelled => .cancelled
  | .completed => .completed
  | _ => .running

/-- A resume touches the coordinator at most by one move. -/
theorem resumeRun_coordinator {cp : ControlPlane} {runId : String} {status : RunStatus}
    (hrun : cp.coordinator.getRun runId = some status) (now : Nat) :
    (cp.resumeRun runId now).1.coordinator =
      (if resumed status.state = status.state then cp.coordinator
       else (cp.coordinator.transitionRun runId (resumed status.state) now).1) ∧
    (cp.resumeRun runId now).1.checkpointShards = cp.checkpointShards := by
  unfold resumeRun
  rw [hrun]
  cases status with
  | mk _ _ state =>
      -- a run that stays answers at once; a moved one may also clear its restart attempt
      cases state <;> dsimp only [resumed] <;>
        first
        | exact ⟨rfl, rfl⟩
        | (split <;> first | exact ⟨rfl, rfl⟩ | (split <;> exact ⟨rfl, rfl⟩))

/-- Resuming moves the run and nothing else. -/
theorem resumeRun_effect {cp : ControlPlane} (hc : cp.coordinator.Coherent) (runId : String)
    (now : Nat) :
    let out := (cp.resumeRun runId now).1
    out.coordinator.Coherent ∧ out.checkpointShards = cp.checkpointShards ∧
    (∀ other, out.coordinator.getCheckpoint other = cp.coordinator.getCheckpoint other) ∧
    ∀ r, out.coordinator.runState r =
      if r = runId then (cp.coordinator.runState runId).map resumed
      else cp.coordinator.runState r := by
  cases hrun : cp.coordinator.getRun runId with
  | none =>
      simp only [resumeRun, hrun]
      refine ⟨hc, trivial, fun _ => trivial, ?_⟩
      intro r
      by_cases hr : r = runId <;> simp [hr, runState, hrun]
  | some status =>
      obtain ⟨hcoordinator, hshards⟩ := resumeRun_coordinator hrun now
      have hstate : cp.coordinator.runState runId = some status.state := by simp [runState, hrun]
      have hmoved := hc.runState_moveRun runId (resumed status.state) id
        (fun _ => rfl) now
      have hvalid : resumed status.state = status.state ∨
          resumed status.state ∈ validTransitions status.state := by
        cases status.state <;> decide
      dsimp only
      rw [hcoordinator]
      refine ⟨?_, hshards, ?_, ?_⟩
      · split
        · exact hc
        · exact hc.moveRun _ _ _ (fun _ => rfl) _
      · intro other
        split
        · rfl
        · exact getCheckpoint_congr (checkpoints_moveRun ..) other
      · intro r
        split
        · next hsame =>
          by_cases hr : r = runId <;> simp [hr, hstate, hsame]
        · next hmove =>
          have hmem := hvalid.resolve_left hmove
          rw [transitionRun, hmoved, hstate]
          by_cases hr : r = runId <;> simp [hr, hmem]

/-- A heartbeat moves no run and touches no checkpoint. -/
theorem heartbeatStep_effect {cp : ControlPlane} (hc : cp.coordinator.Coherent)
    (runId : String) (step : Int) (now : Nat) :
    let out := cp.heartbeatStep runId step now
    out.coordinator.Coherent ∧ out.checkpointShards = cp.checkpointShards ∧
    (∀ other, out.coordinator.getCheckpoint other = cp.coordinator.getCheckpoint other) ∧
    ∀ r, out.coordinator.runState r = cp.coordinator.runState r := by
  have hsame : cp.coordinator.Coherent ∧ cp.checkpointShards = cp.checkpointShards ∧
      (∀ other, cp.coordinator.getCheckpoint other = cp.coordinator.getCheckpoint other) ∧
      ∀ r, cp.coordinator.runState r = cp.coordinator.runState r :=
    ⟨hc, rfl, fun _ => rfl, fun _ => rfl⟩
  unfold heartbeatStep
  split
  · exact hsame
  · split
    · exact ⟨hc.updateRunStep runId step now, rfl,
        getCheckpoint_congr (checkpoints_updateRunStep ..), runState_updateRunStep _ _ _ _⟩
    · exact hsame

/-! ## The writers of checkpoint records -/

/-- The failure path leaves the control plane as `_abort_failed_checkpoint`
does. -/
theorem failCheckpoint_fst {α : Type} (cp : ControlPlane)
    (runId checkpointId failureMessage : String) (exception : HttpException) (now : Nat) :
    (cp.failCheckpoint (α := α) runId checkpointId failureMessage exception now).1 =
      cp.abortFailedCheckpoint runId checkpointId failureMessage now := by
  simp only [failCheckpoint]
  split <;> rfl

/-- The failure path closes one record, and no other. -/
theorem getCheckpoint_abortFailedCheckpoint (cp : ControlPlane)
    (runId checkpointId failureMessage : String) (now : Nat) (other : String) :
    (cp.abortFailedCheckpoint runId checkpointId failureMessage now).coordinator.getCheckpoint
        other =
      if other = checkpointId then
        (cp.coordinator.getCheckpoint checkpointId).map
          (fun info => updatedInfo info .failed none now)
      else cp.coordinator.getCheckpoint other := by
  rw [← getCheckpoint_updateCheckpointState]
  exact getCheckpoint_congr (checkpoints_moveRun ..) other

/-- The failure path fails its run, or leaves it as it was. -/
theorem runState_abortFailedCheckpoint (cp : ControlPlane)
    (runId checkpointId failureMessage : String) (now : Nat) :
    let c' := (cp.abortFailedCheckpoint runId checkpointId failureMessage now).coordinator
    c'.runState runId = cp.coordinator.runState runId ∨ c'.runState runId = some .failed := by
  let c := (cp.coordinator.updateCheckpointState checkpointId .failed none now).1
  have hmoved := runState_moveRun_self c runId .failed
    (fun status => { status with errorMessage := some failureMessage }) (fun _ => rfl) now
  rw [show c.runState runId = cp.coordinator.runState runId from
    runState_updateCheckpointState ..] at hmoved
  exact hmoved

/-- The failure path closes one record and fails its run, if the run can
fail; the uploaded shards are forgotten. -/
theorem failCheckpoint_effect {α : Type} {cp : ControlPlane} (hc : cp.coordinator.Coherent)
    (runId checkpointId failureMessage : String) (exception : HttpException) (now : Nat) :
    let out := (cp.failCheckpoint (α := α) runId checkpointId failureMessage exception now).1
    out.coordinator.Coherent ∧
    out.checkpointShards = (cp.setShards checkpointId none).checkpointShards ∧
    (∀ other, out.coordinator.getCheckpoint other =
      if other = checkpointId then
        (cp.coordinator.getCheckpoint checkpointId).map
          (fun info => updatedInfo info .failed none now)
      else cp.coordinator.getCheckpoint other) ∧
    ∀ r, out.coordinator.runState r =
      if r = runId then (cp.coordinator.runState runId).map
        (fun state => if .failed ∈ validTransitions state then .failed else state)
      else cp.coordinator.runState r := by
  have hupdated := hc.updateCheckpointState checkpointId .failed none now
  have hedit : ∀ status : RunStatus,
      ({ status with errorMessage := some failureMessage } : RunStatus).runId = status.runId :=
    fun _ => rfl
  dsimp only
  rw [failCheckpoint_fst]
  refine ⟨hupdated.moveRun runId .failed _ hedit now, rfl, ?_, ?_⟩
  · exact getCheckpoint_abortFailedCheckpoint cp runId checkpointId failureMessage now
  · intro r
    have hmoved := hupdated.runState_moveRun runId .failed _ hedit now r
    rw [runState_updateCheckpointState, runState_updateCheckpointState] at hmoved
    exact hmoved

/-- Whether an answer of the data plane to an upload reports success. -/
def uploadAccepted : Except String WriteShardResult → Bool
  | .ok result => result.success
  | .error _ => false

/-- Whether an answer of the data plane to a commit reports success. -/
def commitAccepted : Except String CommitResponse → Bool
  | .ok response => response.success
  | .error _ => false

/-- An upload that the data plane has not accepted takes the failure path. -/
theorem uploadShardFinish_rejected (cp : ControlPlane) (call : UploadCall)
    {reply : Except String WriteShardResult} (hreply : uploadAccepted reply = false)
    (now : Nat) :
    ∃ failureMessage exception, cp.uploadShardFinish call reply now =
      cp.failCheckpoint call.runId call.checkpointId failureMessage exception now := by
  cases reply with
  | error e => exact ⟨_, _, rfl⟩
  | ok result =>
      simp only [uploadAccepted] at hreply
      simp only [uploadShardFinish, hreply, Bool.false_eq_true, if_false]
      exact ⟨_, _, rfl⟩

/-- A commit that the data plane has not accepted takes the failure path. -/
theorem commitRunFinish_rejected (cp : ControlPlane) (call : CommitCall)
    {reply : Except String CommitResponse} (hreply : commitAccepted reply = false)
    (now : Nat) :
    ∃ failureMessage exception, cp.commitRunFinish call reply now =
      cp.failCheckpoint call.runId call.checkpointId failureMessage exception now := by
  cases reply with
  | error e => exact ⟨_, _, rfl⟩
  | ok result =>
      simp only [commitAccepted] at hreply
      simp only [commitRunFinish, hreply, Bool.false_eq_true, if_false]
      exact ⟨_, _, rfl⟩

/-- The shards of a checkpoint once an upload has been acknowledged. -/
def shardsAfter (cp : ControlPlane) (call : UploadCall) (result : WriteShardResult) :
    List ShardInfo :=
  cp.shardsOf call.checkpointId ++ [shardInfoOf call result]

/-- An acknowledged upload is remembered, and its record is overwritten with
`IN_PROGRESS` whatever its state was. -/
theorem uploadShardFinish_accepted {cp : ControlPlane} (hc : cp.coordinator.Coherent)
    (call : UploadCall) {result : WriteShardResult} (hresult : result.success = true)
    (now : Nat) :
    let out := (cp.uploadShardFinish call (.ok result) now).1
    out.coordinator.Coherent ∧
    out.checkpointShards =
      (cp.setShards call.checkpointId (some (cp.shardsAfter call result))).checkpointShards ∧
    (∀ other, out.coordinator.getCheckpoint other =
      if other = call.checkpointId then
        (cp.coordinator.getCheckpoint call.checkpointId).map (fun info =>
          updatedInfo info .inProgress (some (shardSummary (cp.shardsAfter call result))) now)
      else cp.coordinator.getCheckpoint other) ∧
    ∀ r, out.coordinator.runState r = cp.coordinator.runState r := by
  have hupdated := hc.updateCheckpointState call.checkpointId .inProgress
    (some (shardSummary (cp.shardsAfter call result))) now
  simp only [uploadShardFinish, hresult, if_true]
  refine ⟨hupdated, rfl, ?_, ?_⟩
  · exact getCheckpoint_updateCheckpointState _ _ _ _ _
  · exact runState_updateCheckpointState _ _ _ _ _

/-- An accepted upload answers at once, and appends one entry to the shards of
its checkpoint. -/
theorem uploadShardFinish_answers (cp : ControlPlane) (call : UploadCall)
    {result : WriteShardResult} (hresult : result.success = true) (now : Nat) :
    let out := cp.uploadShardFinish call (.ok result) now
    (∃ answer, out.2 = .answer answer) ∧
    out.1.checkpointShards =
      (cp.setShards call.checkpointId (some (cp.shardsAfter call result))).checkpointShards ∧
    out.1.dpConnected = cp.dpConnected := by
  simp only [uploadShardFinish, hresult, if_true]
  refine ⟨?_, rfl, rfl⟩
  split <;> exact ⟨_, rfl⟩

/-- What a commit that the data plane has accepted writes before it looks at
the run: the shards are forgotten, and the record is `COMMITTED` whatever its
state was.  The rest of the handler moves the run. -/
theorem commitRunFinish_accepted (cp : ControlPlane) (call : CommitCall)
    {response : CommitResponse} (hresponse : response.success = true)
    {info : CheckpointInfo}
    (hinfo : cp.coordinator.getCheckpoint call.checkpointId = some info) (now : Nat) :
    let c := (cp.coordinator.updateCheckpointState call.checkpointId .committed none now).1
    let moved := c.transitionRun call.runId .committed now
    let resumed := moved.1.transitionRun call.runId .running now
    cp.commitRunFinish call (.ok response) now =
      match moved.2 with
      | .error e =>
          ({ cp.setShards call.checkpointId none with coordinator := moved.1 },
            .answer (.error (transitionError e)))
      | .ok _ =>
          ({ cp.setShards call.checkpointId none with coordinator := resumed.1 },
            .answer (resumed.2.mapError transitionError)) := by
  have hresult : ((cp.setShards call.checkpointId none).coordinator.updateCheckpointState
      call.checkpointId .committed none now).2 = .ok (updatedInfo info .committed none now) := by
    show (cp.coordinator.updateCheckpointState call.checkpointId .committed none now).2 = _
    rw [updateCheckpointState_result, hinfo]
  simp only [commitRunFinish, hresponse, if_true, hresult]
  split <;> rename_i h <;> simp only [setShards] at h <;> simp only [h] <;> rfl

/-- If the record is gone, an accepted commit only forgets the shards. -/
theorem commitRunFinish_missing (cp : ControlPlane) (call : CommitCall)
    {response : CommitResponse} (hresponse : response.success = true)
    (hinfo : cp.coordinator.getCheckpoint call.checkpointId = none) (now : Nat) :
    cp.commitRunFinish call (.ok response) now =
      (cp.setShards call.checkpointId none, .answer (.error internalServerError)) := by
  have hmissing : (cp.setShards call.checkpointId none).coordinator.getCheckpoint
      call.checkpointId = none := hinfo
  simp only [commitRunFinish, hresponse, if_true, updateCheckpointState, hmissing]

/-- A commit that the data plane has accepted overwrites its record, and no
other. -/
theorem getCheckpoint_commitRunFinish (cp : ControlPlane) (call : CommitCall)
    {response : CommitResponse} (hresponse : response.success = true) (now : Nat)
    (other : String) :
    (cp.commitRunFinish call (.ok response) now).1.coordinator.getCheckpoint other =
      if other = call.checkpointId then
        (cp.coordinator.getCheckpoint call.checkpointId).map
          (fun info => updatedInfo info .committed none now)
      else cp.coordinator.getCheckpoint other := by
  rw [← getCheckpoint_updateCheckpointState]
  cases hinfo : cp.coordinator.getCheckpoint call.checkpointId with
  | none =>
      rw [commitRunFinish_missing cp call hresponse hinfo, updateCheckpointState, hinfo]
      rfl
  | some info =>
      let c := (cp.coordinator.updateCheckpointState call.checkpointId .committed none now).1
      have hmoved : (c.transitionRun call.runId .committed now).1.getCheckpoint other =
          c.getCheckpoint other := getCheckpoint_congr (checkpoints_moveRun ..) other
      rw [commitRunFinish_accepted cp call hresponse hinfo]
      split
      · exact hmoved
      · rw [← hmoved]
        exact getCheckpoint_congr (checkpoints_moveRun ..) other

/-- An accepted commit answers at once, and forgets the shards of its
checkpoint. -/
theorem commitRunFinish_answers (cp : ControlPlane) (call : CommitCall)
    {response : CommitResponse} (hresponse : response.success = true) (now : Nat) :
    let out := cp.commitRunFinish call (.ok response) now
    (∃ answer, out.2 = .answer answer) ∧
    out.1.checkpointShards = (cp.setShards call.checkpointId none).checkpointShards ∧
    out.1.dpConnected = cp.dpConnected := by
  cases hinfo : cp.coordinator.getCheckpoint call.checkpointId with
  | none =>
      rw [commitRunFinish_missing cp call hresponse hinfo]
      exact ⟨⟨_, rfl⟩, rfl, rfl⟩
  | some info =>
      rw [commitRunFinish_accepted cp call hresponse hinfo]
      dsimp only
      split <;> exact ⟨⟨_, rfl⟩, rfl, rfl⟩

/-- If the machine of the run is in `CHECKPOINTING`, such a commit answers 200
and the run is back in `RUNNING`. -/
theorem commitRunFinish_checkpointing {cp : ControlPlane} {call : CommitCall}
    {response : CommitResponse} (hresponse : response.success = true)
    {info : CheckpointInfo}
    (hinfo : cp.coordinator.getCheckpoint call.checkpointId = some info)
    {status : RunStatus} (hrun : cp.coordinator.getRun call.runId = some status)
    (hmachine : (cp.coordinator.machine call.runId status.state).state = .checkpointing)
    (now : Nat) :
    let out := cp.commitRunFinish call (.ok response) now
    ∃ final, out.2 = .answer (.ok final) ∧
      out.1.coordinator.getRun call.runId = some final ∧ final.state = .running := by
  let c := (cp.coordinator.updateCheckpointState call.checkpointId .committed none now).1
  have hrun' : c.getRun call.runId = some status := by
    rw [getRun_updateCheckpointState]
    exact hrun
  have hmachine' : (c.machine call.runId status.state).state = .checkpointing := by
    rw [← hmachine, machine, machine, fsms_updateCheckpointState]
  obtain ⟨hmoved, hget, hafter⟩ := moveRun_valid hrun'
    (show RunState.committed ∈ _ by rw [hmachine']; decide) id (fun _ => rfl) now
  obtain ⟨hresumed, hget', _⟩ := moveRun_valid hget
    (show RunState.running ∈ _ by rw [hafter]; decide) id (fun _ => rfl) now
  dsimp only
  rw [commitRunFinish_accepted cp call hresponse hinfo]
  simp only [transitionRun, c] at hmoved hresumed hget' ⊢
  simp only [hmoved, hresumed, hget', Except.mapError]
  exact ⟨_, rfl, rfl, rfl⟩

/-- Otherwise such a commit answers an error, and the run stays as it is. -/
theorem commitRunFinish_refused {cp : ControlPlane} {call : CommitCall}
    {response : CommitResponse} (hresponse : response.success = true)
    {info : CheckpointInfo}
    (hinfo : cp.coordinator.getCheckpoint call.checkpointId = some info)
    {status : RunStatus} (hrun : cp.coordinator.getRun call.runId = some status)
    (hmachine : (cp.coordinator.machine call.runId status.state).state ≠ .checkpointing)
    (now : Nat) :
    let out := cp.commitRunFinish call (.ok response) now
    (∃ e, out.2 = .answer (.error e)) ∧ out.1.coordinator.getRun = cp.coordinator.getRun := by
  let c := (cp.coordinator.updateCheckpointState call.checkpointId .committed none now).1
  have hsame : c.getRun = cp.coordinator.getRun :=
    funext fun _ => getRun_updateCheckpointState ..
  have hrun' : c.getRun call.runId = some status := by
    rw [hsame]
    exact hrun
  have hinvalid : RunState.committed ∉
      validTransitions (c.machine call.runId status.state).state := by
    rw [committed_mem_validTransitions, machine, fsms_updateCheckpointState]
    exact hmachine
  obtain ⟨hmoved, hget⟩ := moveRun_invalid hrun' hinvalid id now
  dsimp only
  rw [commitRunFinish_accepted cp call hresponse hinfo]
  simp only [transitionRun, c] at hmoved hget ⊢
  simp only [hmoved]
  exact ⟨⟨_, rfl⟩, hget.trans hsame⟩

/-- Where a successful commit leaves a run: only a run in `CHECKPOINTING` moves
(through `COMMITTED`), and it is back in `RUNNING`. -/
def afterCommit : RunState → RunState
  | .checkpointing => .running
  | state => state

/-- What an accepted commit does to the states of runs. -/
theorem runState_commitRunFinish {cp : ControlPlane} (hc : cp.coordinator.Coherent)
    (call : CommitCall) {response : CommitResponse} (hresponse : response.success = true)
    {info : CheckpointInfo}
    (hinfo : cp.coordinator.getCheckpoint call.checkpointId = some info) (now : Nat) :
    let out := (cp.commitRunFinish call (.ok response) now).1
    out.coordinator.Coherent ∧
    ∀ r, out.coordinator.runState r =
      if r = call.runId then (cp.coordinator.runState call.runId).map afterCommit
      else cp.coordinator.runState r := by
  let c := (cp.coordinator.updateCheckpointState call.checkpointId .committed none now).1
  have hcoherent : c.Coherent := hc.updateCheckpointState call.checkpointId .committed none now
  have hruns : ∀ r, c.runState r = cp.coordinator.runState r :=
    runState_updateCheckpointState _ _ _ _ _
  have hcommitted := hcoherent.runState_moveRun call.runId .committed id
    (fun _ => rfl) now
  have hcoherent' := hcoherent.moveRun call.runId .committed id (fun _ => rfl) now
  have hresumed := hcoherent'.runState_moveRun call.runId .running id
    (fun _ => rfl) now
  have hok := hcoherent.moveRun_isOk call.runId .committed id now
  dsimp only
  rw [commitRunFinish_accepted cp call hresponse hinfo]
  split
  · next e he =>
    have hno : ∀ state, c.runState call.runId = some state → state ≠ .checkpointing := by
      intro state hstate h
      subst h
      obtain ⟨moved, hmoved⟩ := hok.mpr ⟨_, hstate, by decide⟩
      rw [transitionRun, hmoved] at he
      cases he
    refine ⟨hcoherent', ?_⟩
    intro r
    show (c.moveRun call.runId .committed id now).1.runState r = _
    rw [hcommitted, ← hruns, ← hruns]
    by_cases hr : r = call.runId
    · rw [if_pos hr, if_pos hr]
      cases hstate : c.runState call.runId with
      | none => rfl
      | some state =>
          have hne := hno state hstate
          have hinvalid : RunState.committed ∉ validTransitions state :=
            fun h => hne (committed_mem_validTransitions.mp h)
          simp only [Option.map_some, if_neg hinvalid]
          cases state <;> first | rfl | exact absurd rfl hne
    · rw [if_neg hr, if_neg hr]
  · next moved hm =>
    obtain ⟨state, hstate, hvalid⟩ := hok.mp ⟨moved, hm⟩
    obtain rfl := committed_mem_validTransitions.mp hvalid
    refine ⟨hcoherent'.moveRun call.runId .running id (fun _ => rfl) now, ?_⟩
    intro r
    show ((c.moveRun call.runId .committed id now).1.moveRun call.runId .running id now).1.runState
      r = _
    rw [hresumed, hcommitted, hcommitted, hstate, ← hruns, ← hruns, hstate]
    by_cases hr : r = call.runId
    · simp [hr, afterCommit, validTransitions]
    · simp [hr]

/-! ## What the handlers check first -/

/-- An upload passes its first check when its record exists under its run. -/
theorem uploadShardCheck_eq_ok {cp : ControlPlane} {runId checkpointId : String} :
    cp.uploadShardCheck runId checkpointId = .ok () ↔
      cp.dpConnected = true ∧
      ∃ info, cp.coordinator.getCheckpoint checkpointId = some info ∧ info.runId = runId := by
  unfold uploadShardCheck
  cases cp.dpConnected <;> cases hinfo : cp.coordinator.getCheckpoint checkpointId with
  | none => simp
  | some info => simp

/-- The rank that a header stands for; a missing one is zero. -/
def RankHeader.rank : RankHeader → Int
  | .value rank => rank
  | _ => 0

/-- An upload with a received body: the body is not empty, and the rank can be
read. -/
theorem uploadShardReceive_eq_ok {runId checkpointId shardId : String} {body : Bytes}
    {header : RankHeader} {call : UploadCall} :
    uploadShardReceive runId checkpointId shardId body header = .ok call ↔
      body ≠ [] ∧ header ≠ .malformed ∧
      call = { runId := runId, checkpointId := checkpointId, shardId := shardId,
               rank := header.rank, body := body } := by
  unfold uploadShardReceive
  cases body with
  | nil => simp
  | cons byte body => cases header <;> simp [RankHeader.rank, eq_comm]

/-- The checkpoint that a commit picks is one of its run, in progress. -/
theorem activeCheckpoint_spec {cp : ControlPlane} {runId : String} {active : CheckpointInfo}
    (h : cp.activeCheckpoint runId = some active) :
    cp.coordinator.getCheckpoint active.checkpointId = some active ∧
      active.runId = runId ∧ active.state = .inProgress := by
  have hmem := List.mem_reverse.mp (List.mem_of_find?_eq_some h)
  have hstate := List.find?_some h
  obtain ⟨hget, hrun⟩ := mem_listCheckpoints.mp hmem
  exact ⟨hget, hrun, of_decide_eq_true hstate⟩

/-- What a commit has found when it calls the data plane. -/
theorem commitRunBegin_eq_ok {cp : ControlPlane} {runId : String} {call : CommitCall} :
    cp.commitRunBegin runId = .ok call ↔
      (∃ status, cp.coordinator.getRun runId = some status) ∧
      ∃ active, cp.activeCheckpoint runId = some active ∧ cp.dpConnected = true ∧
        cp.shardsOf active.checkpointId ≠ [] ∧
        call = { runId := runId, checkpointId := active.checkpointId, step := active.step,
                 shards := cp.shardsOf active.checkpointId } := by
  unfold commitRunBegin
  cases cp.coordinator.getRun runId with
  | none => simp
  | some status =>
      cases cp.activeCheckpoint runId with
      | none => simp
      | some active =>
          cases cp.dpConnected with
          | false => simp
          | true =>
              by_cases hempty : cp.shardsOf active.checkpointId = []
              · simp [hempty]
              · have hnonempty : (cp.shardsOf active.checkpointId).isEmpty = false :=
                  List.isEmpty_eq_false_iff.mpr hempty
                simp only [hnonempty, if_true, Bool.false_eq_true, if_false]
                constructor
                · intro h
                  exact ⟨⟨status, rfl⟩, active, rfl, trivial, hempty, (Except.ok.inj h).symm⟩
                · intro h
                  obtain ⟨_, found, hfound, _, _, rfl⟩ := h
                  obtain rfl := Option.some.inj hfound
                  rfl

/-- The manifest entry of a remembered shard whose rank is in range. -/
def manifestShardOf (shard : ShardInfo) : ManifestShard where
  shardId := shard.shardId
  rank := shard.rank.toNat
  sizeBytes := shard.sizeBytes
  sha256 := shard.sha256
  storageKey := shard.storageKey

theorem mapM_protoShard_eq_ok {shards : List ShardInfo} {out : List ManifestShard}
    (h : shards.mapM protoShard = .ok out) : out = shards.map manifestShardOf := by
  induction shards generalizing out with
  | nil => exact (Except.ok.inj h).symm
  | cons shard shards ih =>
      rw [List.mapM_cons] at h
      cases hone : protoShard shard with
      | error e => simp [hone, bind, Except.bind] at h
      | ok entry =>
          cases hrest : shards.mapM protoShard with
          | error e => simp [hone, hrest, bind, Except.bind] at h
          | ok entries =>
              simp only [hone, hrest, bind, Except.bind, pure, Except.pure, Except.ok.injEq] at h
              have hentry : entry = manifestShardOf shard := by
                unfold protoShard at hone
                split at hone
                · exact (Except.ok.inj hone).symm
                · cases hone
              rw [← h, List.map_cons, hentry, ih hrest]

/-- A commit request carries the ids of the call and one entry for each of its
shards. -/
theorem CommitCall.request_eq_ok {call : CommitCall} {request : CommitRequest}
    (h : call.request = .ok request) :
    request = { checkpointId := call.checkpointId, runId := call.runId, step := call.step.toNat,
                shards := call.shards.map manifestShardOf } := by
  unfold CommitCall.request at h
  cases hshards : call.shards.mapM protoShard with
  | error e => simp [hshards, bind, Except.bind] at h
  | ok entries =>
      simp only [hshards, bind, Except.bind] at h
      split at h
      · rw [← Except.ok.inj h, mapM_protoShard_eq_ok hshards]
      · cases h

end ControlPlane

/-! ## Edits of the records -/

namespace Coordinator

/-- The store of `d` is that of `c` after checkpoint records were rewritten and
runs moved, none of them to `CHECKPOINTING`. -/
inductive Edited (c : Coordinator) : Coordinator → Prop
  | refl : Edited c c
  | checkpoint {d : Coordinator} (h : Edited c d) (checkpointId : String)
      (state : CheckpointState) (summary : Option ShardSummary) (now : Nat) :
      Edited c (d.updateCheckpointState checkpointId state summary now).1
  | run {d : Coordinator} (h : Edited c d) (runId : String) (target : RunState)
      (edit : RunStatus → RunStatus) (hedit : ∀ status, (edit status).runId = status.runId)
      (htarget : target ≠ .checkpointing) (now : Nat) :
      Edited c (d.moveRun runId target edit now).1

theorem Edited.transition {c d : Coordinator} (h : Edited c d) (runId : String)
    {target : RunState} (htarget : target ≠ .checkpointing) (now : Nat) :
    Edited c (d.transitionRun runId target now).1 :=
  h.run runId target id (fun _ => rfl) htarget now

theorem Edited.abortPendingCheckpoints {c d : Coordinator} (h : Edited c d) (runId : String)
    (now : Nat) : Edited c (RecoveryManager.abortPendingCheckpoints d runId now) := by
  unfold RecoveryManager.abortPendingCheckpoints
  induction d.listCheckpoints runId generalizing d with
  | nil => exact h
  | cons info infos ih =>
      apply ih
      unfold RecoveryManager.abortCheckpoint
      split
      · exact h.checkpoint info.checkpointId .failed none now
      · exact h

theorem Edited.abortAndRecover {c d : Coordinator} (h : Edited c d) (rm : RecoveryManager)
    (runId : String) (restart : RestartOutcome) (now : Nat) :
    Edited c (rm.abortAndRecover d runId restart now).2 := by
  have hclosed := h.abortPendingCheckpoints runId now
  unfold RecoveryManager.abortAndRecover
  dsimp only
  split
  · rw [attemptRecovery_coordinator]
    split
    · exact hclosed.transition runId (by decide) now
    · exact hclosed
  · exact hclosed

end Coordinator

theorem RecoveryManager.edited_onWorkerFailure (rm : RecoveryManager) (c : Coordinator)
    (runId : String) (restart : RestartOutcome) (now : Nat) :
    c.Edited (rm.onWorkerFailure c runId restart now).2 := by
  have hfailed : c.Edited (c.transitionRun runId .failed now).1 :=
    Edited.refl.transition runId (by decide) now
  unfold onWorkerFailure
  split
  · exact .refl
  · unfold handleFailure
    dsimp only
    split
    · exact .refl
    · split
      · exact .refl
      · exact .refl
      · exact Edited.refl.abortAndRecover ..
      · split
        · exact hfailed
        · exact hfailed.abortAndRecover ..

namespace ControlPlane

theorem edited_resumeRun (cp : ControlPlane) (runId : String) (now : Nat) :
    cp.coordinator.Edited (cp.resumeRun runId now).1.coordinator := by
  cases hrun : cp.coordinator.getRun runId with
  | none =>
      simp only [resumeRun, hrun]
      exact .refl
  | some status =>
      have htarget : resumed status.state ≠ .checkpointing := by
        cases status.state <;> decide
      rw [(resumeRun_coordinator hrun now).1]
      split
      · exact .refl
      · exact Edited.refl.transition runId htarget now

theorem edited_failCheckpoint {α : Type} (cp : ControlPlane)
    (runId checkpointId failureMessage : String) (exception : HttpException) (now : Nat) :
    cp.coordinator.Edited
      (cp.failCheckpoint runId checkpointId failureMessage exception now :
        _ × Outcome α).1.coordinator := by
  rw [failCheckpoint_fst]
  exact (Edited.refl.checkpoint checkpointId .failed none now).run runId .failed
    (fun status => { status with errorMessage := some failureMessage }) (fun _ => rfl)
    (by decide) now

theorem edited_uploadShardFinish (cp : ControlPlane) (call : UploadCall)
    (reply : Except String WriteShardResult) (now : Nat) :
    cp.coordinator.Edited (cp.uploadShardFinish call reply now).1.coordinator := by
  cases hreply : uploadAccepted reply with
  | false =>
      obtain ⟨failureMessage, exception, hout⟩ := uploadShardFinish_rejected cp call hreply now
      rw [hout]
      exact edited_failCheckpoint ..
  | true =>
      cases reply with
      | error e => cases hreply
      | ok result =>
          have hsuccess : result.success = true := hreply
          simp only [uploadShardFinish, hsuccess, if_true]
          exact Edited.refl.checkpoint ..

theorem edited_commitRunFinish (cp : ControlPlane) (call : CommitCall)
    (reply : Except String CommitResponse) (now : Nat) :
    cp.coordinator.Edited (cp.commitRunFinish call reply now).1.coordinator := by
  cases hreply : commitAccepted reply with
  | false =>
      obtain ⟨failureMessage, exception, hout⟩ := commitRunFinish_rejected cp call hreply now
      rw [hout]
      exact edited_failCheckpoint ..
  | true =>
      cases reply with
      | error e => cases hreply
      | ok response =>
          cases hinfo : cp.coordinator.getCheckpoint call.checkpointId with
          | none =>
              rw [commitRunFinish_missing cp call hreply hinfo now]
              exact .refl
          | some info =>
              rw [commitRunFinish_accepted cp call hreply hinfo now]
              have hupdated : cp.coordinator.Edited
                  (cp.coordinator.updateCheckpointState call.checkpointId .committed none now).1 :=
                Edited.refl.checkpoint ..
              have hcommitted := hupdated.transition call.runId
                (show RunState.committed ≠ .checkpointing by decide) now
              split
              · exact hcommitted
              · exact hcommitted.transition call.runId (by decide) now

end ControlPlane

end CheckpointRuntime
