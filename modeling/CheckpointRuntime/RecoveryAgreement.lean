import CheckpointRuntime.FailureHandling
import CheckpointRuntime.Library.UniqueLargest

/-!
# Do all name the same recovery point?

Of the committed checkpoints of the largest step a worker loads the first one,
and a resume chooses the last one.  What the recovery manager answers is what it
wrote down when it recovered the run.  The three agree exactly when the answer
names the checkpoint whose step is above all others.
-/

namespace CheckpointRuntime

open Coordinator StableListing UniqueLargest

namespace Coordinator

/-- The checkpoint that a worker loads. -/
def workerChoice (c : Coordinator) (runId : String) : Option String :=
  (latestCommitted (c.listCheckpoints runId)).map (·.checkpointId)

/-- The checkpoint that the resume endpoint and `_execute_recovery` choose. -/
def resumeChoice (c : Coordinator) (runId : String) : Option String :=
  (RecoveryPlane.lastCommitted (c.listCheckpoints runId)).map (·.checkpointId)

/-- A checkpoint of the run is committed at a step. -/
def CommittedAt (c : Coordinator) (runId checkpointId : String) (step : Int) : Prop :=
  ∃ info, c.getCheckpoint checkpointId = some info ∧ info.runId = runId ∧
    info.state = .committed ∧ info.step = step

section
variable {c : Coordinator} {runId : String}

theorem committedAt_of_committedFor {info : CheckpointInfo} (h : c.CommittedFor runId info) :
    c.CommittedAt runId info.checkpointId info.step :=
  ⟨info, getCheckpoint_of_mem h.1, h.2.1, h.2.2, rfl⟩

theorem exists_committedFor {checkpointId : String} {step : Int}
    (h : c.CommittedAt runId checkpointId step) :
    ∃ info, c.CommittedFor runId info ∧ info.checkpointId = checkpointId ∧ info.step = step := by
  obtain ⟨info, hinfo, hrun, hstate, hstep⟩ := h
  exact ⟨info, ⟨mem_of_getCheckpoint hinfo, hrun, hstate⟩, checkpointId_of_getCheckpoint hinfo,
    hstep⟩

theorem committedAt_congr {c' : Coordinator}
    (h : ∀ id, c'.getCheckpoint id = c.getCheckpoint id) (checkpointId : String) (step : Int) :
    c'.CommittedAt runId checkpointId step ↔ c.CommittedAt runId checkpointId step := by
  simp only [CommittedAt, h]

theorem lastCommitted_eq_lastMatch (c : Coordinator) (runId : String) :
    RecoveryPlane.lastCommitted (c.listCheckpoints runId) =
      lastMatch (·.step) (fun info => decide (info.state = .committed))
        (c.checkpoints.rows.filter (fun info => decide (info.runId = runId))) := by
  rw [RecoveryPlane.lastCommitted, List.getLast?_eq_head?_reverse, ← List.filter_reverse,
    List.head?_filter]
  rfl

/-- The worker and the resume find the same checkpoint exactly when its step is
above all others. -/
theorem choices_eq_some_iff {info : CheckpointInfo} :
    RecoveryPlane.lastCommitted (c.listCheckpoints runId) = some info ∧
        latestCommitted (c.listCheckpoints runId) = some info ↔
      c.CommittedFor runId info ∧
        ∀ other, c.CommittedFor runId other → other ≠ info → other.step < info.step := by
  have hofRun : (c.checkpoints.rows.filter (fun info => decide (info.runId = runId))).Nodup :=
    c.nodup_rows.filter _
  rw [lastCommitted_eq_lastMatch, latestCommitted, newest_eq_firstLargest]
  apply (lastMatch_and_firstLargest_iff (·.step) hofRun).trans
  simp only [List.mem_filter, decide_eq_true_eq, CommittedFor]
  constructor
  · intro h
    obtain ⟨⟨hmem, hrun⟩, hstate, habove⟩ := h
    exact ⟨⟨hmem, hrun, hstate⟩, fun other hother => habove other ⟨hother.1, hother.2.1⟩
      hother.2.2⟩
  · intro h
    obtain ⟨⟨hmem, hrun, hstate⟩, habove⟩ := h
    exact ⟨⟨hmem, hrun⟩, hstate, fun other hother hcommitted =>
      habove other ⟨hother.1, hother.2, hcommitted⟩⟩

theorem lastCommitted_eq_none_iff :
    RecoveryPlane.lastCommitted (c.listCheckpoints runId) = none ↔
      ∀ info, ¬ c.CommittedFor runId info := by
  rw [RecoveryPlane.lastCommitted, List.getLast?_eq_none_iff, List.filter_eq_nil_iff]
  simp only [listCheckpoints, List.mem_insertionSort, List.mem_filter, decide_eq_true_eq,
    CommittedFor]
  exact ⟨fun h info hinfo => h info ⟨hinfo.1, hinfo.2.1⟩ hinfo.2.2,
    fun h info hinfo hstate => h info ⟨hinfo.1, hinfo.2, hstate⟩⟩

/-- Two committed checkpoints with one id are one. -/
theorem CommittedFor.eq_of_id {info other : CheckpointInfo} (h : c.CommittedFor runId info)
    (h' : c.CommittedFor runId other) (hid : other.checkpointId = info.checkpointId) :
    other = info :=
  c.checkpoints.eq_of_key_eq h'.1 h.1 (congrArg checkpointKey hid)

/-- **Agreement.**  The worker, the resume and an answer agree exactly when the
answer names the committed checkpoint of the run whose step is above all
others. -/
theorem choices_agree_iff {point : Option String} :
    (c.resumeChoice runId = point ∧ c.workerChoice runId = point) ↔
      Names (c.CommittedAt runId) point := by
  constructor
  · intro h
    obtain ⟨hresume, hworker⟩ := h
    cases point with
    | none =>
        intro id step hcommitted
        obtain ⟨info, hinfo, _⟩ := exists_committedFor hcommitted
        exact latestCommitted_eq_none_iff.mp (Option.map_eq_none_iff.mp hworker) info hinfo
    | some id =>
        obtain ⟨last, hlast, hid⟩ := Option.map_eq_some_iff.mp hresume
        obtain ⟨info, hinfo, rfl⟩ := Option.map_eq_some_iff.mp hworker
        have hfirst := (latestCommitted_eq_some_iff.mp hinfo).1
        have hlast' : c.CommittedFor runId last := by
          rw [lastCommitted_eq_lastMatch] at hlast
          obtain ⟨hmem, hstate, _⟩ :=
            (lastMatch_eq_some_iff (·.step) (c.nodup_rows.filter _)).mp hlast
          obtain ⟨hmem, hrun⟩ := List.mem_filter.mp hmem
          exact ⟨hmem, of_decide_eq_true hrun, of_decide_eq_true hstate⟩
        obtain rfl := hfirst.eq_of_id hlast' hid
        obtain ⟨hcommitted, habove⟩ := choices_eq_some_iff.mp ⟨hlast, hinfo⟩
        refine ⟨last.step, committedAt_of_committedFor hcommitted, fun id step h hne => ?_⟩
        obtain ⟨other, hother, rfl, rfl⟩ := exists_committedFor h
        exact habove other hother fun hsame => hne (hsame ▸ rfl)
  · intro hnames
    cases point with
    | none =>
        have hnone : ∀ info, ¬ c.CommittedFor runId info := fun info hinfo =>
          hnames _ _ (committedAt_of_committedFor hinfo)
        rw [resumeChoice, workerChoice, lastCommitted_eq_none_iff.mpr hnone,
          latestCommitted_eq_none_iff.mpr hnone]
        exact ⟨rfl, rfl⟩
    | some id =>
        obtain ⟨step, hcommitted, habove⟩ := hnames
        obtain ⟨info, hinfo, rfl, rfl⟩ := exists_committedFor hcommitted
        obtain ⟨hlast, hfirst⟩ := choices_eq_some_iff.mpr ⟨hinfo, fun other hother hne =>
          habove _ _ (committedAt_of_committedFor hother) fun hid =>
            hne (hinfo.eq_of_id hother hid)⟩
        rw [resumeChoice, workerChoice, hlast, hfirst]
        exact ⟨rfl, rfl⟩

end

end Coordinator

/-- A callback that answers at once. -/
def RestartCallback.silent : RestartCallback → Bool
  | .answer _ => true
  | .report _ _ _ _ => false

namespace RecoveryPlane

/-- All name the same checkpoint of a run, or say that there is none. -/
structure SamePoint (s : RecoveryPlane) (runId : String) : Prop where
  resume : s.coordinator.resumeChoice runId = s.getRecoveryCheckpoint runId
  worker : s.coordinator.workerChoice runId = s.getRecoveryCheckpoint runId

/-- They do for every run that is being recovered. -/
def Agreed (s : RecoveryPlane) : Prop :=
  ∀ runId, s.coordinator.runState runId = some .recovering → s.SamePoint runId

/-- What the recovery manager answers is the committed checkpoint whose step is
above all others. -/
def Named (s : RecoveryPlane) (runId : String) : Prop :=
  Names (s.coordinator.CommittedAt runId) (s.getRecoveryCheckpoint runId)

/-- What decides whether an event keeps the agreement. -/
def KeepsPoint (s : RecoveryPlane) : RecoveryEvent → Prop
  | .op (.transitionRun runId target) => target = .recovering →
      s.coordinator.runState runId = some .failed → s.Named runId
  | .op (.updateCheckpointState id state _ _ _) =>
      ∀ info, s.coordinator.getCheckpoint id = some info →
        s.coordinator.runState info.runId = some .recovering →
        (info.state = .committed → state ≠ .committed →
          s.getRecoveryCheckpoint info.runId ≠ some id) ∧
        (info.state ≠ .committed → state = .committed →
          ∃ id' step, s.getRecoveryCheckpoint info.runId = some id' ∧
            s.coordinator.CommittedAt info.runId id' step ∧ info.step < step)
  | .op (.deleteCheckpoint id) =>
      ∀ info, s.coordinator.getCheckpoint id = some info →
        s.coordinator.runState info.runId = some .recovering → info.state = .committed →
          s.getRecoveryCheckpoint info.runId ≠ some id
  | .op _ => True
  | .workerFailure _ runId _ =>
      s.Failable runId → s.manager.autoRecover = true → s.manager.hasSupervisor = true →
        Untied (s.coordinator.CommittedAt runId)
  | .recoverRun runId callback =>
      s.coordinator.runState runId = some .failed → s.manager.hasSupervisor = true →
        s.manager.autoRecover = true ∨ callback.silent = true →
          Untied (s.coordinator.CommittedAt runId)
  | .executeRecovery _ => True
  | .resumeRun runId => s.coordinator.runState runId = some .failed → s.Named runId
  | .restart =>
      ∀ runId, s.coordinator.runState runId = some .recovering →
        ∀ id step, ¬ s.coordinator.CommittedAt runId id step

section
variable {s s' : RecoveryPlane} {runId : String}

theorem samePoint_iff_named : s.SamePoint runId ↔ s.Named runId :=
  ⟨fun h => choices_agree_iff.mp ⟨h.resume, h.worker⟩,
    fun h => ⟨(choices_agree_iff.mpr h).1, (choices_agree_iff.mpr h).2⟩⟩

theorem agreed_iff_named :
    s.Agreed ↔ ∀ r, s.coordinator.runState r = some .recovering → s.Named r :=
  forall₂_congr fun _ _ => samePoint_iff_named

/-- A run that is being recovered was so before, with the same answer and the
same committed checkpoints. -/
def Steady (s s' : RecoveryPlane) (runId : String) : Prop :=
  s'.coordinator.runState runId = some .recovering →
    s.coordinator.runState runId = some .recovering ∧
      s'.getRecoveryCheckpoint runId = s.getRecoveryCheckpoint runId ∧
      ∀ id step, s'.coordinator.CommittedAt runId id step ↔ s.coordinator.CommittedAt runId id step

theorem Steady.named (h : Steady s s' runId) (hs : s.Agreed)
    (hrec : s'.coordinator.runState runId = some .recovering) : s'.Named runId := by
  obtain ⟨hbefore, hpoint, hcommitted⟩ := h hrec
  rw [Named, hpoint, names_congr hcommitted]
  exact agreed_iff_named.mp hs runId hbefore

theorem agreed_of_steady (hs : s.Agreed) (h : ∀ r, Steady s s' r) : s'.Agreed :=
  agreed_iff_named.mpr fun r => (h r).named hs

/-- Where all runs but one are steady, that one decides. -/
theorem agreed_iff_of_others (runId : String) (hs : s.Agreed)
    (h : ∀ r, r ≠ runId → Steady s s' r) :
    s'.Agreed ↔ (s'.coordinator.runState runId = some .recovering → s'.Named runId) := by
  rw [agreed_iff_named]
  refine ⟨fun hall => hall runId, fun hone r hrec => ?_⟩
  by_cases hr : r = runId
  · exact hr ▸ hone (hr ▸ hrec)
  · exact (h r hr).named hs hrec

/-- An operation that leaves the checkpoints and the answers alone. -/
theorem steady_of_runState {c : WorkerCoordinator}
    (hrecords : ∀ id, c.getCheckpoint id = s.coordinator.getCheckpoint id) {r : String}
    (hstate : c.runState r = some .recovering → s.coordinator.runState r = some .recovering) :
    Steady s { s with coordinator := c } r :=
  fun hrec => ⟨hstate hrec, rfl, committedAt_congr hrecords⟩

end

/-! ## A record is written or deleted -/

theorem getCheckpoint_edited (c : Coordinator) (checkpointId : String)
    {edit : CheckpointInfo → CheckpointInfo}
    (hedit : ∀ info, (edit info).checkpointId = info.checkpointId) (other : String) :
    (c.editCheckpoint checkpointId edit).1.getCheckpoint other =
      if other = checkpointId then (c.getCheckpoint checkpointId).map edit
      else c.getCheckpoint other := by
  unfold editCheckpoint
  cases hfound : c.getCheckpoint checkpointId with
  | none =>
      by_cases hother : other = checkpointId
      · rw [if_pos hother, hother]
        exact hfound
      · rw [if_neg hother]
  | some info =>
      have hid := checkpointId_of_getCheckpoint hfound
      rw [getCheckpoint_putCheckpoint, hedit, hid, Option.map_some]

section
variable {s : RecoveryPlane} {c : WorkerCoordinator} {id : String} {info : CheckpointInfo}

theorem committedAt_self_iff {c : Coordinator} (hfound : c.getCheckpoint id = some info)
    (r : String) (step : Int) :
    c.CommittedAt r id step ↔ info.runId = r ∧ info.state = .committed ∧ info.step = step := by
  simp only [CommittedAt, hfound, Option.some.injEq, exists_eq_left']

/-- What is committed once a record has been rewritten. -/
theorem committedAt_written {c c' : Coordinator} {info' : CheckpointInfo}
    (hrecords : ∀ other, c'.getCheckpoint other =
      if other = id then some info' else c.getCheckpoint other) (r other : String) (step : Int) :
    c'.CommittedAt r other step ↔
      (other = id ∧ info'.runId = r ∧ info'.state = .committed ∧ info'.step = step) ∨
        (other ≠ id ∧ c.CommittedAt r other step) := by
  by_cases hother : other = id
  · subst hother
    have hfound : c'.getCheckpoint other = some info' := (hrecords other).trans (if_pos rfl)
    simp [committedAt_self_iff hfound]
  · have hsame : c'.getCheckpoint other = c.getCheckpoint other :=
      (hrecords other).trans (if_neg hother)
    simp [CommittedAt, hsame, hother]

/-- What is committed once a record has been deleted. -/
theorem committedAt_deleted (c : Coordinator) (r other : String) (step : Int) :
    (c.deleteCheckpoint id).CommittedAt r other step ↔
      c.CommittedAt r other step ∧ other ≠ id := by
  by_cases hother : other = id
  · simp [CommittedAt, hother]
  · simp [CommittedAt, hother]

/-- **A record is rewritten.**  Leaving `COMMITTED` matters if the record is the
one that is named, and entering it matters unless the named one is newer. -/
theorem agreed_written_iff (hs : s.Agreed) (info' : CheckpointInfo)
    (hfound : s.coordinator.getCheckpoint id = some info)
    (hruns : ∀ r, c.runState r = s.coordinator.runState r)
    (hrecords : ∀ other, c.getCheckpoint other =
      if other = id then some info' else s.coordinator.getCheckpoint other)
    (hrun : info'.runId = info.runId) (hstep : info'.step = info.step) :
    ({ s with coordinator := c } : RecoveryPlane).Agreed ↔
      (s.coordinator.runState info.runId = some .recovering →
        (info.state = .committed → info'.state ≠ .committed →
          s.getRecoveryCheckpoint info.runId ≠ some id) ∧
        (info.state ≠ .committed → info'.state = .committed →
          ∃ id' step, s.getRecoveryCheckpoint info.runId = some id' ∧
            s.coordinator.CommittedAt info.runId id' step ∧ info.step < step)) := by
  have hself := committedAt_self_iff hfound
  have hwritten := fun r other step =>
    committedAt_written (c := s.coordinator.toCoordinator) hrecords r other step
  rw [agreed_iff_of_others info.runId hs, show ({ s with coordinator := c } :
    RecoveryPlane).coordinator.runState info.runId = s.coordinator.runState info.runId from
      hruns _]
  · apply forall_congr'
    intro hrec
    have hnamed := agreed_iff_named.mp hs _ hrec
    have hsame : (info.state = .committed ↔ info'.state = .committed) →
        ({ s with coordinator := c } : RecoveryPlane).Named info.runId := by
      intro hiff
      refine (names_congr (fun other step => ?_) _).mpr hnamed
      apply (hwritten _ other step).trans
      by_cases hother : other = id
      · subst hother
        simp [hself, hrun, hstep, hiff]
      · simp [hother]
    by_cases hwas : info.state = .committed
    · by_cases hnow : info'.state = .committed
      · exact iff_of_true (hsame (iff_of_true hwas hnow))
          ⟨fun _ hleft => absurd hnow hleft, fun hnot => absurd hwas hnot⟩
      · have hremoved : ({ s with coordinator := c } : RecoveryPlane).Named info.runId ↔
            s.getRecoveryCheckpoint info.runId ≠ some id :=
          Names.removed_iff hnamed ⟨info.step, (hself _ _).mpr ⟨rfl, hwas, rfl⟩⟩
            fun other step => (hwritten _ other step).trans (by simp [hnow, and_comm])
        rw [hremoved]
        exact ⟨fun hne => ⟨fun _ _ => hne, fun hnot => absurd hwas hnot⟩,
          fun hboth => hboth.1 hwas hnow⟩
    · by_cases hnow : info'.state = .committed
      · have hnew : ∀ step, ¬ s.coordinator.CommittedAt info.runId id step :=
          fun step h => hwas ((hself _ _).mp h).2.1
        have hentered : ∀ other step, c.CommittedAt info.runId other step ↔
            s.coordinator.CommittedAt info.runId other step ∨ other = id ∧ step = info.step := by
          intro other step
          apply (hwritten _ other step).trans
          by_cases hother : other = id
          · subst hother
            simp [hnew, hrun, hstep, hnow, eq_comm]
          · simp [hother]
        exact (hnamed.added_iff hnew hentered).trans
          ⟨fun hex => ⟨fun hyes => absurd hyes hwas, fun _ _ => hex⟩,
            fun hboth => hboth.2 hwas hnow⟩
      · exact iff_of_true (hsame (iff_of_false hwas hnow))
          ⟨fun hyes => absurd hyes hwas, fun _ hyes => absurd hyes hnow⟩
  · intro r hr hrec
    refine ⟨(hruns r).symm.trans hrec, rfl, fun other step => (hwritten r other step).trans ?_⟩
    by_cases hother : other = id
    · subst hother
      simp [hself, hrun, Ne.symm hr]
    · simp [hother]

/-- The common body of the two update methods. -/
theorem agreed_edited_iff (hs : s.Agreed) (checkpointId : String)
    (edit : CheckpointInfo → CheckpointInfo)
    (hedit : ∀ info, (edit info).checkpointId = info.checkpointId ∧
      (edit info).runId = info.runId ∧ (edit info).step = info.step) :
    (s.withCoordinator (s.coordinator.editCheckpoint checkpointId edit).1).Agreed ↔
      ∀ info, s.coordinator.getCheckpoint checkpointId = some info →
        s.coordinator.runState info.runId = some .recovering →
        (info.state = .committed → (edit info).state ≠ .committed →
          s.getRecoveryCheckpoint info.runId ≠ some checkpointId) ∧
        (info.state ≠ .committed → (edit info).state = .committed →
          ∃ id' step, s.getRecoveryCheckpoint info.runId = some id' ∧
            s.coordinator.CommittedAt info.runId id' step ∧ info.step < step) := by
  have hrecords := getCheckpoint_edited s.coordinator.toCoordinator checkpointId
    fun info => (hedit info).1
  have hruns := runState_editCheckpoint s.coordinator.toCoordinator checkpointId edit
  cases hfound : s.coordinator.getCheckpoint checkpointId with
  | none =>
      refine iff_of_true (agreed_of_steady hs fun r => ?_) fun info hinfo => by cases hinfo
      refine steady_of_runState (fun other => (hrecords other).trans ?_) fun hrec =>
        (hruns r).symm.trans hrec
      split
      · next hother => rw [hother, hfound, Option.map_none]
      · rfl
  | some info =>
      rw [hfound, Option.map_some] at hrecords
      refine (agreed_written_iff hs (edit info) hfound hruns hrecords (hedit info).2.1
        (hedit info).2.2).trans ⟨fun h other hother => ?_, fun h => h info rfl⟩
      exact Option.some.inj hother ▸ h

/-- **A record is deleted.**  It matters if it is the one that is named. -/
theorem agreed_deleted_iff (hs : s.Agreed)
    (hfound : s.coordinator.getCheckpoint id = some info) :
    (s.withCoordinator (s.coordinator.deleteCheckpoint id)).Agreed ↔
      (s.coordinator.runState info.runId = some .recovering → info.state = .committed →
        s.getRecoveryCheckpoint info.runId ≠ some id) := by
  have hself := committedAt_self_iff hfound
  have hdeleted : ∀ r other step, (s.coordinator.deleteCheckpoint id).CommittedAt r other step ↔
      s.coordinator.CommittedAt r other step ∧ other ≠ id := committedAt_deleted _
  rw [agreed_iff_of_others info.runId hs]
  · apply forall_congr'
    intro hrec
    have hnamed := agreed_iff_named.mp hs _ hrec
    by_cases hwas : info.state = .committed
    · rw [imp_iff_right hwas]
      exact Names.removed_iff hnamed ⟨info.step, (hself _ _).mpr ⟨rfl, hwas, rfl⟩⟩
        (hdeleted info.runId)
    · refine iff_of_true ((names_congr (fun other step => ?_) _).mpr hnamed)
        fun hyes => absurd hyes hwas
      refine (hdeleted _ other step).trans (and_iff_left_of_imp ?_)
      intro hcommitted h
      subst h
      exact hwas ((hself _ _).mp hcommitted).2.1
  · intro r hr hrec
    refine ⟨hrec, rfl, fun other step => (hdeleted r other step).trans (and_iff_left_of_imp ?_)⟩
    intro hcommitted h
    subst h
    exact hr ((hself _ _).mp hcommitted).1.symm

end

/-! ## One operation of the coordinator -/

section
variable {s : RecoveryPlane}

/-- A fresh record is pending. -/
theorem committedAt_created {c : Coordinator} {checkpointId : String}
    (hfresh : c.getCheckpoint checkpointId = none) (runId : String) (step : Int)
    (metadata : List (String × String)) (now : Nat) (r other : String) (step' : Int) :
    (c.createCheckpointWith runId step metadata checkpointId now).1.CommittedAt r other step' ↔
      c.CommittedAt r other step' := by
  unfold createCheckpointWith
  cases c.getRun runId with
  | none => exact Iff.rfl
  | some status =>
      have hput := committedAt_written (c := c)
        (fun other => getCheckpoint_putCheckpoint c
          { checkpointId := checkpointId, runId := runId, step := step, createdAt := now,
            metadata := metadata } other) r other step'
      apply Iff.trans hput
      by_cases hother : other = checkpointId
      · subst hother
        simp [CommittedAt, hfresh]
      · simp [hother]

theorem recovering_mem_iff {state : RunState} :
    RunState.recovering ∈ validTransitions state ↔ state = .failed := by
  cases state <;> decide

/-- **A move.**  Only the move from `FAILED` to `RECOVERING` matters. -/
theorem agreed_moved_iff (hc : s.coordinator.Coherent) (hgood : s.Agreed) (runId : String)
    (target : RunState) (edit : RunStatus → RunStatus)
    (hedit : ∀ status, (edit status).runId = status.runId) (now : Nat) :
    (s.withCoordinator (s.coordinator.moveRun runId target edit now).1).Agreed ↔
      (target = .recovering → s.coordinator.runState runId = some .failed → s.Named runId) := by
  have hmoved := hc.runState_moveRun runId target edit hedit now
  have hrecords : ∀ id, (s.coordinator.moveRun runId target edit now).1.getCheckpoint id =
      s.coordinator.getCheckpoint id := getCheckpoint_congr (checkpoints_moveRun ..)
  have hnamed : (s.withCoordinator (s.coordinator.moveRun runId target edit now).1).Named runId ↔
      s.Named runId := names_congr (committedAt_congr hrecords) _
  rw [agreed_iff_of_others runId hgood, hnamed]
  · have hself := (hmoved runId).trans (if_pos rfl)
    constructor
    · intro h h hfailed
      subst h
      rw [hfailed] at hself
      exact h hself
    · intro h hrec
      obtain ⟨state, hstate, hto⟩ := Option.map_eq_some_iff.mp (hself.symm.trans hrec)
      split at hto
      · next hedge =>
        subst hto
        exact h rfl (hstate.trans (congrArg some (recovering_mem_iff.mp hedge)))
      · exact agreed_iff_named.mp hgood runId (hstate.trans (congrArg some hto))
  · intro r hr
    exact steady_of_runState hrecords fun hrec =>
      ((hmoved r).trans (if_neg hr)).symm.trans hrec

/-- **One operation.** -/
theorem agreed_serve_iff (hs : s.Settled) (hgood : s.Agreed) {op : CoordinatorOp}
    (hfresh : drawsFreshId s.coordinator op = true) (now : Nat) :
    ({ s with coordinator := (s.coordinator.serve op now).1 } : RecoveryPlane).Agreed ↔
      s.KeepsPoint (.op op) := by
  have hc := hs.coherent
  have hcalm : ∀ c : WorkerCoordinator,
      (∀ id, c.getCheckpoint id = s.coordinator.getCheckpoint id) →
      (∀ r, c.runState r = some .recovering → s.coordinator.runState r = some .recovering) →
      ({ s with coordinator := c } : RecoveryPlane).Agreed := fun c hrecords hstates =>
    agreed_of_steady hgood fun r => steady_of_runState hrecords (hstates r)
  have hworker : ∀ runId workerId edit, ({ s with coordinator :=
      (s.coordinator.editWorker runId workerId edit).1 } : RecoveryPlane).Agreed := by
    intro runId workerId edit
    refine hcalm _ (fun id => ?_) fun r => ?_
    · rw [WorkerCoordinator.toCoordinator_editWorker]
    · rw [WorkerCoordinator.toCoordinator_editWorker]
      exact id
  cases op with
  | createRun config runId =>
      refine iff_of_true (hcalm _ (fun _ => rfl) fun r hrec => ?_) trivial
      have hcreated := (runState_createRun s.coordinator.toCoordinator config runId now
        r).symm.trans hrec
      split at hcreated
      · cases hcreated
      · exact hcreated
  | getRun _ => exact iff_of_true hgood trivial
  | listRuns => exact iff_of_true hgood trivial
  | transitionRun runId target =>
      exact agreed_moved_iff hc hgood runId target id (fun _ => rfl) now
  | updateRunStep runId step =>
      refine iff_of_true (hcalm _ (fun _ => ?_) fun r => ?_) trivial
      · exact getCheckpoint_congr (checkpoints_updateRunStep s.coordinator.toCoordinator ..) _
      · exact (runState_updateRunStep s.coordinator.toCoordinator ..) ▸ id
  | setRunError runId message =>
      refine (agreed_moved_iff hc hgood runId .failed
        (fun status => { status with errorMessage := some message }) (fun _ => rfl) now).trans ?_
      exact iff_of_true (fun hno => by cases hno) trivial
  | createCheckpoint runId step metadata checkpointId =>
      obtain ⟨_, hnew⟩ := (Bool.and_eq_true _ _).mp hfresh
      have hnew := Option.isNone_iff_eq_none.mp hnew
      refine iff_of_true (agreed_of_steady hgood fun r hrec => ⟨?_, rfl, ?_⟩) trivial
      · exact (runState_createCheckpointWith s.coordinator.toCoordinator ..).symm.trans hrec
      · exact committedAt_created hnew runId step metadata now r
  | getCheckpoint _ => exact iff_of_true hgood trivial
  | deleteCheckpoint checkpointId =>
      show (s.withCoordinator (s.coordinator.deleteCheckpoint checkpointId)).Agreed ↔ _
      cases hfound : s.coordinator.getCheckpoint checkpointId with
      | none =>
          refine iff_of_true (hcalm _ (fun other => ?_) fun _ => id) fun info hinfo => ?_
          · apply (getCheckpoint_deleteCheckpoint ..).trans
            split
            · next hother => exact hother ▸ hfound.symm
            · rfl
          · cases hfound.symm.trans hinfo
      | some info =>
          rw [agreed_deleted_iff hgood hfound]
          refine ⟨fun h other hother => ?_, fun h => h info hfound⟩
          exact Option.some.inj (hfound.symm.trans hother) ▸ h
  | listCheckpoints _ => exact iff_of_true hgood trivial
  | updateCheckpointState checkpointId state numShards totalBytes shardIds =>
      exact agreed_edited_iff hgood checkpointId
        (stateUpdate state numShards totalBytes shardIds now) fun _ => ⟨rfl, rfl, rfl⟩
  | updateCheckpointMetadata checkpointId metadata merge =>
      -- the state stays what it is
      refine (agreed_edited_iff hgood checkpointId (metadataUpdate metadata merge)
        fun _ => ⟨rfl, rfl, rfl⟩).trans ?_
      exact iff_of_true (fun _ _ _ => ⟨fun hwas hleft => absurd hwas hleft,
        fun hnot hnow => absurd hnow hnot⟩) trivial
  | registerWorker _ _ _ _ => exact iff_of_true (hcalm _ (fun _ => rfl) fun _ => id) trivial
  | heartbeat _ _ _ => exact iff_of_true (hworker _ _ _) trivial
  | listWorkers _ => exact iff_of_true hgood trivial
  | markWorkerDead _ _ _ => exact iff_of_true (hworker _ _ _) trivial

end

/-! ## Recovery -/

section
variable {s s' : RecoveryPlane} {runId : String}

theorem namesLargest_of_newestPoint {c : Coordinator} {point : Option String}
    (h : NewestPoint c runId point) : NamesLargest (c.CommittedAt runId) point := by
  cases point with
  | none =>
      intro id step hcommitted
      obtain ⟨info, hinfo, _⟩ := exists_committedFor hcommitted
      exact h info hinfo
  | some id =>
      obtain ⟨info, hinfo, rfl, hlargest⟩ := h
      refine ⟨info.step, committedAt_of_committedFor hinfo, fun other step hother => ?_⟩
      obtain ⟨found, hfound, _, rfl⟩ := exists_committedFor hother
      exact hlargest found hfound

/-- What a recovered run is left with, whatever the supervisor did. -/
structure Recovered (s s' : RecoveryPlane) (runId : String) : Prop where
  committed : ∀ id step,
    s'.coordinator.CommittedAt runId id step ↔ s.coordinator.CommittedAt runId id step
  largest : s'.coordinator.runState runId = some .recovering →
    NamesLargest (s'.coordinator.CommittedAt runId) (s'.getRecoveryCheckpoint runId)
  others : ∀ r, r ≠ runId → Steady s s' r

theorem Steady.trans {s'' : RecoveryPlane} (h : Steady s s' runId) (h' : Steady s' s'' runId) :
    Steady s s'' runId := by
  intro hrec
  obtain ⟨hrec', hpoint', hcommitted'⟩ := h' hrec
  obtain ⟨hrec, hpoint, hcommitted⟩ := h hrec'
  exact ⟨hrec, hpoint'.trans hpoint, fun id step => (hcommitted' id step).trans
    (hcommitted id step)⟩

theorem Recovered.trans {s'' : RecoveryPlane} (h : Recovered s s' runId)
    (h' : Recovered s' s'' runId) : Recovered s s'' runId :=
  ⟨fun id step => (h'.committed id step).trans (h.committed id step), h'.largest,
    fun r hr => (h.others r hr).trans (h'.others r hr)⟩

/-- A recovered run decides about the agreement, and ties decide about it. -/
theorem Recovered.agreed_iff (h : Recovered s s' runId) (hs : s.Agreed) :
    s'.Agreed ↔ (s'.coordinator.runState runId = some .recovering →
      Untied (s.coordinator.CommittedAt runId)) := by
  rw [agreed_iff_of_others runId hs h.others]
  apply forall_congr'
  intro hrec
  have hsame : s'.coordinator.CommittedAt runId = s.coordinator.CommittedAt runId :=
    funext fun id => funext fun step => propext (h.committed id step)
  exact hsame ▸ (h.largest hrec).names_iff_untied

/-- A committed checkpoint outlives what happens to the open ones. -/
theorem committedAt_of_kept {r : String}
    (h : ∀ id info, info.runId = r → info.state = .committed →
      (s'.coordinator.getCheckpoint id = some info ↔ s.coordinator.getCheckpoint id = some info))
    (id : String) (step : Int) :
    s'.coordinator.CommittedAt r id step ↔ s.coordinator.CommittedAt r id step := by
  constructor
  · intro h
    obtain ⟨info, hinfo, hrun, hstate, hstep⟩ := h
    exact ⟨info, (h id info hrun hstate).mp hinfo, hrun, hstate, hstep⟩
  · intro h
    obtain ⟨info, hinfo, hrun, hstate, hstep⟩ := h
    exact ⟨info, (h id info hrun hstate).mpr hinfo, hrun, hstate, hstep⟩

/-- Another run whose record and answer are left alone. -/
theorem steady_of_kept {r : String} (hrun : s'.coordinator.getRun r = s.coordinator.getRun r)
    (hpoint : s'.getRecoveryCheckpoint r = s.getRecoveryCheckpoint r)
    (hrecords : ∀ id info, info.runId = r → info.state = .committed →
      (s'.coordinator.getCheckpoint id = some info ↔ s.coordinator.getCheckpoint id = some info)) :
    Steady s s' r :=
  fun hrec => ⟨by rwa [runState, ← hrun], hpoint, committedAt_of_kept hrecords⟩

/-- **A handled failure.** -/
theorem Handled.recovered (h : Handled s s' runId)
    (hcalled : s'.coordinator.runState runId = some .recovering → s'.restarts ≠ s.restarts) :
    Recovered s s' runId where
  committed := committedAt_of_kept fun id info _ hstate => h.committed id info hstate
  largest := fun hrec => namesLargest_of_newestPoint (h.point (hcalled hrec))
  others := fun r hr => steady_of_kept (h.otherRuns r hr) (h.otherPoints r hr)
    fun id info hrun _ => h.otherCheckpoints id info (hrun ▸ hr)

/-- A handled run that is being recovered has been given to the supervisor. -/
theorem Handled.recovering_iff (h : Handled s s' runId) :
    s'.coordinator.runState runId = some .recovering ↔
      (s.manager.autoRecover && s.manager.hasSupervisor) = true := by
  rw [h.state]
  split
  · next hon => exact iff_of_true rfl hon
  · next hoff => exact iff_of_false (fun heq => by cases heq) hoff

theorem Handled.called (h : Handled s s' runId)
    (hrec : s'.coordinator.runState runId = some .recovering) : s'.restarts ≠ s.restarts := by
  rw [h.restarts, if_pos (h.recovering_iff.mp hrec)]
  exact fun heq => List.cons_ne_nil runId [] (List.append_right_eq_self.mp heq)

theorem failable_of_state {state : RunState} (h : s.coordinator.runState runId = some state)
    (hstate : failable state = true) : s.Failable runId := ⟨state, h, hstate⟩

theorem Handled.failable (h : Handled s s' runId) : s'.Failable runId := by
  apply failable_of_state h.state
  split <;> rfl

/-- **A supervisor that is called for a recovered run.**  Each of its reports
fails the run and recovers it anew if that is configured. -/
theorem invoke_recovered (callback : RestartCallback) (hs : s.Settled) (hf : s.Failable runId)
    (hlargest : s.coordinator.runState runId = some .recovering →
      NamesLargest (s.coordinator.CommittedAt runId) (s.getRecoveryCheckpoint runId)) :
    Recovered s (callback.invoke runId s).1 runId ∧
      ((callback.invoke runId s).1.coordinator.runState runId = some .recovering ↔
        if callback.silent then s.coordinator.runState runId = some .recovering
        else (s.manager.autoRecover && s.manager.hasSupervisor) = true) := by
  induction callback generalizing s with
  | answer outcome =>
      exact ⟨⟨fun _ _ => Iff.rfl, hlargest, fun _ _ hrec => ⟨hrec, rfl, fun _ _ => Iff.rfl⟩⟩,
        Iff.rfl⟩
  | report workerId now nested rest _ ih =>
      obtain ⟨hkept, hhandled, _⟩ := onWorkerFailure_effect now hs.coherent (hs.notMem runId)
        (quiet_invoke nested runId) workerId
      have hone := hhandled hf
      have hrecovered := hone.recovered hone.called
      obtain ⟨hrest, hstate⟩ := ih (hkept.settled hs) hone.failable hrecovered.largest
      refine ⟨hrecovered.trans hrest, hstate.trans ?_⟩
      rw [hkept.autoRecover, hkept.hasSupervisor, hone.recovering_iff, ite_self]
      exact Iff.rfl

/-- Aborting the open checkpoints of a run is no matter for the agreement. -/
theorem steady_aborted (s : RecoveryPlane) (runId : String) (now : Nat) (r : String) :
    Steady s (s.abortPendingCheckpoints runId now) r :=
  steady_of_kept (congrFun (s.getRun_aborted runId now) r) rfl fun id info _ hstate =>
    (records_of_closed now (s.getCheckpoint_aborted runId now)).2 id info (Or.inl hstate)

/-- A failed run that is recovered by hand, when the supervisor is called. -/
theorem recovered_by_hand (hs : s.Settled) (hfailed : s.coordinator.runState runId = some .failed)
    (now : Nat) :
    Recovered s ((s.abortPendingCheckpoints runId now).recovering runId now) runId := by
  obtain ⟨_, hruns, hrecords, _, hpoints, hpoint⟩ := recovering_effect now
    (coherent_aborted hs.coherent runId now) ((s.runState_aborted runId now runId).trans hfailed)
  have hspared := (records_of_closed now (s.getCheckpoint_aborted runId now)).2
  have hkept : ∀ id info, info.state = .committed →
      (((s.abortPendingCheckpoints runId now).recovering runId now).coordinator.getCheckpoint id =
        some info ↔ s.coordinator.getCheckpoint id = some info) := by
    intro id info hstate
    rw [hrecords]
    exact hspared id info (Or.inl hstate)
  exact {
    committed := committedAt_of_kept fun id info _ => hkept id info
    largest := fun _ => by rw [hpoint]; exact namesLargest_of_newestPoint newestPoint_latest
    others := fun r hr => steady_of_kept
      ((hruns r hr).trans (congrFun (s.getRun_aborted runId now) r)) (hpoints r hr)
      fun id info _ => hkept id info }

/-- **A manual recovery.** -/
theorem agreed_recoverRun_iff (hs : s.Settled) (hgood : s.Agreed) (callback : RestartCallback)
    (now : Nat) : (s.recoverRun (callback.invoke runId) runId now).1.Agreed ↔
      s.KeepsPoint (.recoverRun runId callback) := by
  rw [recoverRun_eq hs]
  split
  · next hfailed =>
    split
    · next hsup =>
      have hone := recovered_by_hand hs hfailed now
      have hkept := (s.kept_aborted runId now).trans (kept_recovering _ runId now)
      have hrec := (recovering_effect now (coherent_aborted hs.coherent runId now)
        ((s.runState_aborted runId now runId).trans hfailed)).1
      obtain ⟨hrest, hstate⟩ := invoke_recovered callback (hkept.settled hs)
        (failable_of_state hrec rfl) hone.largest
      rw [(hone.trans hrest).agreed_iff hgood, hstate, hkept.autoRecover, hkept.hasSupervisor,
        hsup, Bool.and_true]
      constructor
      · intro hall _ _ hor
        apply hall
        split
        · exact hrec
        · next hnot => exact hor.resolve_right hnot
      · intro hall hif
        apply hall hfailed hsup
        split at hif
        · next hsilent => exact Or.inr hsilent
        · exact Or.inl hif
    · next hsup =>
      exact iff_of_true (agreed_of_steady hgood (s.steady_aborted runId now))
        fun _ hyes => absurd hyes hsup
  · next hother => exact iff_of_true hgood fun hyes => absurd hyes hother

/-- `_execute_recovery` records the choice of the resume endpoint. -/
theorem executeRecovery_effect (s : RecoveryPlane) (runId : String) :
    (s.executeRecovery runId).coordinator = s.coordinator ∧
      ∀ r, (s.executeRecovery runId).getRecoveryCheckpoint r =
        if r = runId ∧ s.coordinator.getRun r ≠ none then s.coordinator.resumeChoice r
        else s.getRecoveryCheckpoint r := by
  unfold executeRecovery
  split
  · next hnone =>
    refine ⟨rfl, fun r => (if_neg ?_).symm⟩
    intro h
    obtain ⟨rfl, hsome⟩ := h
    exact hsome hnone
  · next status hsome =>
    refine ⟨rfl, fun r => ?_⟩
    by_cases hr : r = runId
    · subst hr
      rw [if_pos ⟨rfl, hsome ▸ Option.some_ne_none status⟩]
      show (if r = r then _ else _ : Option (Option String)).getD none = _
      rw [if_pos rfl]
      rfl
    · rw [if_neg fun hboth => hr hboth.1]
      show (if r = runId then _ else _ : Option (Option String)).getD none = _
      rw [if_neg hr]
      rfl

/-- What it records a run that is being recovered has recorded already. -/
theorem agreed_executeRecovery (hgood : s.Agreed) (runId : String) :
    (s.executeRecovery runId).Agreed := by
  obtain ⟨hcoordinator, hpoints⟩ := s.executeRecovery_effect runId
  intro r hrec
  rw [hcoordinator] at hrec
  obtain ⟨hresume, hworker⟩ := hgood r hrec
  have hpoint : (s.executeRecovery runId).getRecoveryCheckpoint r = s.getRecoveryCheckpoint r := by
    rw [hpoints, hresume, ite_self]
  constructor
  · rw [hcoordinator, hpoint]
    exact hresume
  · rw [hcoordinator, hpoint]
    exact hworker

/-- **A resume.**  It moves a failed run to `RECOVERING` and records nothing. -/
theorem agreed_resumeRun_iff (hs : s.Settled) (hgood : s.Agreed) (runId : String) (now : Nat) :
    (s.resumeRun runId now).Agreed ↔ s.KeepsPoint (.resumeRun runId) := by
  have hc : s.controlPlane.coordinator.Coherent := hs.coherent
  obtain ⟨_, _, hrecords, hstates⟩ := ControlPlane.resumeRun_effect hc runId now
  have hnamed : (s.resumeRun runId now).Named runId ↔ s.Named runId :=
    names_congr (committedAt_congr hrecords) _
  rw [agreed_iff_of_others runId hgood, hnamed]
  · have hself : (s.resumeRun runId now).coordinator.runState runId =
        (s.coordinator.runState runId).map ControlPlane.resumed :=
      (hstates runId).trans (if_pos rfl)
    rw [hself]
    apply imp_congr_left
    cases s.coordinator.runState runId with
    | none => exact iff_of_false (fun heq => by cases heq) fun heq => by cases heq
    | some state => cases state <;> simp [ControlPlane.resumed]
  · intro r hr
    exact steady_of_runState hrecords fun hrec => ((hstates r).trans (if_neg hr)).symm.trans hrec

end

/-! ## Runs -/

section
variable {s s' : RecoveryPlane}

/-- **One event.** -/
theorem agreed_step_iff (hs : s.Settled) (hgood : s.Agreed) {event : RecoveryEvent × Nat}
    (h : s.step event = some s') : s'.Agreed ↔ s.KeepsPoint event.1 := by
  obtain ⟨event, now⟩ := event
  cases event with
  | op op =>
      obtain ⟨hfresh, hserved⟩ := Option.ite_none_right_eq_some.mp h
      obtain rfl := Option.some.inj hserved
      exact agreed_serve_iff hs hgood hfresh now
  | workerFailure workerId runId callback =>
      obtain rfl := Option.some.inj h
      obtain ⟨_, hhandled, hunchanged⟩ := onWorkerFailure_effect now hs.coherent (hs.notMem runId)
        (quiet_invoke callback runId) workerId
      by_cases hf : s.Failable runId
      · have hone := hhandled hf
        rw [(hone.recovered hone.called).agreed_iff hgood, hone.recovering_iff, Bool.and_eq_true]
        exact ⟨fun hall _ hauto hsup => hall ⟨hauto, hsup⟩, fun hall hon => hall hf hon.1 hon.2⟩
      · obtain ⟨hruns, hrecords, hpoints, _⟩ := hunchanged hf
        refine iff_of_true (agreed_of_steady hgood fun r => ?_) fun hyes => absurd hyes hf
        exact steady_of_kept (hruns r) (hpoints r) fun id info _ _ => by rw [hrecords]
  | recoverRun runId callback =>
      obtain rfl := Option.some.inj h
      exact agreed_recoverRun_iff hs hgood callback now
  | executeRecovery runId =>
      obtain rfl := Option.some.inj h
      exact iff_of_true (agreed_executeRecovery hgood runId) trivial
  | resumeRun runId =>
      obtain rfl := Option.some.inj h
      exact agreed_resumeRun_iff hs hgood runId now
  | restart =>
      obtain rfl := Option.some.inj h
      -- the new manager has recorded nothing
      exact agreed_iff_named

end

/-- **One recovery point.**  In every run the recovery manager, the resume and
the worker name the same checkpoint of each run that is being recovered, exactly
when every event keeps it so. -/
theorem same_point_iff (store : KVStore) (autoRecover hasSupervisor : Bool)
    (events : List (RecoveryEvent × Nat)) :
    PartialRun.Throughout step Agreed (init store autoRecover hasSupervisor) events ↔
      PartialRun.Guarded step (fun s event => s.KeepsPoint event.1)
        (init store autoRecover hasSupervisor) events :=
  PartialRun.throughout_iff_guarded step (fun _ _ _ hs hstep => settled_step hs hstep)
    (fun _ _ _ hs hgood hstep => agreed_step_iff hs hgood hstep)
    (settled_init store autoRecover hasSupervisor) fun _ hrec => by cases hrec

/-- A run with a committed checkpoint that fails and is resumed through the
endpoint. -/
def resumedRun : List (RecoveryEvent × Nat) :=
  [(.op (.createRun demoRun "a1"), 1), (.op (.transitionRun "a1" .running), 2),
    (.op (.createCheckpoint "a1" 10 [] "c1"), 3),
    (.op (.updateCheckpointState "c1" .committed none none none), 4),
    (.op (.setRunError "a1" "Manual failure trigger"), 5), (.resumeRun "a1", 6)]

/-- A run with two committed checkpoints of one step whose worker fails. -/
def tiedRun : List (RecoveryEvent × Nat) :=
  [(.op (.createRun demoRun "a1"), 1), (.op (.transitionRun "a1" .running), 2),
    (.op (.createCheckpoint "a1" 10 [] "c1"), 3),
    (.op (.updateCheckpointState "c1" .committed none none none), 4),
    (.op (.createCheckpoint "a1" 10 [] "c2"), 5),
    (.op (.updateCheckpointState "c2" .committed none none none), 6),
    (.workerFailure "w1" "a1" (.answer .scheduled), 7)]

/-- After the resume the recovery manager says that there is nothing to resume
from while the worker loads `c1`; after the failure a resume chooses `c2` while
the worker loads `c1`. -/
theorem points_disagree :
    ¬ PartialRun.Throughout step Agreed (init .etcdKVStore true true) resumedRun ∧
      ¬ PartialRun.Throughout step Agreed (init .etcdKVStore true true) tiedRun := by
  constructor
  · intro h
    let resumed := (PartialRun.run step (init .etcdKVStore true true) resumedRun).get
      (by decide +kernel)
    have hrun : PartialRun.run step (init .etcdKVStore true true) resumedRun = some resumed :=
      (Option.some_get _).symm
    have hworker := ((h.at_end step hrun) "a1" (by decide +kernel)).worker
    exact absurd hworker (by decide +kernel)
  · intro h
    let tied := (PartialRun.run step (init .etcdKVStore true true) tiedRun).get
      (by decide +kernel)
    have hrun : PartialRun.run step (init .etcdKVStore true true) tiedRun = some tied :=
      (Option.some_get _).symm
    have hresume := ((h.at_end step hrun) "a1" (by decide +kernel)).resume
    exact absurd hresume (by decide +kernel)

end RecoveryPlane

end CheckpointRuntime
