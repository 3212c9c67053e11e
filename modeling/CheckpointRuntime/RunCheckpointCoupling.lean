import CheckpointRuntime.RequestSequence
import CheckpointRuntime.HandlerEffects
import CheckpointRuntime.Library.PartialRun

/-!
# Run states and checkpoint states

A run in `CHECKPOINTING` should have exactly one open checkpoint, and any
other run none.  The handlers update the two by separate calls, and this file
finds the steps that keep them together: `KeepsCoupling` decides, request by
request, whether the coupling survives, so the sequences of requests that
stay coupled are exactly the ones that meet it at every step.
-/

namespace CheckpointRuntime

open Coordinator ControlPlane PartialRun

namespace Coordinator

/-- The checkpoint is one of the run, and its outcome is undecided. -/
def OpenFor (c : Coordinator) (runId checkpointId : String) : Prop :=
  ∃ info, c.getCheckpoint checkpointId = some info ∧ info.runId = runId ∧ info.isOpen

/-- Run states and checkpoint states agree about which checkpoints are being
taken. -/
def Coupled (c : Coordinator) : Prop :=
  ∀ runId state, c.runState runId = some state →
    (state = .checkpointing → ∃! checkpointId, c.OpenFor runId checkpointId) ∧
    (state ≠ .checkpointing → ∀ checkpointId, ¬ c.OpenFor runId checkpointId)

theorem coupled_init (store : KVStore) : (init store).Coupled := by
  intro runId state h
  simp [init, runState, getRun] at h

/-- A coordinator with the same records has the same open checkpoints. -/
theorem openFor_congr {c c' : Coordinator}
    (hrecords : ∀ id, c'.getCheckpoint id = c.getCheckpoint id) (runId checkpointId : String) :
    c'.OpenFor runId checkpointId ↔ c.OpenFor runId checkpointId := by
  rw [OpenFor, OpenFor, hrecords]

/-- An open checkpoint of a coupled run shows that the run is in
`CHECKPOINTING`. -/
theorem Coupled.state_of_openFor {c : Coordinator} (hc : c.Coupled) {runId id : String}
    {state : RunState} (hstate : c.runState runId = some state) (hopen : c.OpenFor runId id) :
    state = .checkpointing := by
  by_contra hne
  exact (hc runId state hstate).2 hne id hopen

/-- **Moves.**  If no record changes and one run moves, the coupling survives
exactly when the run neither enters nor leaves `CHECKPOINTING`. -/
theorem Coupled.move_iff {c c' : Coordinator} (hc : c.Coupled) {runId : String}
    {f : RunState → RunState}
    (hrecords : ∀ id, c'.getCheckpoint id = c.getCheckpoint id)
    (hruns : ∀ r, c'.runState r =
      if r = runId then (c.runState runId).map f else c.runState r) :
    c'.Coupled ↔ ∀ state, c.runState runId = some state →
      (f state = .checkpointing ↔ state = .checkpointing) := by
  constructor
  · intro hc' state hstate
    have hstate' : c'.runState runId = some (f state) := by
      rw [hruns, if_pos rfl, hstate, Option.map_some]
    constructor
    · intro hf
      obtain ⟨id, hopen, _⟩ := (hc' runId _ hstate').1 hf
      exact hc.state_of_openFor hstate ((openFor_congr hrecords _ _).mp hopen)
    · intro hs
      obtain ⟨id, hopen, _⟩ := (hc runId _ hstate).1 hs
      exact hc'.state_of_openFor hstate' ((openFor_congr hrecords _ _).mpr hopen)
  · intro hiff r state' hstate'
    simp only [openFor_congr hrecords]
    rw [hruns] at hstate'
    by_cases hr : r = runId
    · subst hr
      rw [if_pos rfl, Option.map_eq_some_iff] at hstate'
      obtain ⟨state, hstate, rfl⟩ := hstate'
      obtain ⟨hone, hnone⟩ := hc r state hstate
      have hiff' := hiff state hstate
      exact ⟨fun h => hone (hiff'.mp h), fun h => hnone fun hs => h (hiff'.mpr hs)⟩
    · rw [if_neg hr] at hstate'
      exact hc r state' hstate'

/-- Nothing that the coupling speaks about changes. -/
theorem Coupled.of_same {c c' : Coordinator} (hc : c.Coupled)
    (hrecords : ∀ id, c'.getCheckpoint id = c.getCheckpoint id)
    (hruns : ∀ r, c'.runState r = c.runState r) : c'.Coupled := by
  intro runId state hstate
  rw [hruns] at hstate
  simp only [openFor_congr hrecords]
  exact hc runId state hstate

/-- **Closing a record.**  If one record of a run is closed while the run ends
up outside `CHECKPOINTING`, the coupling survives exactly when the record was
open or the run had been outside all along. -/
theorem Coupled.close_iff {c c' : Coordinator} (hc : c.Coupled) {runId checkpointId : String}
    {info info' : CheckpointInfo} {f : RunState → RunState} {state : RunState}
    (hinfo : c.getCheckpoint checkpointId = some info) (hrun : info.runId = runId)
    (hstate : c.runState runId = some state)
    (hrecords : ∀ id, c'.getCheckpoint id =
      if id = checkpointId then some info' else c.getCheckpoint id)
    (hclosed : ¬ info'.isOpen)
    (hruns : ∀ r, c'.runState r =
      if r = runId then (c.runState runId).map f else c.runState r)
    (hleft : f state ≠ .checkpointing) :
    c'.Coupled ↔ info.isOpen ∨ state ≠ .checkpointing := by
  have hopen' : ∀ r id, c'.OpenFor r id ↔ id ≠ checkpointId ∧ c.OpenFor r id := by
    intro r id
    unfold OpenFor
    rw [hrecords]
    by_cases hid : id = checkpointId
    · simp [hid, hclosed]
    · simp [hid]
  have hstate' : c'.runState runId = some (f state) := by
    rw [hruns, if_pos rfl, hstate, Option.map_some]
  constructor
  · intro hc'
    by_contra hnot
    obtain ⟨hnotOpen, hs⟩ := not_or.mp hnot
    obtain ⟨id, hopen, _⟩ := (hc runId state hstate).1 (not_not.mp hs)
    have hne : id ≠ checkpointId := by
      intro h
      subst h
      obtain ⟨found, hfound, _, hfoundOpen⟩ := hopen
      obtain rfl := Option.some.inj (hinfo.symm.trans hfound)
      exact hnotOpen hfoundOpen
    exact (hc' runId _ hstate').2 hleft id ((hopen' runId id).mpr ⟨hne, hopen⟩)
  · intro hor r state' hr'
    rw [hruns] at hr'
    by_cases hr : r = runId
    · subst hr
      rw [if_pos rfl, hstate, Option.map_some, Option.some.injEq] at hr'
      subst hr'
      refine ⟨fun h => absurd h hleft, ?_⟩
      intro _ id hopen
      obtain ⟨hne, hopen⟩ := (hopen' r id).mp hopen
      rcases hor with hinfoOpen | hs
      · have hs := hc.state_of_openFor hstate hopen
        have hthis : c.OpenFor r checkpointId := ⟨info, hinfo, hrun, hinfoOpen⟩
        exact hne (((hc r state hstate).1 hs).unique hopen hthis)
      · exact hs (hc.state_of_openFor hstate hopen)
    · rw [if_neg hr] at hr'
      have hsame : ∀ id, c'.OpenFor r id ↔ c.OpenFor r id := by
        intro id
        rw [hopen', and_iff_right_iff_imp]
        intro h h'
        obtain ⟨found, hfound, hfoundRun, _⟩ := h
        subst h'
        obtain rfl := Option.some.inj (hinfo.symm.trans hfound)
        exact hr (hfoundRun.symm.trans hrun)
      simp only [hsame]
      exact hc r state' hr'

/-- Opening one record of a run. -/
theorem openFor_opened_iff {c c' : Coordinator} {runId checkpointId : String}
    {info' : CheckpointInfo} (hrecords : ∀ id, c'.getCheckpoint id =
      if id = checkpointId then some info' else c.getCheckpoint id)
    (hopened : info'.isOpen) (hrun' : info'.runId = runId) (r id : String) :
    c'.OpenFor r id ↔ if id = checkpointId then r = runId else c.OpenFor r id := by
  unfold OpenFor
  rw [hrecords]
  by_cases hid : id = checkpointId
  · simp [hid, hopened, hrun', eq_comm]
  · simp [hid]

/-- **Reopening a record.**  If one record of a run is made open and no run
moves, the coupling survives exactly when the record was open already. -/
theorem Coupled.reopen_iff {c c' : Coordinator} (hc : c.Coupled) {runId checkpointId : String}
    {info info' : CheckpointInfo} {state : RunState}
    (hinfo : c.getCheckpoint checkpointId = some info) (hrun : info.runId = runId)
    (hstate : c.runState runId = some state)
    (hrecords : ∀ id, c'.getCheckpoint id =
      if id = checkpointId then some info' else c.getCheckpoint id)
    (hopened : info'.isOpen) (hrun' : info'.runId = runId)
    (hruns : ∀ r, c'.runState r = c.runState r) :
    c'.Coupled ↔ info.isOpen := by
  have hopen' := openFor_opened_iff hrecords hopened hrun'
  have hstate' : c'.runState runId = some state := by rw [hruns, hstate]
  have hthis' : c'.OpenFor runId checkpointId := by simp [hopen']
  constructor
  · intro hc'
    have hs := hc'.state_of_openFor hstate' hthis'
    obtain ⟨id, hopen, _⟩ := (hc runId state hstate).1 hs
    have hid : id = checkpointId := by
      by_contra hne
      have hother : c'.OpenFor runId id := by simp [hopen', hne, hopen]
      exact hne (((hc' runId state hstate').1 hs).unique hother hthis')
    obtain ⟨found, hfound, _, hfoundOpen⟩ := hopen
    rw [hid, hinfo] at hfound
    obtain rfl := Option.some.inj hfound
    exact hfoundOpen
  · intro hinfoOpen
    have hsame : ∀ r id, c'.OpenFor r id ↔ c.OpenFor r id := by
      intro r id
      rw [hopen']
      split
      · next hid =>
        subst hid
        constructor
        · intro h
          subst h
          exact ⟨info, hinfo, hrun, hinfoOpen⟩
        · intro h
          obtain ⟨found, hfound, hfoundRun, _⟩ := h
          obtain rfl := Option.some.inj (hinfo.symm.trans hfound)
          exact hfoundRun.symm.trans hrun
      · rfl
    intro r state' hr'
    rw [hruns] at hr'
    simp only [hsame]
    exact hc r state' hr'

/-- Opening the first checkpoint of a run that enters `CHECKPOINTING` keeps the
coupling. -/
theorem Coupled.trigger {c c' : Coordinator} (hc : c.Coupled) {runId checkpointId : String}
    {info' : CheckpointInfo} {state : RunState} (hstate : c.runState runId = some state)
    (hs : state ≠ .checkpointing) (hfresh : c.getCheckpoint checkpointId = none)
    (hrecords : ∀ id, c'.getCheckpoint id =
      if id = checkpointId then some info' else c.getCheckpoint id)
    (hopened : info'.isOpen) (hrun' : info'.runId = runId)
    (hruns : ∀ r, c'.runState r = if r = runId then some .checkpointing else c.runState r) :
    c'.Coupled := by
  have hopen' := openFor_opened_iff hrecords hopened hrun'
  intro r state' hr'
  rw [hruns] at hr'
  by_cases hr : r = runId
  · subst hr
    rw [if_pos rfl, Option.some.injEq] at hr'
    subst hr'
    refine ⟨fun _ => ⟨checkpointId, by simp [hopen'], ?_⟩, fun h => absurd rfl h⟩
    intro id hopen
    by_contra hid
    rw [hopen', if_neg hid] at hopen
    exact (hc r state hstate).2 hs id hopen
  · rw [if_neg hr] at hr'
    have hsame : ∀ id, c'.OpenFor r id ↔ c.OpenFor r id := by
      intro id
      rw [hopen']
      split
      · next hid =>
        subst hid
        simp [hr, OpenFor, hfresh]
      · rfl
    simp only [hsame]
    exact hc r state' hr'

/-- Handling a failure keeps the coupling. -/
theorem Coupled.failureHandled {c c' : Coordinator} (hc : c.Coupled) {runId : String}
    {now : Nat} (hfailure : FailureHandled c c' runId now) : c'.Coupled := by
  obtain ⟨hrecords, _, state, hstate, hruns⟩ := hfailure
  have hopen' : ∀ r id, c'.OpenFor r id ↔ r ≠ runId ∧ c.OpenFor r id := by
    intro r id
    unfold OpenFor
    rw [hrecords]
    constructor
    · intro h
      obtain ⟨info', hinfo', hrun, hopen⟩ := h
      obtain ⟨info, hinfo, rfl⟩ := Option.map_eq_some_iff.mp hinfo'
      rw [closedFor_runId] at hrun
      by_cases hclosed : info.runId = runId ∧ info.isOpen
      · rw [closedFor, if_pos hclosed] at hopen
        rcases hopen with h | h <;> cases h
      · rw [closedFor, if_neg hclosed] at hopen
        refine ⟨?_, info, hinfo, hrun, hopen⟩
        intro h
        subst h
        exact hclosed ⟨hrun, hopen⟩
    · intro h
      obtain ⟨hr, info, hinfo, hrun, hopen⟩ := h
      refine ⟨info, ?_, hrun, hopen⟩
      rw [hinfo, Option.map_some, closedFor, if_neg]
      intro h
      obtain ⟨hrun', _⟩ := h
      exact hr (hrun.symm.trans hrun')
  intro r state' hr'
  rw [hruns] at hr'
  by_cases hr : r = runId
  · rw [if_pos hr, Option.some.injEq] at hr'
    have hne : state' ≠ .checkpointing := by
      rw [← hr']
      rcases hstate with rfl | rfl <;> decide
    refine ⟨fun h => absurd h hne, ?_⟩
    intro _ id hopen
    exact ((hopen' r id).mp hopen).1 hr
  · rw [if_neg hr] at hr'
    have hsame : ∀ id, c'.OpenFor r id ↔ c.OpenFor r id := by
      intro id
      rw [hopen', and_iff_right hr]
    simp only [hsame]
    exact hc r state' hr'

end Coordinator

/-! ## The ids of records have been handed out -/

/-- Every record carries ids that were handed out before, and belongs to a run
that exists; the cached machines follow the records. -/
structure Server.Recorded (s : Server) : Prop where
  coherent : s.cp.coordinator.Coherent
  issuedHex : ∀ id ∈ s.issued, isHexId id = true
  runIds : ∀ runId state, s.cp.coordinator.runState runId = some state → runId ∈ s.issued
  checkpointIds : ∀ id info, s.cp.coordinator.getCheckpoint id = some info →
    id ∈ s.issued ∧ ∃ state, s.cp.coordinator.runState info.runId = some state

theorem Server.recorded_init (store : KVStore) (autoRecover hasSupervisor : Bool) :
    (Server.init store autoRecover hasSupervisor).Recorded where
  coherent := coherent_init store
  issuedHex := fun _ h => by cases h
  runIds := by
    intro runId state h
    simp [Server.init, ControlPlane.init, Coordinator.init, runState, getRun] at h
  checkpointIds := by
    intro id info h
    simp [Server.init, ControlPlane.init, Coordinator.init, getCheckpoint] at h

/-- A step that creates neither runs nor checkpoints, and moves no record to
another run, keeps the ids; it may hand out more of them. -/
theorem Server.Recorded.of_growth {s s' : Server} (hs : s.Recorded)
    (hissued : ∀ id ∈ s.issued, id ∈ s'.issued) (hhex : ∀ id ∈ s'.issued, isHexId id = true)
    (hcoherent : s'.cp.coordinator.Coherent)
    (hruns : ∀ r, (s'.cp.coordinator.runState r).isSome = (s.cp.coordinator.runState r).isSome)
    (hrecords : ∀ id info', s'.cp.coordinator.getCheckpoint id = some info' →
      ∃ info, s.cp.coordinator.getCheckpoint id = some info ∧ info'.runId = info.runId) :
    s'.Recorded where
  coherent := hcoherent
  issuedHex := hhex
  runIds := by
    intro runId state h
    have hsome : (s.cp.coordinator.runState runId).isSome := by rw [← hruns, h]; rfl
    obtain ⟨old, hold⟩ := Option.isSome_iff_exists.mp hsome
    exact hissued runId (hs.runIds runId old hold)
  checkpointIds := by
    intro id info' h
    obtain ⟨info, hinfo, hrun⟩ := hrecords id info' h
    obtain ⟨hmem, state, hstate⟩ := hs.checkpointIds id info hinfo
    refine ⟨hissued id hmem, Option.isSome_iff_exists.mp ?_⟩
    rw [hruns, hrun, hstate]
    rfl

theorem Server.Recorded.of_effect {s s' : Server} (hs : s.Recorded)
    (hissued : s'.issued = s.issued) (hcoherent : s'.cp.coordinator.Coherent)
    (hruns : ∀ r, (s'.cp.coordinator.runState r).isSome = (s.cp.coordinator.runState r).isSome)
    (hrecords : ∀ id info', s'.cp.coordinator.getCheckpoint id = some info' →
      ∃ info, s.cp.coordinator.getCheckpoint id = some info ∧ info'.runId = info.runId) :
    s'.Recorded :=
  hs.of_growth (fun _ hid => hissued ▸ hid) (hissued ▸ hs.issuedHex) hcoherent hruns hrecords

/-- Moving one run, or none, loses and adds none. -/
theorem isSome_runState_move {c c' : Coordinator} {runId : String} {f : RunState → RunState}
    (hruns : ∀ r, c'.runState r =
      if r = runId then (c.runState runId).map f else c.runState r) (r : String) :
    (c'.runState r).isSome = (c.runState r).isSome := by
  rw [hruns]
  by_cases hr : r = runId
  · simp [hr]
  · simp [hr]

/-- Rewriting one record adds none and keeps its run. -/
theorem exists_record_update {c c' : Coordinator} {checkpointId : String}
    {state : CheckpointState} {summary : Option ShardSummary} {now : Nat}
    (hrecords : ∀ other, c'.getCheckpoint other =
      if other = checkpointId then
        (c.getCheckpoint checkpointId).map (fun info => updatedInfo info state summary now)
      else c.getCheckpoint other) (id : String) (info' : CheckpointInfo)
    (h : c'.getCheckpoint id = some info') :
    ∃ info, c.getCheckpoint id = some info ∧ info'.runId = info.runId := by
  rw [hrecords] at h
  split at h
  · next hid =>
    obtain ⟨info, hinfo, rfl⟩ := Option.map_eq_some_iff.mp h
    exact ⟨info, by rw [hid]; exact hinfo, rfl⟩
  · exact ⟨info', h, rfl⟩

/-- An upload that has called the data plane: the record exists under the run,
and the call carries what the request had. -/
theorem ControlPlane.uploadShardBegin_eq_ok {cp : ControlPlane}
    {runId checkpointId shardId : String} {body : Bytes} {header : RankHeader}
    {call : UploadCall}
    (h : cp.uploadShardBegin runId checkpointId shardId body header = .ok call) :
    (∃ info, cp.coordinator.getCheckpoint checkpointId = some info ∧ info.runId = runId) ∧
      body ≠ [] ∧
      call = { runId := runId, checkpointId := checkpointId, shardId := shardId,
               rank := header.rank, body := body } := by
  unfold uploadShardBegin at h
  cases hcheck : cp.uploadShardCheck runId checkpointId with
  | error e => simp [hcheck, bind, Except.bind] at h
  | ok u =>
      simp only [hcheck, bind, Except.bind] at h
      obtain ⟨hbody, _, hcall⟩ := uploadShardReceive_eq_ok.mp h
      exact ⟨(uploadShardCheck_eq_ok.mp hcheck).2, hbody, hcall⟩

/-- What `upload_shard` does to the records once its body has been accepted:
one record of its run is rewritten, to `IN_PROGRESS` on success and to
`FAILED` otherwise, and only a failure moves the run. -/
theorem ControlPlane.uploadShardFinish_effect {cp : ControlPlane}
    (hc : cp.coordinator.Coherent) (call : UploadCall)
    (reply : Except String WriteShardResult) (now : Nat) :
    let out := (cp.uploadShardFinish call reply now).1
    let state : CheckpointState := if uploadAccepted reply then .inProgress else .failed
    let f := fun state : RunState =>
      if uploadAccepted reply = false ∧ .failed ∈ validTransitions state then .failed else state
    out.coordinator.Coherent ∧
    (∃ summary, ∀ other, out.coordinator.getCheckpoint other =
      if other = call.checkpointId then
        (cp.coordinator.getCheckpoint call.checkpointId).map
          (fun info => updatedInfo info state summary now)
      else cp.coordinator.getCheckpoint other) ∧
    ∀ r, out.coordinator.runState r =
      if r = call.runId then (cp.coordinator.runState call.runId).map f
      else cp.coordinator.runState r := by
  cases hreply : uploadAccepted reply with
  | false =>
      obtain ⟨failureMessage, exception, hout⟩ := uploadShardFinish_rejected cp call hreply now
      obtain ⟨hcoherent, _, hrecords, hruns⟩ := failCheckpoint_effect (α := WriteShardResult) hc
        call.runId call.checkpointId failureMessage exception now
      simp only [hout, Bool.false_eq_true, if_false, true_and]
      exact ⟨hcoherent, ⟨none, hrecords⟩, hruns⟩
  | true =>
      cases reply with
      | error e => cases hreply
      | ok result =>
          obtain ⟨hcoherent, _, hrecords, hruns⟩ := uploadShardFinish_accepted hc call hreply now
          refine ⟨hcoherent, ⟨_, hrecords⟩, ?_⟩
          intro r
          rw [hruns]
          by_cases hr : r = call.runId <;> simp [hr]

/-- What `commit_run` does to the records once it has chosen a checkpoint: its
record is rewritten, to `COMMITTED` on success and to `FAILED` otherwise, and
the run leaves `CHECKPOINTING`. -/
theorem ControlPlane.commitRunFinish_effect {cp : ControlPlane}
    (hc : cp.coordinator.Coherent) (call : CommitCall) {info : CheckpointInfo}
    (hinfo : cp.coordinator.getCheckpoint call.checkpointId = some info)
    (reply : Except String CommitResponse) (now : Nat) :
    let out := (cp.commitRunFinish call reply now).1
    let state : CheckpointState := if commitAccepted reply then .committed else .failed
    out.coordinator.Coherent ∧
    (∀ other, out.coordinator.getCheckpoint other =
      if other = call.checkpointId then
        (cp.coordinator.getCheckpoint call.checkpointId).map
          (fun info => updatedInfo info state none now)
      else cp.coordinator.getCheckpoint other) ∧
    ∃ f : RunState → RunState, f .checkpointing ≠ .checkpointing ∧
      ∀ r, out.coordinator.runState r =
        if r = call.runId then (cp.coordinator.runState call.runId).map f
        else cp.coordinator.runState r := by
  cases hreply : commitAccepted reply with
  | false =>
      obtain ⟨failureMessage, exception, hout⟩ := commitRunFinish_rejected cp call hreply now
      obtain ⟨hcoherent, _, hrecords, hruns⟩ := failCheckpoint_effect (α := RunStatus) hc
        call.runId call.checkpointId failureMessage exception now
      simp only [hout, Bool.false_eq_true, if_false]
      exact ⟨hcoherent, hrecords, _, by decide, hruns⟩
  | true =>
      cases reply with
      | error e => cases hreply
      | ok response =>
          obtain ⟨hcoherent, hruns⟩ := runState_commitRunFinish hc call hreply hinfo now
          exact ⟨hcoherent, getCheckpoint_commitRunFinish cp call hreply now, afterCommit,
            by decide, hruns⟩

/-! ## What an atomic request does -/

/-- Where a transition takes a run; one that is not allowed leaves it alone. -/
def towards (target state : RunState) : RunState :=
  if target ∈ validTransitions state then target else state

/-- The run that a request moves, and where it takes it. -/
def AtomicRequest.move? : AtomicRequest → Option (String × (RunState → RunState))
  | .start runId => some (runId, towards .running)
  | .cancel runId => some (runId, towards .cancelled)
  | .complete runId => some (runId, towards .completed)
  | .resume runId => some (runId, resumed)
  | .fail runId _ => some (runId, towards .failed)
  | _ => none

namespace Server

/-- Handing out a fresh id keeps all ids hexadecimal. -/
theorem Recorded.issue {s : Server} (hs : s.Recorded) {id : String}
    (hfresh : freshId s.issued id = true) :
    id ∉ s.issued ∧ ∀ other ∈ id :: s.issued, isHexId other = true := by
  rw [freshId, Bool.and_eq_true, decide_eq_true_eq] at hfresh
  refine ⟨hfresh.2, ?_⟩
  intro other hother
  rcases List.mem_cons.mp hother with rfl | hold
  · exact hfresh.1
  · exact hs.issuedHex other hold

/-- What a request does to the states of the runs and to the records. -/
inductive Effect (s s' : Server) (now : Nat) : AtomicRequest → Prop
  | same {request : AtomicRequest} (hmove : request.move? = none)
      (hrecords : ∀ id, s'.cp.coordinator.getCheckpoint id = s.cp.coordinator.getCheckpoint id)
      (hruns : ∀ r, s'.cp.coordinator.runState r = s.cp.coordinator.runState r) :
      Effect s s' now request
  | moved {request : AtomicRequest} {runId : String} {f : RunState → RunState}
      (hmove : request.move? = some (runId, f))
      (hrecords : ∀ id, s'.cp.coordinator.getCheckpoint id = s.cp.coordinator.getCheckpoint id)
      (hruns : ∀ r, s'.cp.coordinator.runState r =
        if r = runId then (s.cp.coordinator.runState runId).map f
        else s.cp.coordinator.runState r) :
      Effect s s' now request
  | created {config : RunConfig} {runId : String} (hnew : runId ∉ s.issued)
      (hissued : runId ∈ s'.issued)
      (hrecords : ∀ id, s'.cp.coordinator.getCheckpoint id = s.cp.coordinator.getCheckpoint id)
      (hruns : ∀ r, s'.cp.coordinator.runState r =
        if r = runId then some .created else s.cp.coordinator.runState r) :
      Effect s s' now (.createRun config runId)
  | opened {runId checkpointId : String} {step : Option Int} {currentStep : Int}
      (hnew : checkpointId ∉ s.issued) (hissued : checkpointId ∈ s'.issued)
      (hstate : s.cp.coordinator.runState runId = some .running)
      (hrecords : ∀ id, s'.cp.coordinator.getCheckpoint id =
        if id = checkpointId then
          some { checkpointId := checkpointId, runId := runId, step := step.getD currentStep,
                 createdAt := now }
        else s.cp.coordinator.getCheckpoint id)
      (hruns : ∀ r, s'.cp.coordinator.runState r =
        if r = runId then some .checkpointing else s.cp.coordinator.runState r) :
      Effect s s' now (.checkpoint runId step checkpointId)
  | failed {runId : String} {restart : RestartOutcome}
      (hfailure : FailureHandled s.cp.coordinator s'.cp.coordinator runId now) :
      Effect s s' now (.workerFailure runId restart)

/-- The handling of a request. -/
structure Handled (s s' : Server) (now : Nat) (request : AtomicRequest) : Prop where
  coherent : s'.cp.coordinator.Coherent
  shards : s'.cp.checkpointShards = s.cp.checkpointShards
  issued : ∀ id ∈ s.issued, id ∈ s'.issued
  issuedHex : ∀ id ∈ s'.issued, isHexId id = true
  effect : Effect s s' now request

/-- **What an atomic request does.** -/
theorem Recorded.handled {s s' : Server} (hs : s.Recorded) {now : Nat} {request : AtomicRequest}
    (h : s.handle now request = some s') : Handled s s' now request := by
  have hkept : ∀ id ∈ s.issued, id ∈ s.issued := fun _ hid => hid
  have hmoveRun : ∀ (request : AtomicRequest) (runId : String) (target : RunState)
      (edit : RunStatus → RunStatus), (∀ status, (edit status).runId = status.runId) →
      request.move? = some (runId, towards target) →
      Handled s { s with cp := { s.cp with
        coordinator := (s.cp.coordinator.moveRun runId target edit now).1 } } now request := by
    intro request runId target edit hedit hmove
    exact ⟨hs.coherent.moveRun runId target edit hedit now, rfl, hkept, hs.issuedHex,
      .moved hmove (getCheckpoint_congr (checkpoints_moveRun ..))
        (hs.coherent.runState_moveRun runId target edit hedit now)⟩
  cases request with
  | createRun config runId =>
      obtain ⟨hfresh, hsome⟩ := Option.ite_none_right_eq_some.mp h
      obtain rfl := Option.some.inj hsome
      obtain ⟨hnew, hhex⟩ := hs.issue hfresh
      exact ⟨hs.coherent.createRun config runId now, rfl, fun _ => List.mem_cons_of_mem _, hhex,
        .created hnew List.mem_cons_self (fun _ => rfl)
          (runState_createRun s.cp.coordinator config runId now)⟩
  | start runId =>
      obtain rfl := Option.some.inj h
      exact hmoveRun _ runId .running id (fun _ => rfl) rfl
  | cancel runId =>
      obtain rfl := Option.some.inj h
      exact hmoveRun _ runId .cancelled id (fun _ => rfl) rfl
  | complete runId =>
      obtain rfl := Option.some.inj h
      exact hmoveRun _ runId .completed id (fun _ => rfl) rfl
  | checkpoint runId step checkpointId =>
      obtain ⟨hfresh, hsome⟩ := Option.ite_none_right_eq_some.mp h
      obtain rfl := Option.some.inj hsome
      obtain ⟨hnew, hhex⟩ := hs.issue hfresh
      by_cases hstate : s.cp.coordinator.runState runId = some .running
      · obtain ⟨status, hrun, hrunning⟩ := Option.map_eq_some_iff.mp hstate
        obtain ⟨_, hcoherent, hshards, hruns, hrecords, _⟩ := triggerCheckpoint_running
          hs.coherent hrun hrunning step checkpointId now
        exact ⟨hcoherent, hshards, fun _ => List.mem_cons_of_mem _, hhex,
          .opened hnew List.mem_cons_self hstate hrecords hruns⟩
      · obtain ⟨_, hcoherent, hshards, hget, hrecords⟩ := triggerCheckpoint_refused hs.coherent
          hstate step checkpointId now
        exact ⟨hcoherent, hshards, fun _ => List.mem_cons_of_mem _, hhex,
          .same rfl hrecords fun r => by rw [runState, hget, runState]⟩
  | resume runId =>
      obtain rfl := Option.some.inj h
      obtain ⟨hcoherent, hshards, hrecords, hruns⟩ := resumeRun_effect hs.coherent runId now
      exact ⟨hcoherent, hshards, hkept, hs.issuedHex, .moved rfl hrecords hruns⟩
  | fail runId reason =>
      obtain rfl := Option.some.inj h
      exact hmoveRun _ runId .failed _ (fun _ => rfl) rfl
  | heartbeat runId step =>
      obtain rfl := Option.some.inj h
      obtain ⟨hcoherent, hshards, hrecords, hruns⟩ :=
        heartbeatStep_effect hs.coherent runId step now
      exact ⟨hcoherent, hshards, hkept, hs.issuedHex, .same rfl hrecords hruns⟩
  | workerFailure runId restart =>
      obtain rfl := Option.some.inj h
      obtain ⟨hcoherent, ⟨hrecords, hruns⟩ | hfailure⟩ :=
        onWorkerFailure_effect s.recovery hs.coherent runId restart now
      · exact ⟨hcoherent, rfl, hkept, hs.issuedHex, .same rfl hrecords hruns⟩
      · exact ⟨hcoherent, rfl, hkept, hs.issuedHex, .failed hfailure⟩

/-- Every atomic request keeps the ids. -/
theorem Recorded.handle {s s' : Server} (hs : s.Recorded) {now : Nat} {request : AtomicRequest}
    (hstep : s.handle now request = some s') : s'.Recorded := by
  obtain ⟨hcoherent, _, hissued, hhex, heffect⟩ := hs.handled hstep
  cases heffect with
  | same _ hrecords hruns =>
      exact hs.of_growth hissued hhex hcoherent (fun r => by rw [hruns])
        fun id info h => ⟨info, hrecords id ▸ h, rfl⟩
  | moved _ hrecords hruns =>
      exact hs.of_growth hissued hhex hcoherent (isSome_runState_move hruns)
        fun id info h => ⟨info, hrecords id ▸ h, rfl⟩
  | created _ hmem hrecords hruns =>
      refine ⟨hcoherent, hhex, ?_, ?_⟩
      · intro r state h
        rw [hruns] at h
        split at h
        · next hr => exact hr ▸ hmem
        · exact hissued r (hs.runIds r state h)
      · intro id info h
        rw [hrecords] at h
        obtain ⟨hold, state, hstate⟩ := hs.checkpointIds id info h
        refine ⟨hissued id hold, Option.isSome_iff_exists.mp ?_⟩
        rw [hruns, hstate]
        split <;> rfl
  | @opened runId checkpointId step currentStep _ hmem hstate hrecords hruns =>
      refine ⟨hcoherent, hhex, ?_, ?_⟩
      · intro r state h
        rw [hruns] at h
        split at h
        · next hr => exact hissued r (hr ▸ hs.runIds runId _ hstate)
        · exact hissued r (hs.runIds r state h)
      · intro id info h
        rw [hrecords] at h
        split at h
        · next hid =>
          obtain rfl := Option.some.inj h
          exact ⟨hid ▸ hmem, .checkpointing, (hruns runId).trans (if_pos rfl)⟩
        · obtain ⟨hold, state, hfound⟩ := hs.checkpointIds id info h
          refine ⟨hissued id hold, Option.isSome_iff_exists.mp ?_⟩
          rw [hruns, hfound]
          split <;> rfl
  | @failed runId restart hfailure =>
      obtain ⟨hrecords, hexists, state, _, hruns⟩ := hfailure
      apply hs.of_growth hissued hhex hcoherent
      · intro r
        rw [hruns]
        by_cases hr : r = runId
        · rw [if_pos hr, hr, hexists]
          rfl
        · rw [if_neg hr]
      · intro id info h
        rw [hrecords] at h
        obtain ⟨old, hold, rfl⟩ := Option.map_eq_some_iff.mp h
        exact ⟨old, hold, closedFor_runId ..⟩

/-- Every request keeps the ids. -/
theorem Recorded.serve {s s' : Server} (hs : s.Recorded) {event : Request × Nat}
    (hstep : s.serve event = some s') : s'.Recorded := by
  obtain ⟨request, now⟩ := event
  cases request with
  | atomic request => exact hs.handle hstep
  | upload runId checkpointId shardId body header reply =>
      obtain rfl := Option.some.inj hstep
      simp only [uploadShard]
      split
      · exact hs
      · next call _ =>
        obtain ⟨hcoherent, ⟨_, hrecords⟩, hruns⟩ := uploadShardFinish_effect hs.coherent call
          reply now
        exact hs.of_effect rfl hcoherent (isSome_runState_move hruns)
          (exists_record_update hrecords)
  | commit runId reply =>
      obtain rfl := Option.some.inj hstep
      simp only [commitRun]
      split
      · exact hs
      · next call hcall =>
        obtain ⟨_, active, hactive, _, _, rfl⟩ := commitRunBegin_eq_ok.mp hcall
        obtain ⟨hinfo, _, _⟩ := activeCheckpoint_spec hactive
        obtain ⟨hcoherent, hrecords, f, _, hruns⟩ := commitRunFinish_effect hs.coherent
          { runId := runId, checkpointId := active.checkpointId, step := active.step,
            shards := s.cp.shardsOf active.checkpointId } hinfo (CommitCall.reply _ reply) now
        exact hs.of_effect rfl hcoherent (isSome_runState_move hruns)
          (exists_record_update hrecords)

/-! ## The requests that keep the coupling -/

/-- The condition under which a request keeps run states and checkpoint states
coupled.  Start, resume and fail leave the open checkpoint of a run in
`CHECKPOINTING` behind; an upload to a decided checkpoint reopens it, or fails
a run whose open checkpoint is another one. -/
def KeepsCoupling (s : Server) (event : Request × Nat) : Prop :=
  match event.1 with
  | .atomic (.start runId) | .atomic (.resume runId) | .atomic (.fail runId _) =>
      s.cp.coordinator.runState runId ≠ some .checkpointing
  | .atomic _ | .commit _ _ => True
  | .upload runId checkpointId shardId body header reply =>
      (∃ call, s.cp.uploadShardBegin runId checkpointId shardId body header = .ok call) →
        s.cp.coordinator.OpenFor runId checkpointId ∨
          (uploadAccepted reply = false ∧
            s.cp.coordinator.runState runId ≠ some .checkpointing)

/-- A request that moves no run keeps the coupling. -/
theorem keepsCoupling_of_move {s : Server} {request : AtomicRequest}
    (hmove : request.move? = none) (now : Nat) : s.KeepsCoupling (.atomic request, now) := by
  cases request with
  | start | resume | fail => cases hmove
  | _ => trivial

/-- A move that takes its run neither into nor out of `CHECKPOINTING`. -/
theorem move_keepsCoupling_iff {s : Server} {request : AtomicRequest} {runId : String}
    {f : RunState → RunState} (hmove : request.move? = some (runId, f)) (now : Nat) :
    (∀ state, s.cp.coordinator.runState runId = some state →
        (f state = .checkpointing ↔ state = .checkpointing)) ↔
      s.KeepsCoupling (.atomic request, now) := by
  have hleaves : (∀ state, f state ≠ .checkpointing) →
      ((∀ state, s.cp.coordinator.runState runId = some state →
          (f state = .checkpointing ↔ state = .checkpointing)) ↔
        s.cp.coordinator.runState runId ≠ some .checkpointing) := by
    intro hf
    constructor
    · intro h hstate
      exact hf _ ((h _ hstate).mpr rfl)
    · intro h state hstate
      exact iff_of_false (hf state) fun heq => h (heq ▸ hstate)
  have hstays : (∀ state, f state = .checkpointing ↔ state = .checkpointing) →
      ((∀ state, s.cp.coordinator.runState runId = some state →
        (f state = .checkpointing ↔ state = .checkpointing)) ↔ True) :=
    fun hf => iff_of_true (fun state _ => hf state) trivial
  cases request with
  | start r =>
      obtain ⟨rfl, rfl⟩ := Prod.mk.inj (Option.some.inj hmove)
      exact hleaves fun state => by cases state <;> decide
  | cancel r =>
      obtain ⟨rfl, rfl⟩ := Prod.mk.inj (Option.some.inj hmove)
      exact hstays fun state => by cases state <;> decide
  | complete r =>
      obtain ⟨rfl, rfl⟩ := Prod.mk.inj (Option.some.inj hmove)
      exact hstays fun state => by cases state <;> decide
  | resume r =>
      obtain ⟨rfl, rfl⟩ := Prod.mk.inj (Option.some.inj hmove)
      exact hleaves fun state => by cases state <;> decide
  | fail r reason =>
      obtain ⟨rfl, rfl⟩ := Prod.mk.inj (Option.some.inj hmove)
      exact hleaves fun state => by cases state <;> decide
  | createRun | checkpoint | heartbeat | workerFailure => cases hmove

/-- An atomic request keeps the coupling exactly under its condition. -/
theorem coupled_handle_iff {s s' : Server} (hs : s.Recorded) (hc : s.cp.coordinator.Coupled)
    {now : Nat} {request : AtomicRequest} (hstep : s.handle now request = some s') :
    s'.cp.coordinator.Coupled ↔ s.KeepsCoupling (.atomic request, now) := by
  cases (hs.handled hstep).effect with
  | same hmove hrecords hruns =>
      exact iff_of_true (hc.of_same hrecords hruns) (keepsCoupling_of_move hmove now)
  | moved hmove hrecords hruns =>
      rw [hc.move_iff hrecords hruns]
      exact move_keepsCoupling_iff hmove now
  | @created config runId hnew _ hrecords hruns =>
      refine iff_of_true ?_ trivial
      intro r state h
      rw [hruns] at h
      simp only [openFor_congr hrecords]
      split at h
      · next hr =>
        obtain rfl := Option.some.inj h
        refine ⟨(fun h => absurd h (by decide)), ?_⟩
        intro _ id hopen
        obtain ⟨info, hinfo, hrun, _⟩ := hopen
        obtain ⟨_, old, hold⟩ := hs.checkpointIds id info hinfo
        rw [hrun, hr] at hold
        exact hnew (hs.runIds runId old hold)
      · exact hc r state h
  | @opened runId checkpointId step currentStep hnew _ hstate hrecords hruns =>
      have hnone : s.cp.coordinator.getCheckpoint checkpointId = none := by
        cases hinfo : s.cp.coordinator.getCheckpoint checkpointId with
        | none => rfl
        | some info => exact absurd (hs.checkpointIds checkpointId info hinfo).1 hnew
      exact iff_of_true (hc.trigger hstate (by decide) hnone hrecords (Or.inl rfl) rfl hruns)
        trivial
  | failed hfailure => exact iff_of_true (hc.failureHandled hfailure) trivial

/-- An upload keeps the coupling exactly under its condition. -/
theorem coupled_upload_iff {s : Server} (hs : s.Recorded) (hc : s.cp.coordinator.Coupled)
    (runId checkpointId shardId : String) (body : Bytes) (header : RankHeader)
    (reply : Except String WriteShardResult) (now : Nat) :
    (s.cp.uploadShard runId checkpointId shardId body header reply now).1.coordinator.Coupled ↔
      s.KeepsCoupling (.upload runId checkpointId shardId body header reply, now) := by
  unfold uploadShard
  simp only [KeepsCoupling]
  cases hbegin : s.cp.uploadShardBegin runId checkpointId shardId body header with
  | error e => exact iff_of_true hc fun h => by simp at h
  | ok call =>
      obtain ⟨⟨info, hinfo, hrun⟩, _, hcall⟩ := uploadShardBegin_eq_ok hbegin
      have hcallRun : call.runId = runId := by rw [hcall]
      have hcallCheckpoint : call.checkpointId = checkpointId := by rw [hcall]
      subst hcallRun hcallCheckpoint
      obtain ⟨_, state, hstate⟩ := hs.checkpointIds _ info hinfo
      rw [hrun] at hstate
      obtain ⟨_, ⟨summary, hrecords⟩, hruns⟩ := uploadShardFinish_effect hs.coherent call reply now
      simp only [hinfo, Option.map_some] at hrecords
      have hopen : s.cp.coordinator.OpenFor call.runId call.checkpointId ↔ info.isOpen := by
        constructor
        · intro h
          obtain ⟨found, hfound, _, hfoundOpen⟩ := h
          obtain rfl := Option.some.inj (hinfo.symm.trans hfound)
          exact hfoundOpen
        · exact fun h => ⟨info, hinfo, hrun, h⟩
      have hsome : ∃ c, (Except.ok call : Except HttpException UploadCall) = .ok c := ⟨call, rfl⟩
      simp only [hsome, true_implies, hopen]
      cases hreply : uploadAccepted reply with
      | true =>
          simp only [hreply] at hrecords hruns
          have hsame : ∀ r, (s.cp.uploadShardFinish call reply now).1.coordinator.runState r =
              s.cp.coordinator.runState r := by
            intro r
            rw [hruns]
            by_cases hr : r = call.runId <;> simp [hr]
          have hiff := hc.reopen_iff hinfo hrun hstate hrecords (Or.inr rfl) hrun hsame
          simpa using hiff
      | false =>
          simp only [hreply] at hrecords hruns
          have hleft : (if True ∧ RunState.failed ∈ validTransitions state
              then RunState.failed else state) ≠ .checkpointing := by
            cases state <;> decide
          have hclosed : ¬ (updatedInfo info .failed summary now).isOpen := by
            intro h
            rcases h with h | h <;> cases h
          have hiff := hc.close_iff hinfo hrun hstate hrecords hclosed hruns hleft
          simpa [hstate] using hiff

/-- A commit keeps the coupling: it acts on the open checkpoint of a run in
`CHECKPOINTING`. -/
theorem coupled_commit {s : Server} (hs : s.Recorded) (hc : s.cp.coordinator.Coupled)
    (runId : String) (reply : Except String CommitResponse) (now : Nat) :
    (s.cp.commitRun runId reply now).1.coordinator.Coupled := by
  unfold commitRun
  cases hbegin : s.cp.commitRunBegin runId with
  | error e => exact hc
  | ok call =>
      obtain ⟨_, active, hactive, _, _, rfl⟩ := commitRunBegin_eq_ok.mp hbegin
      obtain ⟨hinfo, hrun, hprogress⟩ := activeCheckpoint_spec hactive
      obtain ⟨_, state, hstate⟩ := hs.checkpointIds _ active hinfo
      rw [hrun] at hstate
      have hopen : active.isOpen := Or.inr hprogress
      obtain rfl := hc.state_of_openFor hstate ⟨active, hinfo, hrun, hopen⟩
      obtain ⟨_, hrecords, f, hf, hruns⟩ := commitRunFinish_effect hs.coherent
        { runId := runId, checkpointId := active.checkpointId, step := active.step,
          shards := s.cp.shardsOf active.checkpointId } hinfo (CommitCall.reply _ reply) now
      simp only [hinfo, Option.map_some] at hrecords
      refine (hc.close_iff hinfo hrun hstate hrecords ?_ hruns hf).mpr (Or.inl hopen)
      intro h
      unfold CheckpointInfo.isOpen at h
      rw [updatedInfo_state] at h
      split at h <;> rcases h with h | h <;> cases h

/-- **One request.**  From a coupled state, a request keeps run states and
checkpoint states coupled exactly under its condition. -/
theorem coupled_serve_iff {s s' : Server} (hs : s.Recorded) (hc : s.cp.coordinator.Coupled)
    {event : Request × Nat} (hstep : s.serve event = some s') :
    s'.cp.coordinator.Coupled ↔ s.KeepsCoupling event := by
  obtain ⟨request, now⟩ := event
  cases request with
  | atomic request => exact coupled_handle_iff hs hc hstep
  | upload runId checkpointId shardId body header reply =>
      obtain rfl := Option.some.inj hstep
      exact coupled_upload_iff hs hc runId checkpointId shardId body header reply now
  | commit runId reply =>
      obtain rfl := Option.some.inj hstep
      exact iff_of_true (coupled_commit hs hc runId reply now) trivial

/-- **Coupling.**  Run states and checkpoint states stay coupled throughout a
sequence of requests exactly when every request of it meets its condition. -/
theorem coupled_throughout_iff (store : KVStore) (autoRecover hasSupervisor : Bool)
    (events : List (Request × Nat)) :
    Throughout Server.serve (fun s => s.cp.coordinator.Coupled)
      (Server.init store autoRecover hasSupervisor) events ↔
    Guarded Server.serve Server.KeepsCoupling
      (Server.init store autoRecover hasSupervisor) events :=
  throughout_iff_guarded Server.serve
    (fun _ _ _ hs hstep => Recorded.serve hs hstep)
    (fun _ _ _ hs hc hstep => coupled_serve_iff hs hc hstep)
    (recorded_init store autoRecover hasSupervisor) (coupled_init store)

/-- Resuming a run while its checkpoint is being taken leaves the checkpoint
open and the run in `RUNNING`. -/
theorem resume_breaks_coupling :
    ¬ Throughout Server.serve (fun s => s.cp.coordinator.Coupled)
      (Server.init .inMemoryKVStore true true)
      [(.atomic (.createRun { name := "run", numWorkers := 1 } "00000000000000a1"), 1),
        (.atomic (.start "00000000000000a1"), 2),
        (.atomic (.checkpoint "00000000000000a1" (some 10) "00000000000000c1"), 3),
        (.atomic (.resume "00000000000000a1"), 4)] := by
  intro h
  have hend := h.at_end Server.serve rfl
  apply (hend "00000000000000a1" .running rfl).2 (by decide) "00000000000000c1"
  exact ⟨_, rfl, rfl, Or.inl rfl⟩

end Server

end CheckpointRuntime
