import CheckpointRuntime.SystemRecords
import CheckpointRuntime.UploadHistory

/-!
# The outcome of a checkpoint

A checkpoint is decided once its record says `COMMITTED` or `FAILED`.  Atomic
requests move open records only; an upload and a commit overwrite the record
when their await ends, whatever it says by then.  So outcomes are final in
exactly those runs in which no such answer finds the record decided otherwise:

* `keepsOutcomes_step_iff` — one step;
* `outcomes_final_iff` — all stretches of all runs.
-/

namespace CheckpointRuntime

open Coordinator ControlPlane PartialRun

/-- A checkpoint whose outcome is known. -/
def CheckpointInfo.isDecided (info : CheckpointInfo) : Prop :=
  info.state = .committed ∨ info.state = .failed

theorem CheckpointInfo.not_isDecided_iff {info : CheckpointInfo} :
    ¬ info.isDecided ↔ info.isOpen := by
  unfold isDecided isOpen
  cases info.state <;> simp

namespace Coordinator

/-- From `c` to `c'`, no decided record changes its state. -/
def KeepsOutcomes (c c' : Coordinator) : Prop :=
  ∀ id info info', c.getCheckpoint id = some info → c'.getCheckpoint id = some info' →
    info.isDecided → info'.state = info.state

theorem KeepsOutcomes.refl (c : Coordinator) : c.KeepsOutcomes c := by
  intro id info info' hinfo hinfo' _
  obtain rfl := Option.some.inj (hinfo.symm.trans hinfo')
  rfl

/-- Outcomes that are kept on the way to a record, and from it, are kept. -/
theorem KeepsOutcomes.trans {c mid c' : Coordinator} (h : c.KeepsOutcomes mid)
    (h' : mid.KeepsOutcomes c')
    (hmid : ∀ id info info', c.getCheckpoint id = some info →
      c'.getCheckpoint id = some info' → ∃ between, mid.getCheckpoint id = some between) :
    c.KeepsOutcomes c' := by
  intro id info info' hinfo hinfo' hdecided
  obtain ⟨between, hbetween⟩ := hmid id info info' hinfo hinfo'
  have hsame := h id info between hinfo hbetween hdecided
  have hstill : between.isDecided := by
    unfold CheckpointInfo.isDecided at hdecided ⊢
    rw [hsame]
    exact hdecided
  exact (h' id between info' hbetween hinfo' hstill).trans hsame

/-- Rewriting one record keeps the outcomes exactly if the record was open, or
decided as it is now. -/
theorem keepsOutcomes_update_iff {c c' : Coordinator} {checkpointId : String}
    {state : CheckpointState} {summary : Option ShardSummary} {now : Nat}
    (hrecords : ∀ other, c'.getCheckpoint other =
      if other = checkpointId then
        (c.getCheckpoint checkpointId).map (fun info => updatedInfo info state summary now)
      else c.getCheckpoint other) :
    c.KeepsOutcomes c' ↔
      ∀ info, c.getCheckpoint checkpointId = some info → info.isOpen ∨ info.state = state := by
  constructor
  · intro h info hinfo
    rcases Classical.em info.isDecided with hdecided | hopen
    · have hinfo' : c'.getCheckpoint checkpointId = some (updatedInfo info state summary now) := by
        rw [hrecords, if_pos rfl, hinfo, Option.map_some]
      exact Or.inr (h checkpointId info _ hinfo hinfo' hdecided).symm
    · exact Or.inl (CheckpointInfo.not_isDecided_iff.mp hopen)
  · intro h id info info' hinfo hinfo' hdecided
    rw [hrecords] at hinfo'
    split at hinfo'
    · next hid =>
      subst hid
      rw [hinfo, Option.map_some] at hinfo'
      obtain rfl := Option.some.inj hinfo'
      rcases h info hinfo with hopen | hsame
      · exact absurd hdecided (CheckpointInfo.not_isDecided_iff.mpr hopen)
      · exact hsame.symm
    · exact KeepsOutcomes.refl c id info info' hinfo hinfo' hdecided

end Coordinator

/-- Atomic requests move open records only. -/
theorem keepsOutcomes_of_recordMove {s s' : Server} (hs : s.Recorded) {now : Nat}
    (hmoves : ∀ id, RecordMove s s' now id) : s.cp.coordinator.KeepsOutcomes s'.cp.coordinator := by
  intro id info info' hinfo hinfo' hdecided
  cases hmoves id with
  | same hsame =>
      rw [hsame] at hinfo'
      exact KeepsOutcomes.refl _ id info info' hinfo hinfo' hdecided
  | closed found hopen hfound _ =>
      obtain rfl := Option.some.inj (hinfo.symm.trans hfound)
      exact absurd hdecided (CheckpointInfo.not_isDecided_iff.mpr hopen)
  | created _ _ hnew _ => exact absurd (hs.checkpointIds id info hinfo).1 hnew

namespace System

/-- The answer of an upload or a commit that an event brings finds its record,
if it is still there, open or decided as the answer decides it. -/
def FindsUndecided (s : System) (event : Event × Nat) : Prop :=
  (∀ call reply, s.uploadAnswer event.1 = some (call, reply) →
    ∀ info, s.server.cp.coordinator.getCheckpoint call.checkpointId = some info →
      info.isOpen ∨ info.state = .failed ∧ uploadAccepted reply = false) ∧
  (∀ call reply, s.commitAnswer event.1 = some (call, reply) →
    ∀ info, s.server.cp.coordinator.getCheckpoint call.checkpointId = some info →
      info.isOpen ∨ info.state = .failed ∧ commitAccepted reply = false ∨
        info.state = .committed ∧ commitAccepted reply = true)

theorem forall_answer_iff {α β : Type} {call : α} {reply : β} {P : α → β → Prop} :
    (∀ c r, some (call, reply) = some (c, r) → P c r) ↔ P call reply := by
  constructor
  · exact fun h => h call reply rfl
  · intro h c r heq
    obtain ⟨rfl, rfl⟩ := Prod.mk.inj (Option.some.inj heq)
    exact h

/-- **One step** keeps the outcomes exactly if it finds its record undecided. -/
theorem keepsOutcomes_step_iff {sha256 : Bytes → String} {s s' : System} {event : Event × Nat}
    (hs : s.server.Recorded) (h : s.step sha256 event = some s') :
    s.server.cp.coordinator.KeepsOutcomes s'.server.cp.coordinator ↔ s.FindsUndecided event := by
  unfold FindsUndecided
  cases step_server h with
  | upload call reply hanswer hcommit hserver =>
      obtain ⟨_, ⟨_, hrecords⟩, _⟩ := uploadShardFinish_effect hs.coherent call reply event.2
      rw [hserver]
      rw [hanswer, hcommit, forall_answer_iff]
      refine (keepsOutcomes_update_iff hrecords).trans (Iff.trans ?_ (and_iff_left (by simp)).symm)
      refine forall_congr' fun info => imp_congr_right fun _ => ?_
      -- an accepted upload writes a state that is no outcome
      cases uploadAccepted reply <;> simp [CheckpointInfo.isOpen]
  | commit call reply hupload hanswer hserver =>
      obtain ⟨_, _, hrecords, _⟩ := commitRunFinish_records hs.coherent call reply event.2
      rw [hserver]
      rw [hanswer, hupload, forall_answer_iff]
      refine (keepsOutcomes_update_iff hrecords).trans (Iff.trans ?_ (and_iff_right (by simp)).symm)
      refine forall_congr' fun info => imp_congr_right fun _ => ?_
      cases commitAccepted reply <;> simp
  | request request hupload hcommit hhandle =>
      refine iff_of_true ?_ (by simp [hupload, hcommit])
      exact keepsOutcomes_of_recordMove hs (Server.handle_records hs hhandle).2.2
  | delete gone hupload hcommit hserver =>
      refine iff_of_true ?_ (by simp [hupload, hcommit])
      rw [hserver]
      intro id info info' hinfo hinfo' hdecided
      rw [setCp, getCheckpoint_deleteCheckpoint] at hinfo'
      split at hinfo'
      · cases hinfo'
      · exact KeepsOutcomes.refl _ id info info' hinfo hinfo' hdecided
  | stay hupload hcommit hserver =>
      refine iff_of_true ?_ (by simp [hupload, hcommit])
      rw [hserver]
      exact KeepsOutcomes.refl _

/-- A record that is there after a run, under an id handed out before it, was
there before the run: what is deleted does not come back. -/
theorem getCheckpoint_before_run {sha256 : Bytes → String} {s s' : System}
    {events : List (Event × Nat)} (hs : s.server.Recorded)
    (h : run (step sha256) s events = some s') {id : String} (hissued : id ∈ s.server.issued)
    {info' : CheckpointInfo} (hinfo' : s'.server.cp.coordinator.getCheckpoint id = some info') :
    ∃ info, s.server.cp.coordinator.getCheckpoint id = some info := by
  induction events generalizing s with
  | nil =>
      obtain rfl := Option.some.inj h
      exact ⟨info', hinfo'⟩
  | cons event events ih =>
      obtain ⟨mid, hmid, hrest⟩ := run_cons_some _ h
      obtain ⟨between, hbetween⟩ :=
        ih (recorded_step hs hmid) hrest (issued_step hs hmid hissued)
      obtain ⟨info, hinfo, _⟩ := getCheckpoint_before_step hs hmid hissued hbetween
      exact ⟨info, hinfo⟩

/-- A run whose answers find their records undecided keeps the outcomes. -/
theorem keepsOutcomes_run {sha256 : Bytes → String} {s s' : System}
    {events : List (Event × Nat)} (hs : s.server.Recorded)
    (hguard : Guarded (step sha256) FindsUndecided s events)
    (h : run (step sha256) s events = some s') :
    s.server.cp.coordinator.KeepsOutcomes s'.server.cp.coordinator := by
  induction events generalizing s with
  | nil =>
      obtain rfl := Option.some.inj h
      exact KeepsOutcomes.refl _
  | cons event events ih =>
      obtain ⟨mid, hmid, hrest⟩ := run_cons_some _ h
      obtain ⟨hundecided, hguardRest⟩ := hguard mid hmid
      have hmidRecorded := recorded_step hs hmid
      refine ((keepsOutcomes_step_iff hs hmid).mpr hundecided).trans
        (ih hmidRecorded hguardRest hrest) ?_
      intro id info info' hinfo hinfo'
      have hissued := issued_step hs hmid (hs.checkpointIds id info hinfo).1
      exact getCheckpoint_before_run hmidRecorded hrest hissued hinfo'

/-- In no stretch of a run does a decided record change its state. -/
def OutcomesFinal (sha256 : Bytes → String) (s : System) (events : List (Event × Nat)) : Prop :=
  ∀ before middle after mid last, events = before ++ middle ++ after →
    run (step sha256) s before = some mid → run (step sha256) mid middle = some last →
    mid.server.cp.coordinator.KeepsOutcomes last.server.cp.coordinator

theorem outcomesFinal_iff_of_recorded (sha256 : Bytes → String) {s : System}
    (hs : s.server.Recorded) (events : List (Event × Nat)) :
    OutcomesFinal sha256 s events ↔ Guarded (step sha256) FindsUndecided s events := by
  constructor
  · intro h
    induction events generalizing s with
    | nil => trivial
    | cons event events ih =>
        intro next hnext
        have hfirst := h [] [event] events s next rfl rfl (by rw [run_cons, hnext]; rfl)
        refine ⟨(keepsOutcomes_step_iff hs hnext).mp hfirst, ih (recorded_step hs hnext) ?_⟩
        intro before middle after mid last hsplit hmid hlast
        refine h (event :: before) middle after mid last (by rw [hsplit]; rfl) ?_ hlast
        rw [run_cons, hnext]
        exact hmid
  · intro h before middle after mid last hsplit hmid hlast
    rw [hsplit, List.append_assoc, guarded_append _ hmid, guarded_append _ hlast] at h
    have hmidRecorded : mid.server.Recorded :=
      run_invariant _ (fun _ _ _ hs hstep => recorded_step hs hstep) hs hmid
    exact keepsOutcomes_run hmidRecorded h.2.1 hlast

/-- **Outcomes are final** in a run exactly if every answer of an upload or a
commit finds its record undecided. -/
theorem outcomes_final_iff (sha256 : Bytes → String) (store : KVStore)
    (autoRecover hasSupervisor : Bool) (events : List (Event × Nat)) :
    OutcomesFinal sha256 (init store autoRecover hasSupervisor) events ↔
      Guarded (step sha256) FindsUndecided (init store autoRecover hasSupervisor) events :=
  outcomesFinal_iff_of_recorded sha256 (Server.recorded_init store autoRecover hasSupervisor)
    events

/-! ## An upload that outlives its checkpoint -/

/-- The state in a record, at the end of a run. -/
def stateAfter (s : System) (events : List (Event × Nat)) (id : String) :
    Option CheckpointState := do
  let last ← run (step World.digestOfBody) s events
  let info ← last.server.cp.coordinator.getCheckpoint id
  return info.state

theorem stateAfter_eq_some {s : System} {events : List (Event × Nat)} {id : String}
    {state : CheckpointState} (h : stateAfter s events id = some state) :
    ∃ last info, run (step World.digestOfBody) s events = some last ∧
      last.server.cp.coordinator.getCheckpoint id = some info ∧ info.state = state := by
  obtain ⟨last, hlast, h⟩ := Option.bind_eq_some_iff.mp h
  obtain ⟨info, hinfo, h⟩ := Option.bind_eq_some_iff.mp h
  exact ⟨last, info, hlast, hinfo, Option.some.inj h⟩

/-- In a run whose outcomes are final, a record that has failed stays so. -/
theorem OutcomesFinal.stateAfter {s : System} {events later : List (Event × Nat)}
    (h : OutcomesFinal World.digestOfBody s (events ++ later)) {id : String}
    {state state' : CheckpointState} (hdecided : state = .committed ∨ state = .failed)
    (hstate : s.stateAfter events id = some state)
    (hstate' : s.stateAfter (events ++ later) id = some state') : state' = state := by
  obtain ⟨mid, info, hmid, hinfo, rfl⟩ := stateAfter_eq_some hstate
  obtain ⟨last, info', hlast, hinfo', rfl⟩ := stateAfter_eq_some hstate'
  rw [run_append, hmid, Option.bind_some] at hlast
  exact h events later [] mid last (List.append_nil _).symm hmid hlast id info info' hinfo hinfo'
    hdecided

/-- A shard is written while its worker is lost: recovery fails the checkpoint,
and the upload reopens it. -/
theorem late_upload_reopens_failed_checkpoint :
    ¬ OutcomesFinal World.digestOfBody (init .inMemoryKVStore true true)
      (openEvents ++ writeEvents 0 0 "rank-0" [97] "123e4567-e89b-42d3-a456-426614174000" ++
        [(.request (.workerFailure "00000000000000a1" .scheduled), 5)] ++
        [(.uploadReply 0, 6)]) := by
  intro h
  have hstates : stateAfter (init .inMemoryKVStore true true)
        (openEvents ++ writeEvents 0 0 "rank-0" [97] "123e4567-e89b-42d3-a456-426614174000" ++
          [(.request (.workerFailure "00000000000000a1" .scheduled), 5)]) "00000000000000c1" =
        some .failed ∧
      stateAfter (init .inMemoryKVStore true true)
        (openEvents ++ writeEvents 0 0 "rank-0" [97] "123e4567-e89b-42d3-a456-426614174000" ++
          [(.request (.workerFailure "00000000000000a1" .scheduled), 5)] ++
          [(.uploadReply 0, 6)]) "00000000000000c1" = some .inProgress := by decide +kernel
  have hsame := h.stateAfter (Or.inr rfl) hstates.1 hstates.2
  cases hsame

end System

end CheckpointRuntime
