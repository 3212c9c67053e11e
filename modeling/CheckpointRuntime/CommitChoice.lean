import CheckpointRuntime.RunCheckpointCoupling
import CheckpointRuntime.Library.StableListing

/-!
# Which checkpoint a commit picks

A commit request names its run only.  This file follows the checkpoint that
each run is taking, which is the one its last successful trigger created, and
compares it with the one `commit_run` picks: the last `IN_PROGRESS` record of
a listing sorted by step.
-/

namespace CheckpointRuntime

open Coordinator ControlPlane PartialRun StableListing

/-! ## The pick -/

/-- The checkpoint records of a run, in the order of the store. -/
def Coordinator.recordsOf (c : Coordinator) (runId : String) : List CheckpointInfo :=
  c.checkpoints.rows.filter (fun info => decide (info.runId = runId))

theorem Coordinator.nodup_recordsOf (c : Coordinator) (runId : String) :
    (c.recordsOf runId).Nodup :=
  (c.checkpoints.distinct.of_map _).filter _

/-- A record of the run is in progress, and every other one that is comes
before it: at a smaller step, or at the same step earlier in the store. -/
def Coordinator.InProgressLast (c : Coordinator) (runId : String) (info : CheckpointInfo) : Prop :=
  info ∈ c.recordsOf runId ∧ info.state = .inProgress ∧
  ∀ other ∈ c.recordsOf runId, other.state = .inProgress → other ≠ info →
    Before (·.step) (c.recordsOf runId) other info

/-- A commit picks the record in progress that all others come before. -/
theorem ControlPlane.activeCheckpoint_eq_some_iff {cp : ControlPlane} {runId : String}
    {active : CheckpointInfo} :
    cp.activeCheckpoint runId = some active ↔ cp.coordinator.InProgressLast runId active := by
  have hpick : cp.activeCheckpoint runId =
      lastMatch (·.step) (fun info => decide (info.state = .inProgress))
        (cp.coordinator.recordsOf runId) := rfl
  rw [hpick, lastMatch_eq_some_iff _ (cp.coordinator.nodup_recordsOf runId)]
  simp only [decide_eq_true_eq, InProgressLast]

/-- Between two states a checkpoint became `COMMITTED`. -/
def Coordinator.NewlyCommitted (c c' : Coordinator) (checkpointId : String) : Prop :=
  (∃ info, c'.getCheckpoint checkpointId = some info ∧ info.state = .committed) ∧
  ¬ ∃ info, c.getCheckpoint checkpointId = some info ∧ info.state = .committed

/-- A commit that is answered with a run status commits the record that it
picked, and no other. -/
theorem ControlPlane.newlyCommitted_commitRun {cp : ControlPlane} {runId : String}
    {reply : Except String CommitResponse} {now : Nat} {status : RunStatus}
    (hanswer : (cp.commitRun runId reply now).2 = .answer (.ok status)) :
    ∃ active, cp.activeCheckpoint runId = some active ∧
      ∀ id, NewlyCommitted cp.coordinator (cp.commitRun runId reply now).1.coordinator id ↔
        id = active.checkpointId := by
  unfold commitRun at hanswer ⊢
  cases hbegin : cp.commitRunBegin runId with
  | error e =>
      rw [hbegin] at hanswer
      cases hanswer
  | ok call =>
      simp only [hbegin] at hanswer ⊢
      obtain ⟨_, active, hactive, _, _, hcall⟩ := commitRunBegin_eq_ok.mp hbegin
      obtain ⟨hinfo, _, hstate⟩ := activeCheckpoint_spec hactive
      have hid : call.checkpointId = active.checkpointId := by rw [hcall]
      cases hreply : commitAccepted (call.reply reply) with
      | false =>
          obtain ⟨failureMessage, exception, hout⟩ :=
            commitRunFinish_rejected cp call hreply now
          rw [hout] at hanswer
          simp only [failCheckpoint] at hanswer
          split at hanswer <;> cases hanswer
      | true =>
          cases hcases : call.reply reply with
          | error e =>
              rw [hcases] at hreply
              cases hreply
          | ok response =>
              rw [hcases] at hreply
              have hrecords := getCheckpoint_commitRunFinish cp call hreply now
              refine ⟨active, hactive, ?_⟩
              intro id
              rw [NewlyCommitted, hrecords, hid, hinfo]
              by_cases heq : id = active.checkpointId
              · rw [heq, hinfo]
                simp [hstate]
              · simp [heq]

/-! ## Steps that enter `CHECKPOINTING` for no run -/

/-- Every run that is in `CHECKPOINTING` afterwards was in it before, with the
same last checkpoint. -/
def Coordinator.NoneEntered (c c' : Coordinator) : Prop :=
  ∀ r status', c'.getRun r = some status' → status'.state = .checkpointing →
    ∃ status, c.getRun r = some status ∧ status.state = .checkpointing ∧
      status.lastCheckpointId = status'.lastCheckpointId

namespace Coordinator

theorem NoneEntered.of_getRun {c c' : Coordinator} (h : ∀ r, c'.getRun r = c.getRun r) :
    c.NoneEntered c' := by
  intro r status' hrun hstate
  rw [h] at hrun
  exact ⟨status', hrun, hstate, rfl⟩

theorem NoneEntered.trans {c c' c'' : Coordinator} (h : c.NoneEntered c')
    (h' : c'.NoneEntered c'') : c.NoneEntered c'' := by
  intro r status'' hrun hstate
  obtain ⟨status', hrun', hstate', hlast'⟩ := h' r status'' hrun hstate
  obtain ⟨status, hrun, hstate, hlast⟩ := h r status' hrun' hstate'
  exact ⟨status, hrun, hstate, hlast.trans hlast'⟩

theorem noneEntered_moveRun (c : Coordinator) (runId : String) (target : RunState)
    (edit : RunStatus → RunStatus) (hedit : ∀ status, (edit status).runId = status.runId)
    (htarget : target ≠ .checkpointing) (now : Nat) :
    c.NoneEntered (c.moveRun runId target edit now).1 := by
  cases hrun : c.getRun runId with
  | none =>
      rw [moveRun_missing hrun]
      exact .of_getRun fun _ => rfl
  | some status =>
      by_cases hvalid : target ∈ validTransitions (c.machine runId status.state).state
      · obtain ⟨_, hget, _⟩ := moveRun_valid hrun hvalid edit hedit now
        intro r status' hrun' hstate'
        by_cases hr : r = runId
        · rw [hr, hget, Option.some.injEq] at hrun'
          rw [← hrun'] at hstate'
          exact absurd hstate' htarget
        · rw [getRun_moveRun_of_ne c target edit hedit now hr] at hrun'
          exact ⟨status', hrun', hstate', rfl⟩
      · obtain ⟨_, hget⟩ := moveRun_invalid hrun hvalid edit now
        exact .of_getRun fun r => by rw [hget]

theorem noneEntered_updateCheckpointState (c : Coordinator) (checkpointId : String)
    (state : CheckpointState) (summary : Option ShardSummary) (now : Nat) :
    c.NoneEntered (c.updateCheckpointState checkpointId state summary now).1 :=
  .of_getRun (getRun_updateCheckpointState c checkpointId state summary now)

/-- No run enters `CHECKPOINTING` by edits. -/
theorem NoneEntered.of_edited {c d : Coordinator} (h : c.Edited d) : c.NoneEntered d := by
  induction h with
  | refl => exact .of_getRun fun _ => rfl
  | checkpoint _ checkpointId state summary now ih =>
      exact ih.trans (noneEntered_updateCheckpointState _ checkpointId state summary now)
  | run _ runId target edit hedit htarget now ih =>
      exact ih.trans (noneEntered_moveRun _ runId target edit hedit htarget now)

theorem noneEntered_createRun (c : Coordinator) (config : RunConfig) (runId : String)
    (now : Nat) : c.NoneEntered (c.createRun config runId now).1 := by
  intro r status' hrun hstate
  by_cases hr : r = runId
  · simp only [createRun, getRun_persistRun, if_pos hr, Option.some.injEq] at hrun
    rw [← hrun] at hstate
    cases hstate
  · simp only [createRun, getRun_persistRun, if_neg hr, getRun_cacheFsm] at hrun
    exact ⟨status', hrun, hstate, rfl⟩

theorem noneEntered_updateRunStep (c : Coordinator) (runId : String) (step : Int) (now : Nat) :
    c.NoneEntered (c.updateRunStep runId step now).1 := by
  unfold updateRunStep
  split
  · exact .of_getRun fun _ => rfl
  · next status hfind =>
    have hid := runId_of_getRun hfind
    intro r status' hrun hstate
    by_cases hr : r = runId
    · rw [getRun_persistRun, if_pos (by rw [hr, ← hid]), Option.some.injEq] at hrun
      subst hrun
      exact ⟨status, by rw [hr, hfind], hstate, rfl⟩
    · rw [getRun_persistRun, if_neg (by rw [hid]; exact hr)] at hrun
      exact ⟨status', hrun, hstate, rfl⟩

end Coordinator

namespace ControlPlane

theorem noneEntered_heartbeatStep (cp : ControlPlane) (runId : String) (step : Int)
    (now : Nat) : cp.coordinator.NoneEntered (cp.heartbeatStep runId step now).coordinator := by
  unfold heartbeatStep
  split
  · exact .of_getRun fun _ => rfl
  · split
    · exact noneEntered_updateRunStep _ _ _ _
    · exact .of_getRun fun _ => rfl

end ControlPlane

/-! ## The checkpoint that a run is taking -/

/-- A server together with the checkpoint that each run is taking. -/
structure Tracked where
  server : Server
  /-- The checkpoint created by the last trigger that moved the run into
  `CHECKPOINTING`. -/
  taken : String → Option String

namespace Tracked

def init (store : KVStore) (autoRecover hasSupervisor : Bool) : Tracked where
  server := .init store autoRecover hasSupervisor
  taken := fun _ => none

/-- Note the checkpoint of a trigger that succeeds. -/
def note (t : Tracked) (event : Request × Nat) : String → Option String :=
  match event.1 with
  | .atomic (.checkpoint runId step checkpointId) =>
      match (t.server.cp.triggerCheckpoint runId step checkpointId event.2).2 with
      | .ok _ => fun r => if r = runId then some checkpointId else t.taken r
      | .error _ => t.taken
  | _ => t.taken

/-- Serve one request and follow the checkpoints being taken. -/
def serve (t : Tracked) (event : Request × Nat) : Option Tracked :=
  (t.server.serve event).map fun server => { server := server, taken := t.note event }

/-- A run in `CHECKPOINTING` is taking its last checkpoint. -/
def TakenIsLast (t : Tracked) : Prop :=
  ∀ r status, t.server.cp.coordinator.getRun r = some status → status.state = .checkpointing →
    ∃ id, t.taken r = some id ∧ status.lastCheckpointId = some id

theorem takenIsLast_init (store : KVStore) (autoRecover hasSupervisor : Bool) :
    (init store autoRecover hasSupervisor).TakenIsLast := by
  intro r status h
  simp [init, Server.init, ControlPlane.init, Coordinator.init, getRun] at h

/-- A request that lets no run enter `CHECKPOINTING` and notes nothing keeps
what the runs are taking. -/
theorem TakenIsLast.of_noneEntered {t t' : Tracked} (ht : t.TakenIsLast)
    (hserver : t.server.cp.coordinator.NoneEntered t'.server.cp.coordinator)
    (htaken : t'.taken = t.taken) : t'.TakenIsLast := by
  intro r status' hrun hstate
  obtain ⟨status, hrun', hstate', hlast⟩ := hserver r status' hrun hstate
  obtain ⟨id, hid, hids⟩ := ht r status hrun' hstate'
  exact ⟨id, by rw [htaken]; exact hid, by rw [← hlast]; exact hids⟩

/-- A trigger notes the checkpoint that it writes into the run. -/
theorem TakenIsLast.checkpoint {t : Tracked} (hs : t.server.Recorded) (ht : t.TakenIsLast)
    (runId : String) (step : Option Int) (checkpointId : String) (now : Nat)
    (issued : List String) :
    TakenIsLast
      { server := { t.server with
          cp := (t.server.cp.triggerCheckpoint runId step checkpointId now).1
          issued := issued }
        taken := t.note (.atomic (.checkpoint runId step checkpointId), now) } := by
  by_cases hstate : t.server.cp.coordinator.runState runId = some .running
  · obtain ⟨status, hrun, hrunning⟩ := Option.map_eq_some_iff.mp hstate
    obtain ⟨hresult, _, _, _, _, hothers, status', hget, hlast⟩ :=
      triggerCheckpoint_running hs.coherent hrun hrunning step checkpointId now
    intro r found hfound hfoundState
    simp only [note, hresult]
    by_cases hr : r = runId
    · rw [hr, hget, Option.some.injEq] at hfound
      exact ⟨checkpointId, by rw [if_pos hr], by rw [← hfound]; exact hlast⟩
    · rw [hothers r hr] at hfound
      rw [if_neg hr]
      exact ht r found hfound hfoundState
  · obtain ⟨⟨e, hresult⟩, _, _, hget, _⟩ := triggerCheckpoint_refused hs.coherent hstate
      step checkpointId now
    apply ht.of_noneEntered (.of_getRun fun r => by rw [hget])
    simp only [note, hresult]

/-- Every request keeps what the runs are taking. -/
theorem TakenIsLast.serve {t t' : Tracked} (hs : t.server.Recorded) (ht : t.TakenIsLast)
    {event : Request × Nat} (hstep : t.serve event = some t') : t'.TakenIsLast := by
  obtain ⟨s', hserve, rfl⟩ := Option.map_eq_some_iff.mp hstep
  obtain ⟨request, now⟩ := event
  have hmove : ∀ (runId : String) (target : RunState) (edit : RunStatus → RunStatus),
      (∀ status, (edit status).runId = status.runId) → target ≠ .checkpointing →
      t.server.cp.coordinator.NoneEntered
        (t.server.cp.coordinator.moveRun runId target edit now).1 :=
    fun runId target edit hedit htarget => noneEntered_moveRun _ runId target edit hedit htarget now
  cases request with
  | atomic request =>
      cases request with
      | createRun config runId =>
          obtain ⟨_, hsome⟩ := Option.ite_none_right_eq_some.mp hserve
          obtain rfl := Option.some.inj hsome
          exact ht.of_noneEntered (noneEntered_createRun _ config runId now) rfl
      | start runId =>
          obtain rfl := Option.some.inj hserve
          exact ht.of_noneEntered (hmove runId .running id (fun _ => rfl) (by decide)) rfl
      | cancel runId =>
          obtain rfl := Option.some.inj hserve
          exact ht.of_noneEntered (hmove runId .cancelled id (fun _ => rfl) (by decide)) rfl
      | complete runId =>
          obtain rfl := Option.some.inj hserve
          exact ht.of_noneEntered (hmove runId .completed id (fun _ => rfl) (by decide)) rfl
      | checkpoint runId step checkpointId =>
          obtain ⟨_, hsome⟩ := Option.ite_none_right_eq_some.mp hserve
          obtain rfl := Option.some.inj hsome
          exact ht.checkpoint hs runId step checkpointId now _
      | resume runId =>
          obtain rfl := Option.some.inj hserve
          exact ht.of_noneEntered (.of_edited (edited_resumeRun _ runId now)) rfl
      | fail runId reason =>
          obtain rfl := Option.some.inj hserve
          exact ht.of_noneEntered (hmove runId .failed _ (fun _ => rfl) (by decide)) rfl
      | heartbeat runId step =>
          obtain rfl := Option.some.inj hserve
          exact ht.of_noneEntered (noneEntered_heartbeatStep _ runId step now) rfl
      | workerFailure runId restart =>
          obtain rfl := Option.some.inj hserve
          exact ht.of_noneEntered
            (.of_edited (RecoveryManager.edited_onWorkerFailure _ _ runId restart now)) rfl
  | upload runId checkpointId shardId body header reply =>
      obtain rfl := Option.some.inj hserve
      refine ht.of_noneEntered ?_ rfl
      simp only [uploadShard]
      split
      · exact .of_getRun fun _ => rfl
      · exact .of_edited (edited_uploadShardFinish ..)
  | commit runId reply =>
      obtain rfl := Option.some.inj hserve
      refine ht.of_noneEntered ?_ rfl
      simp only [commitRun]
      split
      · exact .of_getRun fun _ => rfl
      · exact .of_edited (edited_commitRunFinish ..)

/-! ## When a commit acts on the checkpoint being taken -/

/-- A commit request of a run in `CHECKPOINTING` that is answered with a run
status. -/
def CommitSucceeds (t : Tracked) (runId : String) (reply : Except String CommitResponse)
    (now : Nat) : Prop :=
  t.server.cp.coordinator.runState runId = some .checkpointing ∧
  ∃ status, (t.server.cp.commitRun runId reply now).2 = .answer (.ok status)

/-- A commit that succeeds commits the checkpoint that its run is taking, and
no other. -/
def CommitsTaken (t : Tracked) (event : Request × Nat) : Prop :=
  match event.1 with
  | .commit runId reply => t.CommitSucceeds runId reply event.2 →
      ∀ id, NewlyCommitted t.server.cp.coordinator
        (t.server.cp.commitRun runId reply event.2).1.coordinator id ↔ t.taken runId = some id
  | _ => True

/-- A commit that succeeds finds the last checkpoint of its run in progress,
and every other one in progress before it. -/
def FindsLastInProgress (t : Tracked) (event : Request × Nat) : Prop :=
  match event.1 with
  | .commit runId reply => t.CommitSucceeds runId reply event.2 →
      ∃ status info, t.server.cp.coordinator.getRun runId = some status ∧
        status.lastCheckpointId = some info.checkpointId ∧
        t.server.cp.coordinator.InProgressLast runId info
  | _ => True

/-- One commit acts on the checkpoint being taken exactly under the condition. -/
theorem commitsTaken_iff {t : Tracked} (ht : t.TakenIsLast) (event : Request × Nat) :
    t.CommitsTaken event ↔ t.FindsLastInProgress event := by
  obtain ⟨request, now⟩ := event
  cases request with
  | atomic request => exact Iff.rfl
  | upload runId checkpointId shardId body header reply => exact Iff.rfl
  | commit runId reply =>
      simp only [CommitsTaken, FindsLastInProgress]
      apply imp_congr_right
      intro hsucceeds
      obtain ⟨hstate, final, hanswer⟩ := hsucceeds
      obtain ⟨status, hrun, hchecking⟩ := Option.map_eq_some_iff.mp hstate
      obtain ⟨taken, htaken, hlast⟩ := ht runId status hrun hchecking
      obtain ⟨active, hactive, hnew⟩ := newlyCommitted_commitRun hanswer
      simp only [hnew, htaken, Option.some.injEq]
      constructor
      · intro h
        have hid : taken = active.checkpointId := (h active.checkpointId).mp rfl
        exact ⟨status, active, hrun, hid ▸ hlast, activeCheckpoint_eq_some_iff.mp hactive⟩
      · intro h
        obtain ⟨found, info, hfound, hfoundLast, hinfo⟩ := h
        obtain rfl := Option.some.inj (hrun.symm.trans hfound)
        have hpicked := activeCheckpoint_eq_some_iff.mpr hinfo
        obtain rfl := Option.some.inj (hactive.symm.trans hpicked)
        obtain rfl := Option.some.inj (hlast.symm.trans hfoundLast)
        exact fun id => eq_comm

/-- **Which checkpoint is committed.**  Throughout every sequence of requests a
run in `CHECKPOINTING` is taking its last checkpoint, and the sequences whose
successful commits all act on the checkpoint being taken are exactly those
whose successful commits find it in progress and last. -/
theorem commits_taken_throughout_iff (store : KVStore) (autoRecover hasSupervisor : Bool)
    (events : List (Request × Nat)) :
    (∀ t, run serve (init store autoRecover hasSupervisor) events = some t → t.TakenIsLast) ∧
    (Guarded serve CommitsTaken (init store autoRecover hasSupervisor) events ↔
      Guarded serve FindsLastInProgress (init store autoRecover hasSupervisor) events) := by
  have hstep : ∀ (t : Tracked) (event : Request × Nat) (t' : Tracked),
      t.server.Recorded ∧ t.TakenIsLast → t.serve event = some t' →
      t'.server.Recorded ∧ t'.TakenIsLast := by
    intro t event t' ht hserve
    obtain ⟨s', hs', rfl⟩ := Option.map_eq_some_iff.mp hserve
    exact ⟨ht.1.serve hs', ht.2.serve ht.1 hserve⟩
  have hinit : (init store autoRecover hasSupervisor).server.Recorded ∧
      (init store autoRecover hasSupervisor).TakenIsLast :=
    ⟨Server.recorded_init store autoRecover hasSupervisor,
      takenIsLast_init store autoRecover hasSupervisor⟩
  constructor
  · intro t hrun
    exact (run_invariant serve hstep hinit hrun).2
  · exact guarded_congr serve hstep (fun t event _ ht _ => commitsTaken_iff ht.2 event) hinit

/-- A run is resumed while its checkpoint of step 10 is in progress, and then
takes a checkpoint of step 5: the commit picks the old one. -/
theorem commit_picks_abandoned_checkpoint :
    ¬ Guarded serve CommitsTaken (init .inMemoryKVStore true true)
      [(.atomic (.createRun { name := "run", numWorkers := 1 } "00000000000000a1"), 1),
        (.atomic (.start "00000000000000a1"), 2),
        (.atomic (.checkpoint "00000000000000a1" (some 10) "00000000000000c1"), 3),
        (.upload "00000000000000a1" "00000000000000c1" "rank-0" [97] .absent
          (.ok { shardId := "rank-0", totalBytes := 1, success := true,
                 sha256Checksum :=
                   "ca978112ca1bbdcafac231b39a23dc4da786eff8147c4e72b9807785afee48bb" }), 4),
        (.atomic (.resume "00000000000000a1"), 5),
        (.atomic (.checkpoint "00000000000000a1" (some 5) "00000000000000c2"), 6),
        (.upload "00000000000000a1" "00000000000000c2" "rank-0" [98] .absent
          (.ok { shardId := "rank-0", totalBytes := 1, success := true,
                 sha256Checksum :=
                   "3e23e8160039594a33894f6564e1b1348bbd7a0088d42c4acb73eeaed59c009d" }), 7),
        (.commit "00000000000000a1" (.ok { success := true }), 8)] := by
  intro h
  -- the condition at the last request, in the state that the others lead to
  obtain ⟨_, h⟩ := h _ rfl
  obtain ⟨_, h⟩ := h _ rfl
  obtain ⟨_, h⟩ := h _ rfl
  obtain ⟨_, h⟩ := h _ rfl
  obtain ⟨_, h⟩ := h _ rfl
  obtain ⟨_, h⟩ := h _ rfl
  obtain ⟨_, h⟩ := h _ rfl
  obtain ⟨hcommit, _⟩ := h _ rfl
  have hiff := hcommit ⟨rfl, _, rfl⟩ "00000000000000c1"
  have hnew := hiff.mp ⟨⟨_, rfl, rfl⟩, fun h => by
    obtain ⟨info, hinfo, hstate⟩ := h
    obtain rfl := Option.some.inj hinfo
    cases hstate⟩
  revert hnew
  decide

end Tracked

end CheckpointRuntime
