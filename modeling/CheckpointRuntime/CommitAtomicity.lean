import CheckpointRuntime.CheckpointWorld
import CheckpointRuntime.ServiceContracts
import CheckpointRuntime.CommitChoice

/-!
# Is a commit all or nothing?

`commit_run` writes the manifest and the record before it asks the run's state
machine, so a commit is all or nothing exactly when that late question cannot
be answered in the negative: either the data plane does not accept the commit,
or the machine of the run is in `CHECKPOINTING`.
-/

namespace CheckpointRuntime

open Coordinator ControlPlane CallProgram

namespace World

/-- The outcome that the data plane reports is what happened: no effect is
reported as a failure. -/
def Truthful : CommitFate → Prop
  | .raised _ => True
  | .answered faults => ∀ n, faults n ≠ .lost

/-- No manifest is there afterwards that was not there before. -/
def NoManifestWritten (b b' : Bucket) : Prop :=
  ∀ runId checkpointId body, b'.get? (manifestKey runId checkpointId) = some body →
    b.get? (manifestKey runId checkpointId) = some body

/-- A commit of a run is all or nothing: it answers with the run in `RUNNING`
and a checkpoint newly committed whose manifest exists, or it answers an error
without any of that, and the run is as it was or `FAILED`. -/
def AllOrNothing (w : World) (runId : String) (w' : World)
    (answer : Except HttpException RunStatus) : Prop :=
  match answer with
  | .ok _ =>
      (∃ id, NewlyCommitted w.cp.coordinator w'.cp.coordinator id ∧
        w'.bucket.get? (manifestKey runId id) ≠ none) ∧
      w'.cp.coordinator.runState runId = some .running
  | .error _ =>
      (∀ id, ¬ NewlyCommitted w.cp.coordinator w'.cp.coordinator id) ∧
      NoManifestWritten w.bucket w'.bucket ∧
      (w'.cp.coordinator.runState runId = w.cp.coordinator.runState runId ∨
        w'.cp.coordinator.runState runId = some .failed)

/-- The state of the machine that a transition of the run asks. -/
def machineState (c : Coordinator) (runId : String) : Option RunState :=
  (c.getRun runId).map (fun status => (c.machine runId status.state).state)

/-- If a commit gets as far as an accepting answer of the data plane, the
machine of its run is in `CHECKPOINTING`. -/
def FindsCheckpointing (w : World) (runId : String) (fate : CommitFate) (now : Nat) : Prop :=
  ∀ call, w.cp.commitRunBegin runId = .ok call →
    commitAccepted (commitRpc w.bucket call fate now).1 = true →
    machineState w.cp.coordinator runId = some .checkpointing

/-- A commit that the data plane does not truthfully accept has written
nothing. -/
theorem commitRpc_rejected {bucket : Bucket} {call : CommitCall} {fate : CommitFate} {now : Nat}
    (htruthful : Truthful fate)
    (hreply : commitAccepted (commitRpc bucket call fate now).1 = false) :
    (commitRpc bucket call fate now).2 = bucket := by
  unfold commitRpc at hreply ⊢
  cases hrequest : call.request with
  | error e => rfl
  | ok request =>
      rw [hrequest] at hreply
      cases fate with
      | raised message => rfl
      | answered faults =>
          have hfailed :
              ((commitCheckpoint request now).run bucketService faults bucket).1.success =
              false := hreply
          rcases commitCheckpoint_run request now faults bucket with
            ⟨hok, _⟩ | ⟨hok, _⟩ | ⟨_, hsame | ⟨hlost, _⟩⟩
          · rw [hok] at hfailed
            cases hfailed
          · rw [hok] at hfailed
            cases hfailed
          · exact hsame
          · exact absurd hlost (htruthful 1)

/-- After an accepted commit the manifest of its checkpoint exists. -/
theorem commitRpc_accepted {bucket : Bucket} {call : CommitCall} {fate : CommitFate} {now : Nat}
    (hreply : commitAccepted (commitRpc bucket call fate now).1 = true) :
    (∃ response, (commitRpc bucket call fate now).1 = .ok response ∧ response.success = true) ∧
    (commitRpc bucket call fate now).2.get? (manifestKey call.runId call.checkpointId) ≠ none := by
  unfold commitRpc at hreply ⊢
  cases hrequest : call.request with
  | error e =>
      rw [hrequest] at hreply
      cases hreply
  | ok request =>
      rw [hrequest] at hreply
      have hids : request.runId = call.runId ∧ request.checkpointId = call.checkpointId := by
        rw [CommitCall.request_eq_ok hrequest]
        exact ⟨rfl, rfl⟩
      cases fate with
      | raised message => cases hreply
      | answered faults =>
          have hok : ((commitCheckpoint request now).run bucketService faults bucket).1.success =
              true := hreply
          refine ⟨⟨_, rfl, hok⟩, ?_⟩
          rw [← hids.1, ← hids.2]
          rcases commitCheckpoint_run request now faults bucket with
            ⟨_, hpresent, hsame⟩ | ⟨_, hstored⟩ | ⟨hfailed, _⟩
          · rw [hsame]
            exact hpresent
          · rw [hstored, Bucket.get?_store, if_pos rfl]
            exact Option.some_ne_none _
          · rw [hfailed] at hok
            cases hok

/-- Writing nothing and deleting things leaves no new manifest. -/
theorem noManifestWritten_settle {α : Type} (out : ControlPlane × Outcome α) (bucket : Bucket)
    (abortFaults : Nat → Fault) :
    NoManifestWritten bucket (settle out bucket abortFaults).1.bucket := by
  unfold settle
  split
  · exact fun _ _ _ h => h
  · next request exception _ =>
    intro runId checkpointId body h
    rcases (abortCheckpoint_run request abortFaults bucket).objects
      (manifestKey runId checkpointId) with hsame | ⟨hgone, _⟩
    · rw [← hsame]
      exact h
    · rw [hgone] at h
      cases h

/-- The failure path of a commit leaves nothing committed. -/
theorem allOrNothing_failCheckpoint (w : World) (runId checkpointId failureMessage : String)
    (exception : HttpException) (now : Nat) (abortFaults : Nat → Fault) :
    let out := settle (w.cp.failCheckpoint runId checkpointId failureMessage exception now)
      w.bucket abortFaults
    AllOrNothing w runId out.1 out.2 := by
  intro out
  have hcp : out.1.cp = w.cp.abortFailedCheckpoint runId checkpointId failureMessage now := by
    rw [cp_settle, failCheckpoint_fst]
  have hanswer : out.2 = .error exception := settle_failCheckpoint ..
  have hmanifest := noManifestWritten_settle
    (w.cp.failCheckpoint (α := RunStatus) runId checkpointId failureMessage exception now)
    w.bucket abortFaults
  simp only [AllOrNothing, hanswer]
  refine ⟨?_, hmanifest, ?_⟩
  · intro id hnew
    obtain ⟨⟨info', hinfo', hstate'⟩, hold⟩ := hnew
    rw [hcp, getCheckpoint_abortFailedCheckpoint] at hinfo'
    split at hinfo'
    · obtain ⟨info, _, rfl⟩ := Option.map_eq_some_iff.mp hinfo'
      cases hstate'
    · exact hold ⟨info', hinfo', hstate'⟩
  · rw [hcp]
    exact runState_abortFailedCheckpoint w.cp runId checkpointId failureMessage now

/-- An error is not nothing if a checkpoint has been committed. -/
theorem not_allOrNothing_of_newlyCommitted {w w' : World} {runId id : String}
    {answer : Except HttpException RunStatus} (hanswer : answer.isOk = false)
    (hnew : NewlyCommitted w.cp.coordinator w'.cp.coordinator id) :
    ¬ AllOrNothing w runId w' answer := by
  cases answer with
  | ok status => cases hanswer
  | error e => exact fun h => h.1 id hnew

/-- **All or nothing.**  When the data plane reports truthfully, a commit is
all or nothing exactly when it finds the machine of its run in `CHECKPOINTING`,
or does not get as far as an accepting answer. -/
theorem commit_all_or_nothing_iff (w : World) (runId : String) (fate : CommitFate)
    (htruthful : Truthful fate) (abortFaults : Nat → Fault) (now : Nat) :
    AllOrNothing w runId (w.commitRun runId fate abortFaults now).1
      (w.commitRun runId fate abortFaults now).2 ↔
    w.FindsCheckpointing runId fate now := by
  unfold commitRun FindsCheckpointing
  cases hbegin : w.cp.commitRunBegin runId with
  | error e =>
      refine iff_of_true ⟨?_, fun _ _ _ h => h, Or.inl rfl⟩ (fun _ h => by cases h)
      exact fun id hnew => hnew.2 hnew.1
  | ok call =>
      obtain ⟨⟨status, hrun⟩, active, hactive, _, _, hcall⟩ := commitRunBegin_eq_ok.mp hbegin
      obtain ⟨hinfo, _, hprogress⟩ := activeCheckpoint_spec hactive
      have hcallRun : call.runId = runId := by rw [hcall]
      have hcallId : call.checkpointId = active.checkpointId := by rw [hcall]
      dsimp only
      cases hreply : commitAccepted (commitRpc w.bucket call fate now).1 with
      | false =>
          obtain ⟨failureMessage, exception, hout⟩ :=
            commitRunFinish_rejected w.cp call hreply now
          rw [hout, commitRpc_rejected htruthful hreply, hcallRun]
          refine iff_of_true
            (allOrNothing_failCheckpoint w runId call.checkpointId failureMessage exception now
              abortFaults) ?_
          intro call' hcall' haccepted
          obtain rfl := Except.ok.inj hcall'
          rw [hreply] at haccepted
          cases haccepted
      | true =>
          obtain ⟨⟨response, hresponse, hsuccess⟩, hpresent⟩ := commitRpc_accepted hreply
          rw [← hcallId] at hinfo
          have hnew : NewlyCommitted w.cp.coordinator
              (w.cp.commitRunFinish call (.ok response) now).1.coordinator call.checkpointId := by
            rw [NewlyCommitted, getCheckpoint_commitRunFinish w.cp call hsuccess, if_pos rfl, hinfo]
            refine ⟨⟨_, rfl, rfl⟩, ?_⟩
            intro h
            obtain ⟨info, hfound, hstate⟩ := h
            obtain rfl := Option.some.inj hfound
            rw [hprogress] at hstate
            cases hstate
          have hmachineState : machineState w.cp.coordinator runId =
              some (w.cp.coordinator.machine call.runId status.state).state := by
            rw [machineState, hrun, hcallRun]
            rfl
          rw [hresponse, hmachineState]
          rw [← hcallRun] at hrun
          by_cases hmachine : (w.cp.coordinator.machine call.runId status.state).state =
              .checkpointing
          · obtain ⟨final, hanswer, hget, hrunning⟩ :=
              commitRunFinish_checkpointing hsuccess hinfo hrun hmachine now
            simp only [settle, hanswer, AllOrNothing]
            refine iff_of_true ⟨⟨call.checkpointId, hnew, hcallRun ▸ hpresent⟩, ?_⟩
              (fun _ _ _ => congrArg some hmachine)
            rw [← hcallRun, runState, hget, Option.map_some, hrunning]
          · obtain ⟨⟨e, hanswer⟩, _⟩ := commitRunFinish_refused hsuccess hinfo hrun hmachine now
            rw [← cp_settle _ (commitRpc w.bucket call fate now).2 abortFaults] at hnew
            refine iff_of_false (not_allOrNothing_of_newlyCommitted ?_ hnew) ?_
            · simp only [settle, hanswer]
              rfl
            · intro h
              exact hmachine (Option.some.inj (h call rfl hreply))

/-- A run in `CHECKPOINTING` that has uploaded one shard. -/
def uploadedShard : World :=
  (uploadShard (fun _ => "ca978112ca1bbdcafac231b39a23dc4da786eff8147c4e72b9807785afee48bb")
    (firstCheckpoint .inMemoryKVStore soloRun "00000000000000a1" 10
      "00000000000000c1")
    "00000000000000a1" "00000000000000c1" "rank-0" [97] .absent
    firstWrite 4).1

/-- The commit of a run in `CHECKPOINTING` is all or nothing. -/
theorem commit_all_or_nothing_while_checkpointing :
    AllOrNothing uploadedShard "00000000000000a1"
      (uploadedShard.commitRun "00000000000000a1" (.answered fun _ => .none) (fun _ => .none) 5).1
      (uploadedShard.commitRun "00000000000000a1" (.answered fun _ => .none)
        (fun _ => .none) 5).2 := by
  have hstate : machineState uploadedShard.cp.coordinator "00000000000000a1" =
      some .checkpointing := by decide +kernel
  have htruthful : Truthful (.answered fun _ => .none) := fun _ h => by cases h
  have hfinds : FindsCheckpointing uploadedShard "00000000000000a1"
      (.answered fun _ => .none) 5 := fun _ _ _ => hstate
  have hiff := commit_all_or_nothing_iff uploadedShard "00000000000000a1"
    (.answered fun _ => .none) htruthful (fun _ => .none) 5
  rw [hiff]
  exact hfinds

/-- The same run, resumed while its checkpoint is in progress. -/
def resumedMidway : World :=
  { uploadedShard with cp := (uploadedShard.cp.resumeRun "00000000000000a1" 5).1 }

/-- Its commit writes the manifest and the record, and only then answers 409. -/
theorem commit_of_resumed_run_is_partial :
    ¬ AllOrNothing resumedMidway "00000000000000a1"
      (resumedMidway.commitRun "00000000000000a1" (.answered fun _ => .none) (fun _ => .none) 6).1
      (resumedMidway.commitRun "00000000000000a1" (.answered fun _ => .none)
        (fun _ => .none) 6).2 := by
  have hafter : ((resumedMidway.commitRun "00000000000000a1" (.answered fun _ => .none)
      (fun _ => .none) 6).1.cp.coordinator.getCheckpoint "00000000000000c1").map (·.state) =
      some .committed := by decide +kernel
  have hbefore : (resumedMidway.cp.coordinator.getCheckpoint "00000000000000c1").map (·.state) =
      some .inProgress := by decide +kernel
  refine not_allOrNothing_of_newlyCommitted (by decide +kernel)
    ⟨Option.map_eq_some_iff.mp hafter, ?_⟩
  intro h
  rw [Option.map_eq_some_iff.mpr h] at hbefore
  cases hbefore

end World

end CheckpointRuntime
