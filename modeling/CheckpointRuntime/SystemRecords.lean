import CheckpointRuntime.InterleavedSystem
import CheckpointRuntime.RunCheckpointCoupling

/-!
# What a step does to the records

Only four kinds of steps write checkpoint records: an atomic request, the end
of an upload, the end of a commit, and a deletion.  `System.step_server` says
which one a step is; what each of them does to the records is known from
`HandlerEffects`.
-/

namespace CheckpointRuntime

open Coordinator ControlPlane CallProgram PartialRun

/-! ## Atomic requests -/

/-- What an atomic request does to the record of one checkpoint: nothing, it
closes an open one, or it creates one under a new id. -/
inductive RecordMove (s s' : Server) (now : Nat) (id : String) : Prop
  | same (h : s'.cp.coordinator.getCheckpoint id = s.cp.coordinator.getCheckpoint id)
  | closed (info : CheckpointInfo) (hopen : info.isOpen)
      (h : s.cp.coordinator.getCheckpoint id = some info)
      (h' : s'.cp.coordinator.getCheckpoint id = some (updatedInfo info .failed none now))
  | created (runId : String) (step : Int) (hnew : id ∉ s.issued)
      (h' : s'.cp.coordinator.getCheckpoint id =
        some { checkpointId := id, runId := runId, step := step, createdAt := now })

namespace Server

/-- Closing the open checkpoints of a run, one record at a time. -/
theorem recordMove_of_closedFor {s s' : Server} {runId : String} {now : Nat} (id : String)
    (h : s'.cp.coordinator.getCheckpoint id =
      (s.cp.coordinator.getCheckpoint id).map (closedFor runId now)) :
    RecordMove s s' now id := by
  cases hinfo : s.cp.coordinator.getCheckpoint id with
  | none =>
      rw [hinfo] at h
      exact .same (h.trans hinfo.symm)
  | some info =>
      rw [hinfo, Option.map_some, closedFor] at h
      split at h
      · next hclose => exact .closed info hclose.2 hinfo h
      · exact .same (h.trans hinfo.symm)

/-- An atomic request leaves the remembered shards alone, hands out ids, and
moves each record in one of three ways. -/
theorem handle_records {s s' : Server} (hs : s.Recorded) {now : Nat} {request : AtomicRequest}
    (h : s.handle now request = some s') :
    s'.cp.checkpointShards = s.cp.checkpointShards ∧ (∀ id ∈ s.issued, id ∈ s'.issued) ∧
      ∀ id, RecordMove s s' now id := by
  obtain ⟨_, hshards, hissued, _, heffect⟩ := hs.handled h
  refine ⟨hshards, hissued, fun id => ?_⟩
  cases heffect with
  | same _ hrecords _ => exact .same (hrecords id)
  | moved _ hrecords _ => exact .same (hrecords id)
  | created _ _ hrecords _ => exact .same (hrecords id)
  | @opened runId checkpointId step currentStep hnew _ _ hrecords _ =>
      by_cases hid : id = checkpointId
      · subst hid
        exact .created runId _ hnew ((hrecords id).trans (if_pos rfl))
      · exact .same ((hrecords id).trans (if_neg hid))
  | failed hfailure => exact recordMove_of_closedFor id (hfailure.1 id)

/-- An atomic request loses no run. -/
theorem isSome_runState_handle {s s' : Server} (hs : s.Recorded) {now : Nat}
    {request : AtomicRequest} (h : s.handle now request = some s') {runId : String}
    (hrun : (s.cp.coordinator.runState runId).isSome) :
    (s'.cp.coordinator.runState runId).isSome := by
  have hset : ∀ {r : String} {state : RunState}, (∀ other, s'.cp.coordinator.runState other =
      if other = r then some state else s.cp.coordinator.runState other) →
      (s'.cp.coordinator.runState runId).isSome := by
    intro r state hruns
    rw [hruns]
    split
    · rfl
    · exact hrun
  cases (hs.handled h).effect with
  | same _ _ hruns => exact hruns runId ▸ hrun
  | moved _ _ hruns => exact (isSome_runState_move hruns runId).trans hrun
  | created _ _ _ hruns => exact hset hruns
  | opened _ _ _ _ hruns => exact hset hruns
  | failed hfailure =>
      obtain ⟨_, _, _, _, hruns⟩ := hfailure
      exact hset hruns

end Server

/-- What `commit_run` does to the records once the data plane has answered,
whether or not the record is still there. -/
theorem ControlPlane.commitRunFinish_records {cp : ControlPlane} (hc : cp.coordinator.Coherent)
    (call : CommitCall) (reply : Except String CommitResponse) (now : Nat) :
    let out := (cp.commitRunFinish call reply now).1
    let state : CheckpointState := if commitAccepted reply then .committed else .failed
    out.coordinator.Coherent ∧
    out.checkpointShards = (cp.setShards call.checkpointId none).checkpointShards ∧
    (∀ other, out.coordinator.getCheckpoint other =
      if other = call.checkpointId then
        (cp.coordinator.getCheckpoint call.checkpointId).map
          (fun info => updatedInfo info state none now)
      else cp.coordinator.getCheckpoint other) ∧
    ∀ r, (out.coordinator.runState r).isSome = (cp.coordinator.runState r).isSome := by
  cases hreply : commitAccepted reply with
  | false =>
      obtain ⟨failureMessage, exception, hout⟩ := commitRunFinish_rejected cp call hreply now
      obtain ⟨hcoherent, hshards, hrecords, hruns⟩ := failCheckpoint_effect (α := RunStatus) hc
        call.runId call.checkpointId failureMessage exception now
      rw [hout]
      exact ⟨hcoherent, hshards, hrecords, isSome_runState_move hruns⟩
  | true =>
      cases reply with
      | error e => cases hreply
      | ok response =>
          have hrecords := getCheckpoint_commitRunFinish cp call hreply now
          obtain ⟨_, hshards, _⟩ := commitRunFinish_answers cp call hreply now
          cases hinfo : cp.coordinator.getCheckpoint call.checkpointId with
          | none =>
              rw [hinfo] at hrecords
              have hmissing := commitRunFinish_missing cp call hreply hinfo now
              refine ⟨?_, hshards, hrecords, ?_⟩
              · rw [hmissing]
                exact hc
              · intro r
                rw [hmissing]
                rfl
          | some info =>
              rw [hinfo] at hrecords
              obtain ⟨hcoherent, hruns⟩ := runState_commitRunFinish hc call hreply hinfo now
              exact ⟨hcoherent, hshards, hrecords, isSome_runState_move hruns⟩

/-- Deleting a record keeps the ids. -/
theorem Server.Recorded.deleteCheckpoint {s : Server} (hs : s.Recorded) (id : String) :
    Recorded { s with cp := { s.cp with
      coordinator := s.cp.coordinator.deleteCheckpoint id } } := by
  refine hs.of_effect rfl (hs.coherent.of_same rfl fun _ => rfl) (fun _ => rfl) ?_
  intro other info h
  rw [getCheckpoint_deleteCheckpoint] at h
  split at h
  · cases h
  · exact ⟨info, h, rfl⟩

/-! ## Steps of the system -/

namespace System

section
variable {α : Type} (s : System) (task : Nat) (out : ControlPlane × Outcome α)

theorem server_resume : (s.resume task out).server = { s.server with cp := out.1 } := by
  unfold resume
  split <;> rfl

end

/-- What a step does to the server: it finishes an upload, it finishes a
commit, or it handles an atomic request, deletes a record, or leaves the server
as it is. -/
inductive ServerMove (s : System) (event : Event × Nat) (server : Server) : Prop
  | upload (call : UploadCall) (reply : Except String WriteShardResult)
      (hanswer : s.uploadAnswer event.1 = some (call, reply))
      (hcommit : s.commitAnswer event.1 = none)
      (h : server = (s.setCp (s.server.cp.uploadShardFinish call reply event.2).1).server)
  | commit (call : CommitCall) (reply : Except String CommitResponse)
      (hupload : s.uploadAnswer event.1 = none)
      (hanswer : s.commitAnswer event.1 = some (call, reply))
      (h : server = (s.setCp (s.server.cp.commitRunFinish call reply event.2).1).server)
  | request (request : AtomicRequest) (hupload : s.uploadAnswer event.1 = none)
      (hcommit : s.commitAnswer event.1 = none)
      (h : s.server.handle event.2 request = some server)
      (hevent : event.1 = .request request)
  | delete (id : String) (hupload : s.uploadAnswer event.1 = none)
      (hcommit : s.commitAnswer event.1 = none)
      (h : server = (s.setCp { s.server.cp with
        coordinator := s.server.cp.coordinator.deleteCheckpoint id }).server)
      (hevent : event.1 = .deleteCheckpoint id)
  | stay (hupload : s.uploadAnswer event.1 = none) (hcommit : s.commitAnswer event.1 = none)
      (h : server = s.server)

theorem step_server {sha256 : Bytes → String} {s s' : System} {event : Event × Nat}
    (h : s.step sha256 event = some s') : ServerMove s event s'.server := by
  obtain ⟨event, now⟩ := event
  cases event with
  | request request =>
      obtain ⟨server, hserver, rfl⟩ := Option.map_eq_some_iff.mp h
      exact .request request rfl rfl hserver rfl
  | deleteCheckpoint id =>
      obtain rfl := Option.some.inj h
      exact .delete id rfl rfl rfl rfl
  | uploadBegin runId checkpointId shardId =>
      simp only [step] at h
      split at h
      · obtain rfl := Option.some.inj h
        exact .stay rfl rfl rfl
      · obtain rfl := Option.some.inj h
        exact .stay rfl rfl rfl
  | uploadBody task body header uuid depth maxDepth =>
      simp only [step] at h
      split at h
      · simp only [beginWrite] at h
        split at h
        · obtain rfl := Option.some.inj h
          exact .stay rfl rfl rfl
        · split at h
          · obtain rfl := Option.some.inj h
            exact .stay rfl rfl rfl
          · cases h
      · cases h
  | uploadReply task =>
      obtain ⟨⟨call, reply⟩, hanswer, rfl⟩ := Option.map_eq_some_iff.mp h
      exact .upload call reply hanswer rfl (server_resume ..)
  | uploadRaise task message =>
      obtain ⟨⟨call, reply⟩, hanswer, rfl⟩ := Option.map_eq_some_iff.mp h
      exact .upload call reply hanswer rfl (server_resume ..)
  | commitBegin runId =>
      obtain rfl := Option.some.inj h
      cases hbegin : s.server.cp.commitRunBegin runId with
      | error e =>
          have hnone : s.commitAnswer (.commitBegin runId) = none := by
            simp only [commitAnswer, hbegin]
          refine .stay rfl hnone ?_
          simp only [beginCommit, hbegin]
      | ok call =>
          cases hrequest : call.request with
          | error message =>
              have hanswer : s.commitAnswer (.commitBegin runId) = some (call, .error message) := by
                simp only [commitAnswer, hbegin, hrequest]
              refine .commit call _ rfl hanswer ?_
              simp only [beginCommit, hbegin, hrequest]
              exact server_resume ..
          | ok request =>
              have hnone : s.commitAnswer (.commitBegin runId) = none := by
                simp only [commitAnswer, hbegin, hrequest]
              refine .stay rfl hnone ?_
              simp only [beginCommit, hbegin, hrequest]
  | commitReply task =>
      obtain ⟨⟨call, reply⟩, hanswer, rfl⟩ := Option.map_eq_some_iff.mp h
      exact .commit call reply rfl hanswer (server_resume ..)
  | commitRaise task message =>
      obtain ⟨⟨call, reply⟩, hanswer, rfl⟩ := Option.map_eq_some_iff.mp h
      exact .commit call reply rfl hanswer (server_resume ..)
  | abortEnd task =>
      simp only [step] at h
      split at h
      · obtain rfl := Option.some.inj h
        exact .stay rfl rfl rfl
      · cases h
  | writeCall rpc fault =>
      obtain ⟨write, _, h⟩ := Option.bind_eq_some_iff.mp h
      obtain ⟨out, _, h⟩ := Option.bind_eq_some_iff.mp h
      obtain rfl := Option.some.inj h
      exact .stay rfl rfl rfl
  | commitCall rpc fault =>
      obtain ⟨commit, _, h⟩ := Option.bind_eq_some_iff.mp h
      obtain ⟨out, _, h⟩ := Option.bind_eq_some_iff.mp h
      obtain rfl := Option.some.inj h
      exact .stay rfl rfl rfl
  | abortCall rpc fault =>
      obtain ⟨abort, _, h⟩ := Option.bind_eq_some_iff.mp h
      obtain ⟨out, _, h⟩ := Option.bind_eq_some_iff.mp h
      obtain rfl := Option.some.inj h
      exact .stay rfl rfl rfl

/-- Every step keeps the ids. -/
theorem recorded_step {sha256 : Bytes → String} {s s' : System} {event : Event × Nat}
    (hs : s.server.Recorded) (h : s.step sha256 event = some s') : s'.server.Recorded := by
  cases step_server h with
  | upload call reply _ _ hserver =>
      obtain ⟨hcoherent, ⟨_, hrecords⟩, hruns⟩ := uploadShardFinish_effect hs.coherent call
        reply event.2
      rw [hserver]
      exact hs.of_effect rfl hcoherent (isSome_runState_move hruns)
        (exists_record_update hrecords)
  | commit call reply _ _ hserver =>
      obtain ⟨hcoherent, _, hrecords, hruns⟩ := commitRunFinish_records hs.coherent call
        reply event.2
      rw [hserver]
      exact hs.of_effect rfl hcoherent hruns (exists_record_update hrecords)
  | request request _ _ hhandle => exact hs.handle hhandle
  | delete id _ _ hserver =>
      rw [hserver]
      exact hs.deleteCheckpoint id
  | stay _ _ hserver =>
      rw [hserver]
      exact hs

/-- A record that is there after a step, under an id handed out before it, was
there before the step, under the same run. -/
theorem getCheckpoint_before_step {sha256 : Bytes → String} {s s' : System}
    {event : Event × Nat} (hs : s.server.Recorded) (h : s.step sha256 event = some s')
    {id : String} (hissued : id ∈ s.server.issued) {info' : CheckpointInfo}
    (hinfo' : s'.server.cp.coordinator.getCheckpoint id = some info') :
    ∃ info, s.server.cp.coordinator.getCheckpoint id = some info ∧ info'.runId = info.runId := by
  cases step_server h with
  | upload call reply _ _ hserver =>
      obtain ⟨_, ⟨_, hrecords⟩, _⟩ := uploadShardFinish_effect hs.coherent call reply event.2
      rw [hserver] at hinfo'
      exact exists_record_update hrecords id info' hinfo'
  | commit call reply _ _ hserver =>
      obtain ⟨_, _, hrecords, _⟩ := commitRunFinish_records hs.coherent call reply event.2
      rw [hserver] at hinfo'
      exact exists_record_update hrecords id info' hinfo'
  | request request _ _ hhandle =>
      obtain ⟨_, _, hmoves⟩ := Server.handle_records hs hhandle
      cases hmoves id with
      | same hsame => exact ⟨info', hsame ▸ hinfo', rfl⟩
      | closed info _ hinfo hclosed =>
          obtain rfl := Option.some.inj (hclosed.symm.trans hinfo')
          exact ⟨info, hinfo, rfl⟩
      | created _ _ hnew _ => exact absurd hissued hnew
  | delete gone _ _ hserver =>
      rw [hserver, setCp, getCheckpoint_deleteCheckpoint] at hinfo'
      split at hinfo'
      · cases hinfo'
      · exact ⟨info', hinfo', rfl⟩
  | stay _ _ hserver =>
      rw [hserver] at hinfo'
      exact ⟨info', hinfo', rfl⟩

/-- Ids stay handed out. -/
theorem issued_step {sha256 : Bytes → String} {s s' : System} {event : Event × Nat}
    (hs : s.server.Recorded) (h : s.step sha256 event = some s') {id : String}
    (hid : id ∈ s.server.issued) : id ∈ s'.server.issued := by
  cases step_server h with
  | upload _ _ _ _ hserver => exact hserver ▸ hid
  | commit _ _ _ _ hserver => exact hserver ▸ hid
  | request _ _ _ hhandle => exact (Server.handle_records hs hhandle).2.1 id hid
  | delete _ _ _ hserver => exact hserver ▸ hid
  | stay _ _ hserver => exact hserver ▸ hid

/-- Runs stay. -/
theorem isSome_runState_step {sha256 : Bytes → String} {s s' : System} {event : Event × Nat}
    (hs : s.server.Recorded) (h : s.step sha256 event = some s') {runId : String}
    (hrun : (s.server.cp.coordinator.runState runId).isSome) :
    (s'.server.cp.coordinator.runState runId).isSome := by
  cases step_server h with
  | upload call reply _ _ hserver =>
      obtain ⟨_, _, hruns⟩ := uploadShardFinish_effect hs.coherent call reply event.2
      rw [hserver]
      exact (isSome_runState_move hruns runId).trans hrun
  | commit call reply _ _ hserver =>
      obtain ⟨_, _, _, hruns⟩ := commitRunFinish_records hs.coherent call reply event.2
      rw [hserver]
      exact (hruns runId).trans hrun
  | request request _ _ hhandle =>
      exact Server.isSome_runState_handle hs hhandle hrun
  | delete id _ _ hserver =>
      rw [hserver]
      exact hrun
  | stay _ _ hserver =>
      rw [hserver]
      exact hrun

/-! ## What a step does to the remembered shards -/

/-- What a step does to `_CHECKPOINT_SHARDS`: nothing, it forgets the shards of
a checkpoint, or it remembers one more. -/
inductive ShardsMove (s : System) (event : Event × Nat)
    (shards : String → Option (List ShardInfo)) : Prop
  | same (h : shards = s.server.cp.checkpointShards)
  | forgotten (id : String) (h : shards = (s.server.cp.setShards id none).checkpointShards)
  | remembered (call : UploadCall) (result : WriteShardResult)
      (hanswer : s.uploadAnswer event.1 = some (call, .ok result)) (hresult : result.success = true)
      (h : shards = (s.server.cp.setShards call.checkpointId
        (some (s.server.cp.shardsAfter call result))).checkpointShards)

theorem step_shards {sha256 : Bytes → String} {s s' : System} {event : Event × Nat}
    (hs : s.server.Recorded) (h : s.step sha256 event = some s') :
    ShardsMove s event s'.server.cp.checkpointShards := by
  cases step_server h with
  | upload call reply hanswer _ hserver =>
      rw [hserver]
      cases hreply : uploadAccepted reply with
      | false =>
          obtain ⟨failureMessage, exception, hout⟩ :=
            uploadShardFinish_rejected s.server.cp call hreply event.2
          obtain ⟨_, hshards, _⟩ := failCheckpoint_effect (α := WriteShardResult) hs.coherent
            call.runId call.checkpointId failureMessage exception event.2
          rw [hout]
          exact .forgotten call.checkpointId hshards
      | true =>
          cases reply with
          | error e => cases hreply
          | ok result =>
              obtain ⟨_, hshards, _⟩ := uploadShardFinish_accepted hs.coherent call hreply event.2
              exact .remembered call result hanswer hreply hshards
  | commit call reply _ _ hserver =>
      obtain ⟨_, hshards, _⟩ := commitRunFinish_records hs.coherent call reply event.2
      rw [hserver]
      exact .forgotten call.checkpointId hshards
  | request request _ _ hhandle => exact .same (Server.handle_records hs hhandle).1
  | delete id _ _ hserver => exact .same (by rw [hserver]; rfl)
  | stay _ _ hserver => exact .same (by rw [hserver])

end System

end CheckpointRuntime
