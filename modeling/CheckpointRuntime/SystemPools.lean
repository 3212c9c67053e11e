import CheckpointRuntime.SystemRecords
import CheckpointRuntime.Library.Pools

/-!
# Tasks and RPCs

What a step does to the bucket, the tasks and the pools of RPCs: an RPC makes
one call, a handler starts an RPC, or a handler goes on without one
(`step_pools`).  From it follows how tasks, RPCs and records are linked
(`Linked`): the ids they use were handed out, an RPC belongs to the run of its
checkpoint, and a task waits for the RPC that it has started.
-/

namespace CheckpointRuntime

open Coordinator ControlPlane CallProgram PartialRun Pools

/-- What a task may become without a new RPC to wait for. -/
inductive Task.Idle (s : System) : Task → Prop
  | finished : Task.Idle s .finished
  | awaitAbort (rpc : Nat) : Task.Idle s (.awaitAbort rpc)
  | receiveBody {runId checkpointId : String} (shardId : String)
      (h : s.server.cp.uploadShardCheck runId checkpointId = .ok ()) :
      Task.Idle s (.receiveBody runId checkpointId shardId)

namespace System

/-! ## What a step does to the pools -/

/-- What a step does besides what it does to the server. -/
inductive PoolMove (sha256 : Bytes → String) (s : System) (event : Event × Nat) (s' : System) : Prop
  | writeCall (rpc : Nat) (fault : Fault) (write : WriteRpc)
      (program : S3Program (Except Status WriteShardResponse)) (bucket : Bucket)
      (hwrite : s.writes[rpc]? = some write)
      (hcall : write.program.step bucketService fault s.bucket = some (program, bucket))
      (h : s' = { s with
        bucket := bucket, writes := s.writes.set rpc { write with program := program } })
  | commitCall (rpc : Nat) (fault : Fault) (commit : CommitRpc)
      (program : S3Program CommitResponse) (bucket : Bucket)
      (hcommit : s.commits[rpc]? = some commit)
      (hcall : commit.program.step bucketService fault s.bucket = some (program, bucket))
      (h : s' = { s with
        bucket := bucket, commits := s.commits.set rpc { commit with program := program } })
  | abortCall (rpc : Nat) (fault : Fault) (abort : AbortRpc)
      (program : S3Program (Except Status AbortResponse)) (bucket : Bucket)
      (hevent : event.1 = .abortCall rpc fault)
      (habort : s.aborts[rpc]? = some abort)
      (hcall : abort.program.step bucketService fault s.bucket = some (program, bucket))
      (h : s' = { s with
        bucket := bucket, aborts := s.aborts.set rpc { abort with program := program } })
  | beginWrite (task : Nat) (call : UploadCall) (header : RankHeader) (uuid : String)
      (huuid : isUuid uuid = true) (depth maxDepth : Nat)
      (hevent : event.1 = .uploadBody task call.body header uuid depth maxDepth)
      (htask : .receiveBody call.runId call.checkpointId call.shardId ∈ s.tasks)
      (hfresh : uuid ∉ s.writes.map (·.uuid))
      (h : s' = { s with
        tasks := s.tasks.set task (.awaitWrite call s.writes.length)
        writes := s.writes ++
          [{ call := call, uuid := uuid, uuid_valid := huuid,
             program := writeShard sha256 depth maxDepth uuid (call.chunks.map .ok) }] })
  | beginCommit (runId : String) (call : CommitCall) (request : CommitRequest)
      (hbegin : s.server.cp.commitRunBegin runId = .ok call)
      (hrequest : call.request = .ok request)
      (h : s' = { s with
        tasks := s.tasks ++ [.awaitCommit call s.commits.length]
        commits := s.commits ++
          [{ request := request, startedAt := event.2,
             program := commitCheckpoint request event.2 }] })
  | handler (server : Server) (tasks : List Task) (aborts : List AbortRpc)
      (htasks : ∀ task ∈ tasks, task ∈ s.tasks ∨ task.Idle s)
      (haborts : ∀ abort ∈ aborts,
        abort ∈ s.aborts ∨ abort.program = abortCheckpoint abort.request)
      (h : s' = { s with server := server, tasks := tasks, aborts := aborts })

section
variable {sha256 : Bytes → String} {s s' : System} {event : Event × Nat}

/-- A handler that changes the server only. -/
theorem PoolMove.of_server (server : Server) :
    PoolMove sha256 s event { s with server := server } :=
  .handler server s.tasks s.aborts (fun _ h => Or.inl h) (fun _ h => Or.inl h) rfl

/-- A handler that ends a task. -/
theorem PoolMove.of_finished (task : Nat) :
    PoolMove sha256 s event { s with tasks := s.tasks.set task .finished } := by
  refine .handler s.server _ s.aborts ?_ (fun _ h => Or.inl h) rfl
  intro other hother
  rcases List.mem_or_eq_of_mem_set hother with hold | rfl
  · exact Or.inl hold
  · exact Or.inr .finished

/-- A handler that is taken up again, or fails at once. -/
theorem PoolMove.of_resume {α : Type} {tasks : List Task}
    (htasks : ∀ task ∈ tasks, task ∈ s.tasks ∨ task.Idle s) (task : Nat)
    (out : ControlPlane × Outcome α) :
    PoolMove sha256 s event (resume { s with tasks := tasks } task out) := by
  have hset : ∀ {next : Task}, next.Idle s → ∀ other ∈ tasks.set task next,
      other ∈ s.tasks ∨ other.Idle s := by
    intro next hnext other hother
    rcases List.mem_or_eq_of_mem_set hother with hold | rfl
    · exact htasks other hold
    · exact Or.inr hnext
  unfold resume
  split
  · exact .handler _ _ s.aborts (hset .finished) (fun _ h => Or.inl h) rfl
  · refine .handler _ _ _ (hset (.awaitAbort _)) ?_ rfl
    intro abort habort
    rcases List.mem_append.mp habort with hold | hnew
    · exact Or.inl hold
    · obtain rfl := List.mem_singleton.mp hnew
      exact Or.inr rfl

theorem step_pools (h : s.step sha256 event = some s') : PoolMove sha256 s event s' := by
  obtain ⟨event, now⟩ := event
  cases event with
  | request request =>
      obtain ⟨server, _, rfl⟩ := Option.map_eq_some_iff.mp h
      exact .of_server server
  | deleteCheckpoint id =>
      obtain rfl := Option.some.inj h
      exact .of_server _
  | uploadBegin runId checkpointId shardId =>
      simp only [step] at h
      split at h
      · obtain rfl := Option.some.inj h
        exact .of_server s.server
      · next hcheck =>
        obtain rfl := Option.some.inj h
        refine .handler s.server _ s.aborts ?_ (fun _ h => Or.inl h) rfl
        intro other hother
        rcases List.mem_append.mp hother with hold | hnew
        · exact Or.inl hold
        · obtain rfl := List.mem_singleton.mp hnew
          exact Or.inr (.receiveBody shardId hcheck)
  | uploadBody task body header uuid depth maxDepth =>
      simp only [step] at h
      split at h
      · next runId checkpointId shardId htask =>
        simp only [beginWrite] at h
        split at h
        · obtain rfl := Option.some.inj h
          exact .of_finished task
        · next call hreceive =>
          obtain ⟨_, _, rfl⟩ := uploadShardReceive_eq_ok.mp hreceive
          split at h
          · next huuid =>
            obtain rfl := Option.some.inj h
            exact .beginWrite task _ header uuid huuid.1 depth maxDepth rfl
              (List.mem_of_getElem? htask) huuid.2 rfl
          · cases h
      · cases h
  | uploadReply task =>
      obtain ⟨answer, _, rfl⟩ := Option.map_eq_some_iff.mp h
      exact .of_resume (fun _ h => Or.inl h) task _
  | uploadRaise task message =>
      obtain ⟨answer, _, rfl⟩ := Option.map_eq_some_iff.mp h
      exact .of_resume (fun _ h => Or.inl h) task _
  | commitBegin runId =>
      obtain rfl := Option.some.inj h
      unfold beginCommit
      split
      · exact .of_server s.server
      · next call hbegin =>
        split
        · refine .of_resume ?_ _ _
          intro other hother
          rcases List.mem_append.mp hother with hold | hnew
          · exact Or.inl hold
          · obtain rfl := List.mem_singleton.mp hnew
            exact Or.inr .finished
        · next request hrequest => exact .beginCommit runId call request hbegin hrequest rfl
  | commitReply task =>
      obtain ⟨answer, _, rfl⟩ := Option.map_eq_some_iff.mp h
      exact .of_resume (fun _ h => Or.inl h) task _
  | commitRaise task message =>
      obtain ⟨answer, _, rfl⟩ := Option.map_eq_some_iff.mp h
      exact .of_resume (fun _ h => Or.inl h) task _
  | abortEnd task =>
      simp only [step] at h
      split at h
      · obtain rfl := Option.some.inj h
        exact .of_finished task
      · cases h
  | writeCall rpc fault =>
      obtain ⟨write, hwrite, h⟩ := Option.bind_eq_some_iff.mp h
      obtain ⟨out, hcall, h⟩ := Option.bind_eq_some_iff.mp h
      exact .writeCall rpc fault write out.1 out.2 hwrite hcall (Option.some.inj h).symm
  | commitCall rpc fault =>
      obtain ⟨commit, hcommit, h⟩ := Option.bind_eq_some_iff.mp h
      obtain ⟨out, hcall, h⟩ := Option.bind_eq_some_iff.mp h
      exact .commitCall rpc fault commit out.1 out.2 hcommit hcall (Option.some.inj h).symm
  | abortCall rpc fault =>
      obtain ⟨abort, habort, h⟩ := Option.bind_eq_some_iff.mp h
      obtain ⟨out, hcall, h⟩ := Option.bind_eq_some_iff.mp h
      exact .abortCall rpc fault abort out.1 out.2 rfl habort hcall (Option.some.inj h).symm

/-- Where a commit in the pool comes from: it was there, it has just made a call,
or a handler has just begun it. -/
inductive CommitOrigin (s : System) (event : Event × Nat) (b : Bucket) : CommitRpc → Prop
  | before (commit : CommitRpc) (h : commit ∈ s.commits) : CommitOrigin s event b commit
  | called (commit : CommitRpc) (fault : Fault) (program : S3Program CommitResponse)
      (h : commit ∈ s.commits)
      (hcall : commit.program.step bucketService fault s.bucket = some (program, b)) :
      CommitOrigin s event b { commit with program := program }
  | begun (runId : String) (call : CommitCall) (request : CommitRequest)
      (hbegin : s.server.cp.commitRunBegin runId = .ok call)
      (hrequest : call.request = .ok request) :
      CommitOrigin s event b
        { request := request, startedAt := event.2,
          program := commitCheckpoint request event.2 }

theorem commit_origin (h : s.step sha256 event = some s') {commit : CommitRpc}
    (hmem : commit ∈ s'.commits) : CommitOrigin s event s'.bucket commit := by
  cases step_pools h with
  | commitCall rpc fault moving program bucket hmoving hcall hs' =>
      subst hs'
      rcases List.mem_or_eq_of_mem_set hmem with hold | rfl
      · exact .before commit hold
      · exact .called moving fault program (List.mem_of_getElem? hmoving) hcall
  | beginCommit runId call request hbegin hrequest hs' =>
      subst hs'
      rcases List.mem_append.mp hmem with hold | hnew
      · exact .before commit hold
      · obtain rfl := List.mem_singleton.mp hnew
        exact .begun runId call request hbegin hrequest
  | writeCall _ _ _ _ _ _ _ hs' | abortCall _ _ _ _ _ _ _ _ hs'
  | beginWrite _ _ _ _ _ _ _ _ _ _ hs' | handler _ _ _ _ _ hs' =>
      subst hs'
      exact .before commit hmem

/-- A write in the pool carries the call of one that was there, or a body that has
just been delivered to the task that waited for it. -/
theorem writeCall_origin (h : s.step sha256 event = some s') {write : WriteRpc}
    (hmem : write ∈ s'.writes) :
    (∃ old ∈ s.writes, old.call = write.call) ∨
    .receiveBody write.call.runId write.call.checkpointId write.call.shardId ∈ s.tasks ∧
      ∃ task header uuid depth maxDepth,
        event.1 = .uploadBody task write.call.body header uuid depth maxDepth := by
  cases step_pools h with
  | writeCall rpc fault moving program bucket hmoving hcall hs' =>
      subst hs'
      rcases List.mem_or_eq_of_mem_set hmem with hold | rfl
      · exact Or.inl ⟨write, hold, rfl⟩
      · exact Or.inl ⟨moving, List.mem_of_getElem? hmoving, rfl⟩
  | beginWrite task call header uuid huuid depth maxDepth hevent htask hfresh hs' =>
      subst hs'
      rcases List.mem_append.mp hmem with hold | hnew
      · exact Or.inl ⟨write, hold, rfl⟩
      · obtain rfl := List.mem_singleton.mp hnew
        exact Or.inr ⟨htask, task, header, uuid, depth, maxDepth, hevent⟩
  | commitCall _ _ _ _ _ _ _ hs' | abortCall _ _ _ _ _ _ _ _ hs' | beginCommit _ _ _ _ _ hs'
  | handler _ _ _ _ _ hs' =>
      subst hs'
      exact Or.inl ⟨write, hmem, rfl⟩

/-- Where a task comes from: it was there, it waits for no RPC, or it waits for the
one that it has just started. -/
inductive TaskOrigin (s s' : System) : Task → Prop
  | before (task : Task) (h : task ∈ s.tasks) : TaskOrigin s s' task
  | idle (task : Task) (h : task.Idle s) : TaskOrigin s s' task
  | awaitWrite (call : UploadCall) (write : WriteRpc)
      (hwrite : s'.writes[s.writes.length]? = some write) (hcall : write.call = call) :
      TaskOrigin s s' (.awaitWrite call s.writes.length)
  | awaitCommit (call : CommitCall) (commit : CommitRpc)
      (hcommit : s'.commits[s.commits.length]? = some commit)
      (hrequest : call.request = .ok commit.request) :
      TaskOrigin s s' (.awaitCommit call s.commits.length)

theorem task_origin (h : s.step sha256 event = some s') {task : Task} (hmem : task ∈ s'.tasks) :
    TaskOrigin s s' task := by
  cases step_pools h with
  | writeCall _ _ _ _ _ _ _ hs' | commitCall _ _ _ _ _ _ _ hs'
  | abortCall _ _ _ _ _ _ _ _ hs' =>
      subst hs'
      exact .before task hmem
  | beginWrite _ call _ _ _ _ _ _ _ _ hs' =>
      subst hs'
      rcases List.mem_or_eq_of_mem_set hmem with hold | rfl
      · exact .before task hold
      · exact .awaitWrite call _ List.getElem?_concat_length rfl
  | beginCommit _ call request _ hrequest hs' =>
      subst hs'
      rcases List.mem_append.mp hmem with hold | hnew
      · exact .before task hold
      · obtain rfl := List.mem_singleton.mp hnew
        exact .awaitCommit call _ List.getElem?_concat_length hrequest
  | handler server tasks aborts htasks _ hs' =>
      subst hs'
      rcases htasks task hmem with hold | hidle
      · exact .before task hold
      · exact .idle task hidle

/-- A write stays at its place and keeps its call. -/
theorem writeCall_step (h : s.step sha256 event = some s') {rpc : Nat} {write : WriteRpc}
    (hwrite : s.writes[rpc]? = some write) :
    ∃ write', s'.writes[rpc]? = some write' ∧ write'.call = write.call := by
  cases step_pools h with
  | writeCall other fault moving program bucket hmoving hcall hs' =>
      subst hs'
      have hsame : ({ moving with program := program } : WriteRpc).call = moving.call := rfl
      exact getElem?_set_keeps (·.call) hmoving hsame hwrite
  | beginWrite _ _ _ _ _ _ _ _ _ _ hs' =>
      subst hs'
      exact ⟨write, getElem?_concat_of_some _ hwrite, rfl⟩
  | commitCall _ _ _ _ _ _ _ hs' | abortCall _ _ _ _ _ _ _ _ hs' | beginCommit _ _ _ _ _ hs'
  | handler _ _ _ _ _ hs' =>
      subst hs'
      exact ⟨write, hwrite, rfl⟩

/-- A commit stays at its place and keeps its request. -/
theorem commitRequest_step (h : s.step sha256 event = some s') {rpc : Nat} {commit : CommitRpc}
    (hcommit : s.commits[rpc]? = some commit) :
    ∃ commit', s'.commits[rpc]? = some commit' ∧ commit'.request = commit.request := by
  cases step_pools h with
  | commitCall other fault moving program bucket hmoving hcall hs' =>
      subst hs'
      have hsame : ({ moving with program := program } : CommitRpc).request = moving.request :=
        rfl
      exact getElem?_set_keeps (·.request) hmoving hsame hcommit
  | beginCommit _ _ _ _ _ hs' =>
      subst hs'
      exact ⟨commit, getElem?_concat_of_some _ hcommit, rfl⟩
  | writeCall _ _ _ _ _ _ _ hs' | abortCall _ _ _ _ _ _ _ _ hs'
  | beginWrite _ _ _ _ _ _ _ _ _ _ hs' | handler _ _ _ _ _ hs' =>
      subst hs'
      exact ⟨commit, hcommit, rfl⟩

/-- A shard that is remembered was remembered before, or its upload has just been
acknowledged. -/
theorem remembered_origin (hs : s.server.Recorded) (h : s.step sha256 event = some s')
    {checkpointId : String} {info : ShardInfo}
    (hmem : info ∈ s'.server.cp.shardsOf checkpointId) :
    info ∈ s.server.cp.shardsOf checkpointId ∨
    ∃ call result, s.uploadAnswer event.1 = some (call, .ok result) ∧
      checkpointId = call.checkpointId ∧ info = shardInfoOf call result := by
  unfold shardsOf at hmem
  cases step_shards hs h with
  | same hsame =>
      rw [hsame] at hmem
      exact Or.inl hmem
  | forgotten gone hgone =>
      rw [hgone] at hmem
      simp only [setShards] at hmem
      split at hmem
      · cases hmem
      · exact Or.inl hmem
  | remembered call result hanswer _ hmore =>
      rw [hmore] at hmem
      simp only [setShards] at hmem
      split at hmem
      · next hid =>
        subst hid
        rcases List.mem_append.mp hmem with hold | hnew
        · exact Or.inl hold
        · exact Or.inr ⟨call, result, hanswer, rfl, List.mem_singleton.mp hnew⟩
      · exact Or.inl hmem

end

/-! ## What an answer comes from -/

/-- An upload is answered to the task that waits for it; a result comes from
its finished RPC. -/
theorem uploadAnswer_eq_some {s : System} {event : Event} {call : UploadCall}
    {reply : Except String WriteShardResult} (h : s.uploadAnswer event = some (call, reply)) :
    ∃ rpc, .awaitWrite call rpc ∈ s.tasks ∧ ∀ result, reply = .ok result →
      ∃ write response, s.writes[rpc]? = some write ∧ write.program.value? = some (.ok response) ∧
        result = { shardId := response.shardId, totalBytes := response.totalBytes,
                   sha256Checksum := response.sha256Checksum, success := true } := by
  have hawaiting : ∀ {task : Nat} {call : UploadCall} {rpc : Nat},
      s.awaitingWrite task = some (call, rpc) → .awaitWrite call rpc ∈ s.tasks := by
    intro task call rpc h
    unfold awaitingWrite at h
    split at h
    · next htask =>
      obtain ⟨rfl, rfl⟩ := Prod.mk.inj (Option.some.inj h)
      exact List.mem_of_getElem? htask
    · cases h
  cases event with
  | uploadReply task =>
      obtain ⟨⟨found, rpc⟩, htask, h⟩ := Option.bind_eq_some_iff.mp h
      obtain ⟨write, hwrite, h⟩ := Option.bind_eq_some_iff.mp h
      obtain ⟨value, hvalue, h⟩ := Option.bind_eq_some_iff.mp h
      obtain ⟨rfl, rfl⟩ := Prod.mk.inj (Option.some.inj h)
      refine ⟨rpc, hawaiting htask, ?_⟩
      intro result hresult
      cases value with
      | error status => cases hresult
      | ok response =>
          refine ⟨write, response, hwrite, hvalue, ?_⟩
          simp only [clientWriteShard] at hresult
          split at hresult
          · exact (Except.ok.inj hresult).symm
          · cases hresult
  | uploadRaise task message =>
      obtain ⟨⟨found, rpc⟩, htask, h⟩ := Option.map_eq_some_iff.mp h
      obtain ⟨rfl, rfl⟩ := Prod.mk.inj h
      exact ⟨rpc, hawaiting htask, fun result hresult => by cases hresult⟩
  | _ => cases h

/-- A commit is answered to the task that waits for it, or it fails before it
has sent anything; a result comes from its finished RPC. -/
theorem commitAnswer_eq_some {s : System} {event : Event} {call : CommitCall}
    {reply : Except String CommitResponse} (h : s.commitAnswer event = some (call, reply)) :
    (∃ message, reply = .error message) ∨
    ∃ rpc commit response, .awaitCommit call rpc ∈ s.tasks ∧ reply = .ok response ∧
      s.commits[rpc]? = some commit ∧ commit.program.value? = some response := by
  cases event with
  | commitBegin runId =>
      simp only [commitAnswer] at h
      split at h
      · cases h
      · split at h
        · obtain ⟨_, rfl⟩ := Prod.mk.inj (Option.some.inj h)
          exact Or.inl ⟨_, rfl⟩
        · cases h
  | commitReply task =>
      obtain ⟨⟨found, rpc⟩, htask, h⟩ := Option.bind_eq_some_iff.mp h
      obtain ⟨commit, hcommit, h⟩ := Option.bind_eq_some_iff.mp h
      obtain ⟨response, hresponse, h⟩ := Option.bind_eq_some_iff.mp h
      obtain ⟨rfl, rfl⟩ := Prod.mk.inj (Option.some.inj h)
      refine Or.inr ⟨rpc, commit, response, ?_, rfl, hcommit, hresponse⟩
      unfold awaitingCommit at htask
      split at htask
      · next hawait =>
        obtain ⟨rfl, rfl⟩ := Prod.mk.inj (Option.some.inj htask)
        exact List.mem_of_getElem? hawait
      · cases htask
  | commitRaise task message =>
      obtain ⟨_, _, h⟩ := Option.map_eq_some_iff.mp h
      obtain ⟨_, rfl⟩ := Prod.mk.inj h
      exact Or.inl ⟨message, rfl⟩
  | _ => cases h

/-! ## How tasks, RPCs and records are linked -/

/-- A run and a checkpoint that belong together: both ids were handed out, and
the record of the checkpoint, as long as it is there, names the run. -/
structure Owned (s : System) (runId checkpointId : String) : Prop where
  run : runId ∈ s.server.issued
  checkpoint : checkpointId ∈ s.server.issued
  record : ∀ info, s.server.cp.coordinator.getCheckpoint checkpointId = some info →
    info.runId = runId

theorem Owned.step {sha256 : Bytes → String} {s s' : System} {event : Event × Nat}
    {runId checkpointId : String} (h : s.Owned runId checkpointId) (hs : s.server.Recorded)
    (hstep : s.step sha256 event = some s') : s'.Owned runId checkpointId where
  run := issued_step hs hstep h.run
  checkpoint := issued_step hs hstep h.checkpoint
  record := by
    intro info' hinfo'
    obtain ⟨info, hinfo, hrun⟩ := getCheckpoint_before_step hs hstep h.checkpoint hinfo'
    rw [hrun]
    exact h.record info hinfo

/-- A record and its run belong together. -/
theorem owned_of_record {s : System} (hs : s.server.Recorded) {runId checkpointId : String}
    {info : CheckpointInfo}
    (hinfo : s.server.cp.coordinator.getCheckpoint checkpointId = some info)
    (hrun : info.runId = runId) : s.Owned runId checkpointId := by
  obtain ⟨hissued, state, hstate⟩ := hs.checkpointIds checkpointId info hinfo
  refine ⟨hs.runIds runId state (hrun ▸ hstate), hissued, ?_⟩
  intro other hother
  obtain rfl := Option.some.inj (hinfo.symm.trans hother)
  exact hrun

/-- Tasks and RPCs act on runs and checkpoints that belong together, and a task
waits for the RPC that carries its call. -/
structure Linked (s : System) : Prop where
  recorded : s.server.Recorded
  receiveBody : ∀ runId checkpointId shardId,
    .receiveBody runId checkpointId shardId ∈ s.tasks → s.Owned runId checkpointId
  awaitWrite : ∀ call rpc, .awaitWrite call rpc ∈ s.tasks →
    ∃ write, s.writes[rpc]? = some write ∧ write.call = call
  awaitCommit : ∀ call rpc, .awaitCommit call rpc ∈ s.tasks →
    ∃ commit, s.commits[rpc]? = some commit ∧ call.request = .ok commit.request
  writes : ∀ write ∈ s.writes, s.Owned write.call.runId write.call.checkpointId
  commits : ∀ commit ∈ s.commits, s.Owned commit.request.runId commit.request.checkpointId
  shards : ∀ id shards, s.server.cp.checkpointShards id = some shards → id ∈ s.server.issued

/-- Ids that were handed out have sixteen digits. -/
theorem Linked.id_length {s : System} (hs : s.Linked) {id : String} (hid : id ∈ s.server.issued) :
    id.toList.length = 16 := by
  have hhex := hs.recorded.issuedHex id hid
  rw [isHexId, Bool.and_eq_true, decide_eq_true_eq] at hhex
  exact hhex.1

theorem linked_init (store : KVStore) (autoRecover hasSupervisor : Bool) :
    (init store autoRecover hasSupervisor).Linked where
  recorded := Server.recorded_init store autoRecover hasSupervisor
  receiveBody := fun _ _ _ h => by cases h
  awaitWrite := fun _ _ h => by cases h
  awaitCommit := fun _ _ h => by cases h
  writes := fun _ h => by cases h
  commits := fun _ h => by cases h
  shards := fun _ _ h => by cases h

/-- Only checkpoints whose ids were handed out have remembered shards. -/
theorem Linked.shards_step {sha256 : Bytes → String} {s s' : System} {event : Event × Nat}
    (hs : s.Linked) (h : s.step sha256 event = some s') (id : String) (shards : List ShardInfo)
    (hshards : s'.server.cp.checkpointShards id = some shards) : id ∈ s'.server.issued := by
  apply issued_step hs.recorded h
  cases step_shards hs.recorded h with
  | same hsame =>
      rw [hsame] at hshards
      exact hs.shards id shards hshards
  | forgotten gone hgone =>
      rw [hgone] at hshards
      simp only [setShards] at hshards
      split at hshards
      · cases hshards
      · exact hs.shards id shards hshards
  | remembered call result hanswer _ hmore =>
      rw [hmore] at hshards
      simp only [setShards] at hshards
      split at hshards
      · next hid =>
        obtain ⟨rpc, htask, _⟩ := uploadAnswer_eq_some hanswer
        obtain ⟨write, hwrite, hcall⟩ := hs.awaitWrite call rpc htask
        have howned := hs.writes write (List.mem_of_getElem? hwrite)
        rw [hcall, ← hid] at howned
        exact howned.checkpoint
      · exact hs.shards id shards hshards

/-- Writes go on acting on runs and checkpoints that belong together. -/
theorem Linked.writes_step {sha256 : Bytes → String} {s s' : System} {event : Event × Nat}
    (hs : s.Linked) (h : s.step sha256 event = some s') (write : WriteRpc)
    (hmem : write ∈ s'.writes) : s'.Owned write.call.runId write.call.checkpointId := by
  rcases writeCall_origin h hmem with ⟨old, hold, hcall⟩ | ⟨htask, _⟩
  · exact (hcall ▸ hs.writes old hold).step hs.recorded h
  · exact (hs.receiveBody _ _ _ htask).step hs.recorded h

/-- Commits go on acting on runs and checkpoints that belong together. -/
theorem Linked.commits_step {sha256 : Bytes → String} {s s' : System} {event : Event × Nat}
    (hs : s.Linked) (h : s.step sha256 event = some s') (commit : CommitRpc)
    (hmem : commit ∈ s'.commits) :
    s'.Owned commit.request.runId commit.request.checkpointId := by
  refine Owned.step ?_ hs.recorded h
  cases commit_origin h hmem with
  | before _ hold => exact hs.commits commit hold
  | called moving _ _ hold _ => exact hs.commits moving hold
  | begun runId call request hbegin hrequest =>
      obtain ⟨_, active, hactive, _, _, rfl⟩ := commitRunBegin_eq_ok.mp hbegin
      obtain ⟨hinfo, hrun, _⟩ := activeCheckpoint_spec hactive
      rw [CommitCall.request_eq_ok hrequest]
      exact owned_of_record hs.recorded hinfo hrun

/-- A finished upload that is answered has the call of its task. -/
theorem Linked.acknowledged {s : System} (hs : s.Linked) {event : Event} {call : UploadCall}
    {result : WriteShardResult} (hanswer : s.uploadAnswer event = some (call, .ok result)) :
    ∃ rpc write response, .awaitWrite call rpc ∈ s.tasks ∧ s.writes[rpc]? = some write ∧
      write.call = call ∧ write.program = .done (.ok response) ∧
      result = { shardId := response.shardId, totalBytes := response.totalBytes,
                 sha256Checksum := response.sha256Checksum, success := true } := by
  obtain ⟨rpc, htask, hresult⟩ := uploadAnswer_eq_some hanswer
  obtain ⟨write, response, hwrite, hvalue, rfl⟩ := hresult result rfl
  obtain ⟨found, hfound, hcall⟩ := hs.awaitWrite call rpc htask
  obtain rfl := Option.some.inj (hwrite.symm.trans hfound)
  exact ⟨rpc, write, response, htask, hwrite, hcall, Program.eq_done_of_value? hvalue, rfl⟩

theorem Linked.step {sha256 : Bytes → String} {s s' : System} {event : Event × Nat}
    (hs : s.Linked) (h : s.step sha256 event = some s') : s'.Linked where
  recorded := recorded_step hs.recorded h
  receiveBody runId checkpointId shardId hmem := by
    refine Owned.step ?_ hs.recorded h
    cases task_origin h hmem with
    | before _ hold => exact hs.receiveBody runId checkpointId shardId hold
    | idle _ hidle =>
        cases hidle with
        | receiveBody _ hcheck =>
            obtain ⟨_, info, hinfo, hrun⟩ := uploadShardCheck_eq_ok.mp hcheck
            exact owned_of_record hs.recorded hinfo hrun
  awaitWrite call rpc hmem := by
    cases task_origin h hmem with
    | before _ hold =>
        obtain ⟨write, hwrite, rfl⟩ := hs.awaitWrite call rpc hold
        exact writeCall_step h hwrite
    | idle _ hidle => cases hidle
    | awaitWrite _ write hwrite hcall => exact ⟨write, hwrite, hcall⟩
  awaitCommit call rpc hmem := by
    cases task_origin h hmem with
    | before _ hold =>
        obtain ⟨commit, hcommit, hrequest⟩ := hs.awaitCommit call rpc hold
        obtain ⟨commit', hcommit', hsame⟩ := commitRequest_step h hcommit
        exact ⟨commit', hcommit', hsame ▸ hrequest⟩
    | idle _ hidle => cases hidle
    | awaitCommit _ commit hcommit hrequest => exact ⟨commit, hcommit, hrequest⟩
  writes := hs.writes_step h
  commits := hs.commits_step h
  shards := hs.shards_step h

end System

end CheckpointRuntime
