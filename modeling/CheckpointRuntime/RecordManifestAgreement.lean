import CheckpointRuntime.RpcContracts
import CheckpointRuntime.UploadHistory

/-!
# Records and manifests

The figures of a checkpoint are kept in three places: the remembered shards,
the record, and the requests and manifests of its commits.  An acknowledged
upload rewrites the first two; the third is fixed when a commit is sent.
`Tied` says that they agree, and it is kept by every step except an upload that
is acknowledged after a commit of its checkpoint was sent.
-/

namespace CheckpointRuntime

open Coordinator ControlPlane CallProgram PartialRun

/-- The figures of a checkpoint in its record. -/
def CheckpointInfo.summary (info : CheckpointInfo) : ShardSummary where
  numShards := info.numShards
  totalBytes := info.totalBytes
  shardIds := info.shardIds

/-- The figures of a checkpoint in a manifest. -/
def Manifest.summary (manifest : Manifest) : ShardSummary where
  numShards := manifest.numShards
  totalBytes := manifest.totalBytes
  shardIds := manifest.shards.map (·.shardId)

@[simp] theorem updatedInfo_summary (info : CheckpointInfo) (state : CheckpointState)
    (summary : Option ShardSummary) (now : Nat) :
    (updatedInfo info state summary now).summary = summary.getD info.summary := by
  cases summary <;> rfl

theorem manifestOf_summary (call : CommitCall) (now : Nat) :
    (manifestOf call now).summary = shardSummary call.shards := by
  simp only [Manifest.summary, manifestOf, shardSummary, List.map_map]
  rfl

namespace System

/-! ## What a step does to one checkpoint -/

/-- What a step does to the record and to the remembered shards of one
checkpoint. -/
inductive CheckpointMove (s : System) (event : Event × Nat) (s' : System) (id : String) : Prop
  | same (h : s'.server.cp.coordinator.getCheckpoint id = s.server.cp.coordinator.getCheckpoint id)
      (hshards : s'.server.cp.checkpointShards id = s.server.cp.checkpointShards id ∨
        s'.server.cp.checkpointShards id = none)
  | gone (h : s'.server.cp.coordinator.getCheckpoint id = none)
  | moved (info : CheckpointInfo) (state : CheckpointState)
      (h : s.server.cp.coordinator.getCheckpoint id = some info)
      (h' : s'.server.cp.coordinator.getCheckpoint id =
        some (updatedInfo info state none event.2))
      (hshards : s'.server.cp.checkpointShards id = s.server.cp.checkpointShards id ∨
        s'.server.cp.checkpointShards id = none)
      (hcommitted : state = .committed → ∃ call reply,
        s.commitAnswer event.1 = some (call, reply) ∧ call.checkpointId = id ∧
          commitAccepted reply = true)
  | uploaded (call : UploadCall) (result : WriteShardResult) (info : CheckpointInfo)
      (hanswer : s.uploadAnswer event.1 = some (call, .ok result)) (hresult : result.success = true)
      (hid : id = call.checkpointId)
      (h' : s'.server.cp.coordinator.getCheckpoint id = some (updatedInfo info .inProgress
        (some (shardSummary (s.server.cp.shardsAfter call result))) event.2))
      (hshards : s'.server.cp.checkpointShards id = some (s.server.cp.shardsAfter call result))
  | created (runId : String) (step : Int) (hnew : id ∉ s.server.issued)
      (h' : s'.server.cp.coordinator.getCheckpoint id =
        some { checkpointId := id, runId := runId, step := step, createdAt := event.2 })
      (hshards : s'.server.cp.checkpointShards id = s.server.cp.checkpointShards id)

section
variable {sha256 : Bytes → String} {s s' : System} {event : Event × Nat}

/-- A step that rewrites at most one record, and forgets its shards. -/
theorem checkpointMove_of_update (checkpointId : String) (state : CheckpointState) (id : String)
    (hrecords : ∀ other, s'.server.cp.coordinator.getCheckpoint other =
      if other = checkpointId then
        (s.server.cp.coordinator.getCheckpoint checkpointId).map
          (fun info => updatedInfo info state none event.2)
      else s.server.cp.coordinator.getCheckpoint other)
    (hshards : s'.server.cp.checkpointShards =
      (s.server.cp.setShards checkpointId none).checkpointShards)
    (hcommitted : state = .committed → ∃ call reply,
      s.commitAnswer event.1 = some (call, reply) ∧ call.checkpointId = checkpointId ∧
        commitAccepted reply = true) :
    CheckpointMove s event s' id := by
  have hid : s'.server.cp.checkpointShards id = s.server.cp.checkpointShards id ∨
      s'.server.cp.checkpointShards id = none := by
    rw [hshards]
    by_cases hid : id = checkpointId
    · exact Or.inr (if_pos hid)
    · exact Or.inl (if_neg hid)
  by_cases hsame : id = checkpointId
  · subst hsame
    cases hinfo : s.server.cp.coordinator.getCheckpoint id with
    | none => exact .gone (by rw [hrecords, if_pos rfl, hinfo]; rfl)
    | some info =>
        refine .moved info state hinfo ?_ hid hcommitted
        rw [hrecords, if_pos rfl, hinfo]
        rfl
  · exact .same (by rw [hrecords, if_neg hsame]) hid

theorem step_checkpoint (hs : s.server.Recorded) (h : s.step sha256 event = some s')
    (id : String) : CheckpointMove s event s' id := by
  cases step_server h with
  | upload call reply hanswer _ hserver =>
      cases hreply : uploadAccepted reply with
      | false =>
          obtain ⟨failureMessage, exception, hout⟩ :=
            uploadShardFinish_rejected s.server.cp call hreply event.2
          obtain ⟨_, hshards, hrecords, _⟩ := failCheckpoint_effect (α := WriteShardResult)
            hs.coherent call.runId call.checkpointId failureMessage exception event.2
          rw [← hout] at hshards hrecords
          refine checkpointMove_of_update call.checkpointId .failed id ?_ ?_ (fun h => by cases h)
          · rw [hserver]
            exact hrecords
          · rw [hserver]
            exact hshards
      | true =>
          cases reply with
          | error e => cases hreply
          | ok result =>
              obtain ⟨_, hshards, hrecords, _⟩ :=
                uploadShardFinish_accepted hs.coherent call hreply event.2
              have hshardsId : s'.server.cp.checkpointShards id = if id = call.checkpointId then
                  some (s.server.cp.shardsAfter call result)
                  else s.server.cp.checkpointShards id := by
                rw [hserver]
                exact congrFun hshards id
              have hrecordsId := hrecords id
              by_cases hid : id = call.checkpointId
              · rw [if_pos hid] at hshardsId hrecordsId
                cases hinfo : s.server.cp.coordinator.getCheckpoint call.checkpointId with
                | none =>
                    rw [hinfo] at hrecordsId
                    exact .gone (by rw [hserver]; exact hrecordsId)
                | some info =>
                    rw [hinfo] at hrecordsId
                    refine .uploaded call result info hanswer hreply hid ?_ hshardsId
                    rw [hserver]
                    exact hrecordsId
              · rw [if_neg hid] at hshardsId hrecordsId
                exact .same (by rw [hserver]; exact hrecordsId) (Or.inl hshardsId)
  | commit call reply _ hanswer hserver =>
      obtain ⟨_, hshards, hrecords, _⟩ :=
        commitRunFinish_records hs.coherent call reply event.2
      refine checkpointMove_of_update call.checkpointId _ id (by rw [hserver]; exact hrecords)
        (by rw [hserver]; exact hshards) ?_
      intro hcommitted
      refine ⟨call, reply, hanswer, rfl, ?_⟩
      split at hcommitted
      · next haccepted => exact haccepted
      · cases hcommitted
  | request request _ _ hhandle =>
      obtain ⟨hshards, _, hmoves⟩ := Server.handle_records hs hhandle
      cases hmoves id with
      | same hsame => exact .same hsame (Or.inl (congrFun hshards id))
      | closed info _ hinfo hclosed =>
          exact .moved info .failed hinfo hclosed (Or.inl (congrFun hshards id))
            (fun h => by cases h)
      | created runId step hnew hinfo =>
          exact .created runId step hnew hinfo (congrFun hshards id)
  | delete gone _ _ hserver =>
      by_cases hid : id = gone
      · refine .gone ?_
        rw [hserver, setCp, getCheckpoint_deleteCheckpoint, if_pos hid]
      · refine .same ?_ (Or.inl (by rw [hserver]; rfl))
        rw [hserver, setCp, getCheckpoint_deleteCheckpoint, if_neg hid]
  | stay _ _ hserver => exact .same (by rw [hserver]) (Or.inl (by rw [hserver]))

end

/-! ## The manifests that were asked for -/

/-- The manifests of all commits that were sent. -/
def sentManifests (s : System) : List Manifest :=
  s.commits.map fun commit => commit.request.manifest commit.startedAt

section
variable {sha256 : Bytes → String} {s s' : System} {event : Event × Nat}

theorem step_sentManifests (h : s.step sha256 event = some s') :
    s'.sentManifests = s.sentManifests ∨
    ∃ runId call, s.server.cp.commitRunBegin runId = .ok call ∧ s'.server = s.server ∧
      s'.sentManifests = s.sentManifests ++ [manifestOf call event.2] := by
  cases step_pools h with
  | commitCall rpc fault commit program bucket hcommit hcall hs' =>
      subst hs'
      left
      obtain ⟨hlt, hget⟩ := List.getElem?_eq_some_iff.mp hcommit
      unfold sentManifests
      rw [List.map_set]
      apply List.ext_getElem?
      intro i
      by_cases hi : i = rpc
      · subst hi
        simp [hlt, hget]
      · rw [List.getElem?_set_ne (Ne.symm hi)]
  | beginCommit runId call request hbegin hrequest hs' =>
      subst hs'
      refine Or.inr ⟨runId, call, hbegin, rfl, ?_⟩
      unfold sentManifests
      rw [List.map_append, List.map_singleton, manifest_of_request hrequest]
  | writeCall _ _ _ _ _ _ _ hs' => exact Or.inl (by rw [hs']; rfl)
  | abortCall _ _ _ _ _ _ _ _ hs' => exact Or.inl (by rw [hs']; rfl)
  | beginWrite _ _ _ _ _ _ _ _ _ _ hs' => exact Or.inl (by rw [hs']; rfl)
  | handler _ _ _ _ _ hs' => exact Or.inl (by rw [hs']; rfl)

/-- What was sent stays sent. -/
theorem mem_sentManifests_step (h : s.step sha256 event = some s') {manifest : Manifest}
    (hmem : manifest ∈ s.sentManifests) : manifest ∈ s'.sentManifests := by
  rcases step_sentManifests h with hsame | ⟨_, _, _, _, hnew⟩
  · rwa [hsame]
  · rw [hnew]
    exact List.mem_append_left _ hmem

end

/-! ## The invariant -/

/-- The record of a committed checkpoint has the figures of its manifest. -/
def Agree (s : System) : Prop :=
  ∀ id info, s.server.cp.coordinator.getCheckpoint id = some info → info.state = .committed →
    ∃ manifest, s.bucket.get? (manifestKey info.runId id) = some (.manifest manifest) ∧
      info.shardIds = manifest.shards.map (·.shardId) ∧ info.numShards = manifest.numShards ∧
      info.totalBytes = manifest.totalBytes

/-- No upload is acknowledged for a checkpoint for which a commit was sent. -/
def FindsUnsent (s : System) (event : Event × Nat) : Prop :=
  match s.uploadAnswer event.1 with
  | some (call, reply) => uploadAccepted reply = true →
      ∀ manifest ∈ s.sentManifests, manifest.checkpointId ≠ call.checkpointId
  | none => True

instance (s : System) (event : Event × Nat) : Decidable (s.FindsUnsent event) := by
  unfold FindsUnsent
  split <;> infer_instance

/-- Remembered shards, record, and requests and manifests of commits agree. -/
structure Tied (sha256 : Bytes → String) (s : System) : Prop where
  linked : s.Linked
  contracted : s.Contracted sha256
  remembered : ∀ id shards info, s.server.cp.checkpointShards id = some shards →
    s.server.cp.coordinator.getCheckpoint id = some info → info.summary = shardSummary shards
  requested : ∀ manifest ∈ s.sentManifests, ∀ info,
    s.server.cp.coordinator.getCheckpoint manifest.checkpointId = some info →
      info.summary = manifest.summary
  stored : ∀ runId checkpointId body,
    s.bucket.get? (manifestKey runId checkpointId) = some body →
      ∃ manifest ∈ s.sentManifests,
        manifestKey manifest.runId manifest.checkpointId = manifestKey runId checkpointId ∧
        body = .manifest manifest
  committed : ∀ id info, s.server.cp.coordinator.getCheckpoint id = some info →
    info.state = .committed → s.bucket.get? (manifestKey info.runId id) ≠ none

theorem tied_init (sha256 : Bytes → String) (store : KVStore) (autoRecover hasSupervisor : Bool) :
    (init store autoRecover hasSupervisor).Tied sha256 where
  linked := linked_init store autoRecover hasSupervisor
  contracted := contracted_init sha256 store autoRecover hasSupervisor
  remembered := fun _ _ _ h => by cases h
  requested := fun _ h => by cases h
  stored := fun _ _ _ h => by cases h
  committed := by
    intro id info h
    simp [init, Server.init, ControlPlane.init, Coordinator.init, getCheckpoint] at h

section
variable {sha256 : Bytes → String} {s s' : System} {event : Event × Nat}

/-- A sent manifest names a run and a checkpoint that belong together. -/
theorem Linked.owned_of_sent (hs : s.Linked) {manifest : Manifest}
    (hmem : manifest ∈ s.sentManifests) : s.Owned manifest.runId manifest.checkpointId := by
  obtain ⟨commit, hcommit, rfl⟩ := List.mem_map.mp hmem
  exact hs.commits commit hcommit

theorem Tied.agree (hs : s.Tied sha256) : s.Agree := by
  intro id info hinfo hstate
  obtain ⟨body, hbody⟩ := Option.ne_none_iff_exists'.mp (hs.committed id info hinfo hstate)
  obtain ⟨manifest, hsent, hkey, rfl⟩ := hs.stored info.runId id body hbody
  have howned := hs.linked.owned_of_sent hsent
  have hrecord := owned_of_record hs.linked.recorded hinfo rfl
  have hlength : manifest.runId.toList.length = info.runId.toList.length := by
    rw [hs.linked.id_length howned.run, hs.linked.id_length hrecord.run]
  obtain ⟨_, rfl⟩ := manifestKey_inj hlength hkey
  have hsummary := hs.requested manifest hsent info hinfo
  simp only [CheckpointInfo.summary, Manifest.summary, ShardSummary.mk.injEq] at hsummary
  exact ⟨manifest, hbody, hsummary.2.2, hsummary.1, hsummary.2.1⟩

/-- The record follows the remembered shards. -/
theorem Tied.remembered_step (hs : s.Tied sha256) (h : s.step sha256 event = some s')
    (id : String) (shards : List ShardInfo) (info : CheckpointInfo)
    (hshards : s'.server.cp.checkpointShards id = some shards)
    (hinfo : s'.server.cp.coordinator.getCheckpoint id = some info) :
    info.summary = shardSummary shards := by
  cases step_checkpoint hs.linked.recorded h id with
  | same hsame hkept =>
      rcases hkept with hkept | hnone
      · exact hs.remembered id shards info (hkept ▸ hshards) (hsame ▸ hinfo)
      · rw [hnone] at hshards
        cases hshards
  | gone hgone =>
      rw [hgone] at hinfo
      cases hinfo
  | moved old state hold hmoved hkept _ =>
      obtain rfl := Option.some.inj (hmoved.symm.trans hinfo)
      rcases hkept with hkept | hnone
      · exact hs.remembered id shards old (hkept ▸ hshards) hold
      · rw [hnone] at hshards
        cases hshards
  | uploaded call result old _ _ _ hupdated hmore =>
      obtain rfl := Option.some.inj (hupdated.symm.trans hinfo)
      obtain rfl := Option.some.inj (hmore.symm.trans hshards)
      rfl
  | created runId step hnew _ hkept =>
      exact absurd (hs.linked.shards id shards (hkept ▸ hshards)) hnew

/-- The record has the figures of every commit that was sent, unless an upload
is acknowledged behind it. -/
theorem Tied.requested_step (hs : s.Tied sha256) (hguard : s.FindsUnsent event)
    (h : s.step sha256 event = some s') (manifest : Manifest) (hmem : manifest ∈ s'.sentManifests)
    (info : CheckpointInfo)
    (hinfo : s'.server.cp.coordinator.getCheckpoint manifest.checkpointId = some info) :
    info.summary = manifest.summary := by
  have hold : manifest ∈ s.sentManifests → info.summary = manifest.summary := by
    intro hmem
    cases step_checkpoint hs.linked.recorded h manifest.checkpointId with
    | same hsame _ => exact hs.requested manifest hmem info (hsame ▸ hinfo)
    | gone hgone =>
        rw [hgone] at hinfo
        cases hinfo
    | moved old state hold hmoved _ _ =>
        obtain rfl := Option.some.inj (hmoved.symm.trans hinfo)
        exact hs.requested manifest hmem old hold
    | uploaded call result old hanswer hresult hid _ _ =>
        simp only [FindsUnsent, hanswer] at hguard
        exact absurd hid (hguard hresult manifest hmem)
    | created runId step hnew _ _ =>
        exact absurd (hs.linked.owned_of_sent hmem).checkpoint hnew
  rcases step_sentManifests h with hsame | ⟨runId, call, hbegin, hserver, hnew⟩
  · exact hold (hsame ▸ hmem)
  · rw [hnew] at hmem
    rcases List.mem_append.mp hmem with hmem | hmem
    · exact hold hmem
    · -- the request is built from the shards that are remembered
      obtain rfl := List.mem_singleton.mp hmem
      rw [hserver] at hinfo
      obtain ⟨_, active, _, _, hne, rfl⟩ := commitRunBegin_eq_ok.mp hbegin
      rw [manifestOf_summary]
      cases hshards : s.server.cp.checkpointShards active.checkpointId with
      | none => simp [shardsOf, hshards] at hne
      | some shards =>
          rw [hs.remembered _ shards info hshards hinfo]
          simp [shardsOf, hshards]

/-- Every stored manifest is one that was asked for. -/
theorem Tied.stored_step (hs : s.Tied sha256) (h : s.step sha256 event = some s')
    (runId checkpointId : String) (body : ObjectBody)
    (hbody : s'.bucket.get? (manifestKey runId checkpointId) = some body) :
    ∃ manifest ∈ s'.sentManifests,
      manifestKey manifest.runId manifest.checkpointId = manifestKey runId checkpointId ∧
      body = .manifest manifest := by
  rcases (hs.contracted.bounded.step_bucket h).manifest_origin hbody with hold | hwritten
  · obtain ⟨manifest, hmem, hkey, hmanifest⟩ := hs.stored runId checkpointId body hold
    exact ⟨manifest, mem_sentManifests_step h hmem, hkey, hmanifest⟩
  · obtain ⟨commit, hcommit, _, hkey, hmanifest⟩ := hwritten
    exact ⟨_, mem_sentManifests_step h (List.mem_map_of_mem hcommit), hkey.symm, hmanifest⟩

/-- A committed checkpoint has a manifest. -/
theorem Tied.committed_step (hs : s.Tied sha256) (h : s.step sha256 event = some s')
    (id : String) (info : CheckpointInfo)
    (hinfo : s'.server.cp.coordinator.getCheckpoint id = some info)
    (hstate : info.state = .committed) : s'.bucket.get? (manifestKey info.runId id) ≠ none := by
  apply (hs.contracted.bounded.step_bucket h).manifest_present
  cases step_checkpoint hs.linked.recorded h id with
  | same hsame _ => exact hs.committed id info (hsame ▸ hinfo) hstate
  | gone hgone =>
      rw [hgone] at hinfo
      cases hinfo
  | moved old state hold hmoved _ hcommitted =>
      obtain rfl := Option.some.inj (hmoved.symm.trans hinfo)
      obtain ⟨call, reply, hanswer, hid, haccepted⟩ := hcommitted hstate
      rcases commitAnswer_eq_some hanswer with
        ⟨_, rfl⟩ | ⟨rpc, commit, response, htask, rfl, hrpc, hvalue⟩
      · cases haccepted
      · -- the RPC has reported success, so it has seen or written the manifest
        obtain ⟨found, hfound, hrequest⟩ := hs.linked.awaitCommit call rpc htask
        obtain rfl := Option.some.inj (hrpc.symm.trans hfound)
        have hmem := List.mem_of_getElem? hrpc
        have hcontract := hs.contracted.commits commit hmem
        unfold CommitRpc.Contract at hcontract
        rw [Program.eq_done_of_value? hvalue] at hcontract
        have hpresent := hcontract haccepted
        have hcheckpoint : commit.request.checkpointId = id := by
          rw [CommitCall.request_eq_ok hrequest]
          exact hid
        have hrun := (hs.linked.commits commit hmem).record old (by rw [hcheckpoint, hold])
        rw [updatedInfo_runId, hrun, ← hcheckpoint]
        exact hpresent
  | uploaded call result old _ _ _ hupdated _ =>
      obtain rfl := Option.some.inj (hupdated.symm.trans hinfo)
      cases hstate
  | created runId step _ hcreated _ =>
      obtain rfl := Option.some.inj (hcreated.symm.trans hinfo)
      cases hstate

theorem Tied.step (hs : s.Tied sha256) (hguard : s.FindsUnsent event)
    (h : s.step sha256 event = some s') : s'.Tied sha256 where
  linked := hs.linked.step h
  contracted := contracted_step hs.contracted h
  remembered := hs.remembered_step h
  requested := hs.requested_step hguard h
  stored := hs.stored_step h
  committed := hs.committed_step h

end

/-- **Records and manifests agree** throughout a run in which no upload is
acknowledged for a checkpoint for which a commit was sent. -/
theorem records_agree_throughout (sha256 : Bytes → String) (store : KVStore)
    (autoRecover hasSupervisor : Bool) (events : List (Event × Nat))
    (hguard : Guarded (step sha256) FindsUnsent (init store autoRecover hasSupervisor) events) :
    Throughout (step sha256) Agree (init store autoRecover hasSupervisor) events :=
  throughout_of_guarded (step sha256) (fun _ _ _ hs hguard h => Tied.step hs hguard h)
    (fun _ hs => Tied.agree hs) (tied_init sha256 store autoRecover hasSupervisor) hguard

/-! ## Two shards and a commit -/

/-- The state of a record, and the shards that it and its manifest list. -/
def listedShards (s : System) (id : String) :
    Option (CheckpointState × List String × List String) :=
  match s.server.cp.coordinator.getCheckpoint id with
  | none => none
  | some info =>
      match s.bucket.get? (manifestKey info.runId id) with
      | some (.manifest manifest) =>
          some (info.state, info.shardIds, manifest.shards.map (·.shardId))
      | _ => none

theorem Agree.listedShards {s : System} (h : s.Agree) {id : String} {recorded listed : List String}
    (hlisted : s.listedShards id = some (.committed, recorded, listed)) : recorded = listed := by
  unfold System.listedShards at hlisted
  split at hlisted
  · cases hlisted
  · next info hinfo =>
    split at hlisted
    · next manifest hmanifest =>
      simp only [Option.some.injEq, Prod.mk.injEq] at hlisted
      obtain ⟨hstate, rfl, rfl⟩ := hlisted
      obtain ⟨stored, hstored, hshards, _⟩ := h id info hinfo hstate
      rw [hmanifest] at hstored
      cases hstored
      exact hshards
    · cases hlisted

/-- One shard is uploaded and committed. -/
def uploadThenCommit : List (Event × Nat) :=
  openEvents ++ writeEvents 0 0 "rank-0" [97] "123e4567-e89b-42d3-a456-426614174000" ++
    [(.uploadReply 0, 5), (.commitBegin "00000000000000a1", 7)] ++ commitEvents 1 0

/-- A second shard is acknowledged between the request of a commit and its
answer. -/
def uploadDuringCommit : List (Event × Nat) :=
  openEvents ++ writeEvents 0 0 "rank-0" [97] "123e4567-e89b-42d3-a456-426614174000" ++
    [(.uploadReply 0, 5)] ++
    writeEvents 1 1 "rank-1" [98] "123e4567-e89b-42d3-a456-426614174001" ++
    [(.commitBegin "00000000000000a1", 7), (.uploadReply 1, 7)] ++ commitEvents 2 0

/-- A shard that was uploaded before the commit is in record and manifest. -/
theorem records_agree_after_commit :
    Throughout (step World.digestOfBody) Agree (init .inMemoryKVStore true true)
      uploadThenCommit ∧
    ((run (step World.digestOfBody) (init .inMemoryKVStore true true) uploadThenCommit).bind
      fun s => s.listedShards "00000000000000c1") = some (.committed, ["rank-0"], ["rank-0"]) := by
  have hfacts : Guarded (step World.digestOfBody) FindsUnsent (init .inMemoryKVStore true true)
        uploadThenCommit ∧
      ((run (step World.digestOfBody) (init .inMemoryKVStore true true) uploadThenCommit).bind
        fun s => s.listedShards "00000000000000c1") =
          some (.committed, ["rank-0"], ["rank-0"]) := by decide +kernel
  exact ⟨records_agree_throughout World.digestOfBody .inMemoryKVStore true true uploadThenCommit
    hfacts.1, hfacts.2⟩

/-- A shard that is acknowledged while its checkpoint is being committed is in
the record and not in the manifest. -/
theorem upload_during_commit_disagrees :
    ¬ Throughout (step World.digestOfBody) Agree (init .inMemoryKVStore true true)
      uploadDuringCommit := by
  intro h
  have hlisted : ((run (step World.digestOfBody) (init .inMemoryKVStore true true)
      uploadDuringCommit).bind fun s => s.listedShards "00000000000000c1") =
      some (.committed, ["rank-0", "rank-1"], ["rank-0"]) := by decide +kernel
  obtain ⟨last, hlast, hshards⟩ := Option.bind_eq_some_iff.mp hlisted
  have hsame := (h.at_end (step World.digestOfBody) hlast).listedShards hshards
  cases hsame

end System

end CheckpointRuntime
