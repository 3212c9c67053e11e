import CheckpointRuntime.LatestCheckpoint
import CheckpointRuntime.ManifestBacked
import CheckpointRuntime.MessageSize
import CheckpointRuntime.OutcomesFinal
import CheckpointRuntime.RecordManifestAgreement

/-!
# A committed checkpoint can be restored

What is committed is there to be downloaded, whatever else the system is in the
middle of: the record says `COMMITTED` only if a manifest is stored, the
manifest lists only shards that were uploaded for this checkpoint, and their
objects hold the bytes of those uploads.  All of this stands on the same
condition as `ManifestsBacked`: aborts spare what is needed.  A shard that is too
large for one message of the data plane is there, but cannot be downloaded.

As long as outcomes are final, what is committed is never outdone by something
older either (`committed_never_lost`).
-/

namespace CheckpointRuntime

open Coordinator ControlPlane CallProgram Chunking PartialRun

namespace System

/-- What the client of the data plane receives: a message over its limit is an error of
the call. -/
def receive : Except Status (List ShardChunk) → Except Status (List ShardChunk)
  | .error e => .error e
  | .ok chunks =>
      if ∀ chunk ∈ chunks, chunk.Fits then .ok chunks
      else .error ⟨.resourceExhausted, "Received message larger than max"⟩

/-- What is received was sent. -/
theorem eq_ok_of_receive {reply : Except Status (List ShardChunk)} {chunks : List ShardChunk}
    (h : receive reply = .ok chunks) : reply = .ok chunks := by
  cases reply with
  | error e => cases h
  | ok sent =>
      obtain ⟨_, hsent⟩ | ⟨_, hfailed⟩ := ite_eq_iff.mp h
      · exact hsent
      · cases hfailed

/-- What `download_shard` answers now, if no call of the store fails. -/
def downloadShard (s : System) (runId checkpointId shardId : String) :
    Except HttpException Bytes :=
  s.server.cp.downloadShard shardId
    (receive ((readShard { shardId := shardId, checkpointId := checkpointId, runId := runId }).run
      bucketService (fun _ => .none) s.bucket).1)

/-- The entry of a shard is that of an upload for its checkpoint. -/
def FromUpload (s : System) (sha256 : Bytes → String) (checkpointId : String)
    (shard : ManifestShard) : Prop :=
  ∃ write ∈ s.writes, write.call.checkpointId = checkpointId ∧
    write.call.shardId = shard.shardId ∧ shard.storageKey = (write.target sha256).final

/-- The shards of a manifest are there, each with the body of an upload of it: the
download answers the body if its messages fit the limit of the client, and 500 if they
do not. -/
def Downloads (s : System) (runId checkpointId : String) : Prop :=
  ∃ manifest, s.bucket.get? (manifestKey runId checkpointId) = some (.manifest manifest) ∧
    manifest.shards ≠ [] ∧ ∀ shard ∈ manifest.shards, ∃ write ∈ s.writes,
      write.call.runId = runId ∧ write.call.checkpointId = checkpointId ∧
      write.call.shardId = shard.shardId ∧
      s.downloadShard runId checkpointId shard.shardId =
        if ∀ chunk ∈ readMessages shard.shardId checkpointId write.call.body, chunk.Fits then
          .ok write.call.body
        else
          .error internalServerError

section
variable {sha256 : Bytes → String} {payloads : Bytes → Prop} {s s' : System}
  {event : Event × Nat}

/-! ## What a step leaves alone -/

theorem connected_handle {s s' : Server} {now : Nat} {request : AtomicRequest}
    (h : s.handle now request = some s') : s'.cp.dpConnected = s.cp.dpConnected := by
  cases request with
  | createRun config runId =>
      obtain ⟨_, h⟩ := Option.ite_none_right_eq_some.mp h
      obtain rfl := Option.some.inj h
      rfl
  | checkpoint runId step checkpointId =>
      obtain ⟨_, h⟩ := Option.ite_none_right_eq_some.mp h
      obtain rfl := Option.some.inj h
      unfold triggerCheckpoint
      dsimp only
      split <;> rfl
  | resume runId =>
      obtain rfl := Option.some.inj h
      unfold resumeRun
      dsimp only
      split
      · rfl
      · split
        · rfl
        · split <;> rfl
  | heartbeat runId step =>
      obtain rfl := Option.some.inj h
      unfold heartbeatStep
      dsimp only
      split
      · rfl
      · split <;> rfl
  | start | cancel | complete | fail | workerFailure =>
      obtain rfl := Option.some.inj h
      rfl

theorem connected_failCheckpoint {α : Type} (cp : ControlPlane)
    (runId checkpointId failureMessage : String) (exception : HttpException) (now : Nat) :
    (cp.failCheckpoint (α := α) runId checkpointId failureMessage exception now).1.dpConnected =
      cp.dpConnected := by
  unfold failCheckpoint
  dsimp only
  split <;> rfl

theorem connected_step (h : s.step sha256 event = some s') :
    s'.server.cp.dpConnected = s.server.cp.dpConnected := by
  cases step_server h with
  | upload call reply _ _ hserver =>
      rw [hserver]
      cases hreply : uploadAccepted reply with
      | false =>
          obtain ⟨_, _, hout⟩ := uploadShardFinish_rejected s.server.cp call hreply event.2
          show (s.server.cp.uploadShardFinish call reply event.2).1.dpConnected = _
          rw [hout, connected_failCheckpoint]
      | true =>
          cases reply with
          | error e => cases hreply
          | ok result => exact (uploadShardFinish_answers s.server.cp call hreply event.2).2.2
  | commit call reply _ _ hserver =>
      rw [hserver]
      cases hreply : commitAccepted reply with
      | false =>
          obtain ⟨_, _, hout⟩ := commitRunFinish_rejected s.server.cp call hreply event.2
          show (s.server.cp.commitRunFinish call reply event.2).1.dpConnected = _
          rw [hout, connected_failCheckpoint]
      | true =>
          cases reply with
          | error e => cases hreply
          | ok response => exact (commitRunFinish_answers s.server.cp call hreply event.2).2.2
  | request request _ _ hhandle => exact connected_handle hhandle
  | delete id _ _ hserver => rw [hserver]; rfl
  | stay _ _ hserver => rw [hserver]

/-- An upload that is in the pool stays there. -/
theorem FromUpload.step {checkpointId : String} {shard : ManifestShard}
    (hshard : s.FromUpload sha256 checkpointId shard) (h : s.step sha256 event = some s') :
    s'.FromUpload sha256 checkpointId shard := by
  obtain ⟨write, hwrite, hcheckpoint, hid, hkey⟩ := hshard
  obtain ⟨rpc, hrpc⟩ := List.getElem?_of_mem hwrite
  obtain ⟨write', hwrite', hcall⟩ := writeCall_step h hrpc
  refine ⟨write', List.mem_of_getElem? hwrite', hcall ▸ hcheckpoint, hcall ▸ hid, ?_⟩
  rw [hkey]
  show contentAddressedKey _ _ _ _ = contentAddressedKey _ _ _ _
  rw [hcall]

/-! ## The invariant -/

/-- The entries that are remembered or were sent with a commit come from uploads
for their checkpoint, every stored manifest was sent, and what is committed has
one. -/
structure Restorable (sha256 : Bytes → String) (payloads : Bytes → Prop) (s : System) :
    Prop where
  sound : s.Sound sha256 payloads
  connected : s.server.cp.dpConnected = true
  bodies : ∀ write ∈ s.writes, write.call.body ≠ []
  remembered : ∀ id info, info ∈ s.server.cp.shardsOf id →
    s.FromUpload sha256 id (manifestShardOf info)
  sent : ∀ manifest ∈ s.sentManifests, manifest.shards ≠ [] ∧
    ∀ shard ∈ manifest.shards, s.FromUpload sha256 manifest.checkpointId shard
  stored : ∀ runId checkpointId body,
    s.bucket.get? (manifestKey runId checkpointId) = some body →
      ∃ manifest ∈ s.sentManifests,
        manifestKey manifest.runId manifest.checkpointId = manifestKey runId checkpointId ∧
        body = .manifest manifest
  committed : ∀ id info, s.server.cp.coordinator.getCheckpoint id = some info →
    info.state = .committed → s.bucket.get? (manifestKey info.runId id) ≠ none

theorem restorable_init (store : KVStore) (autoRecover hasSupervisor : Bool) :
    (init store autoRecover hasSupervisor).Restorable sha256 payloads where
  sound := sound_init store autoRecover hasSupervisor
  connected := rfl
  bodies := fun _ h => nomatch h
  remembered := fun _ _ h => nomatch h
  sent := fun _ h => nomatch h
  stored := fun _ _ _ h => nomatch h
  committed := by
    intro id info h
    simp [init, Server.init, ControlPlane.init, Coordinator.init, getCheckpoint] at h

/-- An upload without a body starts no write. -/
theorem writes_of_empty_body {task : Nat} {header : RankHeader} {uuid : String}
    {depth maxDepth now : Nat}
    (h : s.step sha256 (.uploadBody task [] header uuid depth maxDepth, now) = some s') :
    s'.writes = s.writes := by
  simp only [step] at h
  split at h
  · obtain rfl := Option.some.inj h
    rfl
  · cases h

namespace Restorable

theorem bodies_step (hs : s.Restorable sha256 payloads) (h : s.step sha256 event = some s') :
    ∀ write ∈ s'.writes, write.call.body ≠ [] := by
  intro write hwrite hempty
  rcases writeCall_origin h hwrite with ⟨old, hold, hcall⟩ | ⟨_, task, header, uuid, d, m, hevent⟩
  · exact hs.bodies old hold (hcall ▸ hempty)
  · obtain ⟨event, now⟩ := event
    rw [hempty] at hevent
    subst hevent
    rw [writes_of_empty_body h] at hwrite
    exact hs.bodies write hwrite hempty

theorem remembered_step (hs : s.Restorable sha256 payloads) (h : s.step sha256 event = some s')
    (id : String) (info : ShardInfo) (hinfo : info ∈ s'.server.cp.shardsOf id) :
    s'.FromUpload sha256 id (manifestShardOf info) := by
  apply FromUpload.step _ h
  rcases remembered_origin hs.sound.linked.recorded h hinfo with
    hold | ⟨call, result, hanswer, rfl, rfl⟩
  · exact hs.remembered id info hold
  · -- the acknowledged upload is still in the pool
    obtain ⟨rpc, write, response, htask, hwrite, rfl, hdone, rfl⟩ :=
      hs.sound.linked.acknowledged hanswer
    have hmem := List.mem_of_getElem? hwrite
    have hcontract := hs.sound.awaited write.call rpc write htask hwrite
    unfold WriteRpc.Contract at hcontract
    rw [hdone] at hcontract
    obtain ⟨rfl, _⟩ := hcontract response rfl
    exact ⟨write, hmem, rfl, rfl, rfl⟩

theorem sent_step (hs : s.Restorable sha256 payloads) (h : s.step sha256 event = some s')
    (manifest : Manifest) (hmem : manifest ∈ s'.sentManifests) : manifest.shards ≠ [] ∧
      ∀ shard ∈ manifest.shards, s'.FromUpload sha256 manifest.checkpointId shard := by
  have hold : manifest ∈ s.sentManifests → manifest.shards ≠ [] ∧
      ∀ shard ∈ manifest.shards, s'.FromUpload sha256 manifest.checkpointId shard := by
    intro hmem
    obtain ⟨hne, hshards⟩ := hs.sent manifest hmem
    exact ⟨hne, fun shard hshard => (hshards shard hshard).step h⟩
  rcases step_sentManifests h with hsame | ⟨runId, call, hbegin, _, hnew⟩
  · exact hold (hsame ▸ hmem)
  · rw [hnew] at hmem
    rcases List.mem_append.mp hmem with hmem | hmem
    · exact hold hmem
    · obtain rfl := List.mem_singleton.mp hmem
      obtain ⟨_, active, _, _, hne, rfl⟩ := commitRunBegin_eq_ok.mp hbegin
      refine ⟨fun hnil => hne (List.map_eq_nil_iff.mp hnil), ?_⟩
      intro shard hshard
      obtain ⟨info, hinfo, rfl⟩ := List.mem_map.mp hshard
      exact (hs.remembered _ info hinfo).step h

theorem stored_step (hs : s.Restorable sha256 payloads) (h : s.step sha256 event = some s')
    (runId checkpointId : String) (body : ObjectBody)
    (hbody : s'.bucket.get? (manifestKey runId checkpointId) = some body) :
    ∃ manifest ∈ s'.sentManifests,
      manifestKey manifest.runId manifest.checkpointId = manifestKey runId checkpointId ∧
      body = .manifest manifest := by
  rcases (hs.sound.contracted.bounded.step_bucket h).manifest_origin hbody with
    hold | ⟨commit, hcommit, _, hkey, hmanifest⟩
  · obtain ⟨manifest, hmem, hkey, hmanifest⟩ := hs.stored runId checkpointId body hold
    exact ⟨manifest, mem_sentManifests_step h hmem, hkey, hmanifest⟩
  · exact ⟨_, mem_sentManifests_step h (List.mem_map_of_mem hcommit), hkey.symm, hmanifest⟩

/-- A record becomes committed when a commit reports success, and by then the
manifest is there. -/
theorem committed_step (hs : s.Restorable sha256 payloads) (h : s.step sha256 event = some s')
    (id : String) (info : CheckpointInfo)
    (hinfo : s'.server.cp.coordinator.getCheckpoint id = some info)
    (hstate : info.state = .committed) : s'.bucket.get? (manifestKey info.runId id) ≠ none := by
  have hlinked := hs.sound.linked
  apply (hs.sound.contracted.bounded.step_bucket h).manifest_present
  cases step_checkpoint hlinked.recorded h id with
  | same hsame _ => exact hs.committed id info (hsame ▸ hinfo) hstate
  | gone hgone => exact nomatch hgone.symm.trans hinfo
  | moved old state hold hmoved _ hcommitted =>
      obtain rfl := Option.some.inj (hmoved.symm.trans hinfo)
      obtain ⟨call, reply, hanswer, rfl, haccepted⟩ := hcommitted hstate
      rcases commitAnswer_eq_some hanswer with
        ⟨_, rfl⟩ | ⟨rpc, commit, response, htask, rfl, hrpc, hvalue⟩
      · cases haccepted
      · obtain ⟨found, hfound, hrequest⟩ := hlinked.awaitCommit call rpc htask
        obtain rfl := Option.some.inj (hrpc.symm.trans hfound)
        have hmem := List.mem_of_getElem? hrpc
        have hcontract := hs.sound.contracted.commits commit hmem
        unfold CommitRpc.Contract at hcontract
        rw [Program.eq_done_of_value? hvalue] at hcontract
        have hcheckpoint : commit.request.checkpointId = call.checkpointId := by
          rw [CommitCall.request_eq_ok hrequest]
        have hrun := (hlinked.commits commit hmem).record old (by rw [hcheckpoint, hold])
        rw [updatedInfo_runId, hrun, ← hcheckpoint]
        exact hcontract haccepted
  | uploaded call result old _ _ _ hupdated _ =>
      obtain rfl := Option.some.inj (hupdated.symm.trans hinfo)
      cases hstate
  | created runId step _ hcreated _ =>
      obtain rfl := Option.some.inj (hcreated.symm.trans hinfo)
      cases hstate

theorem step (hlength : ∀ data, 16 ≤ (sha256 data).toList.length)
    (hdistinct : ∀ p q, payloads p → payloads q →
      digestPrefix (sha256 p) = digestPrefix (sha256 q) → p = q)
    (hs : s.Restorable sha256 payloads) (hguard : s.SparesNeeded sha256 event)
    (hpayload : ∀ body ∈ payload? event.1, payloads body)
    (h : s.step sha256 event = some s') : s'.Restorable sha256 payloads where
  sound := hs.sound.step hlength hdistinct hguard hpayload h
  connected := (connected_step h).trans hs.connected
  bodies := hs.bodies_step h
  remembered := hs.remembered_step h
  sent := hs.sent_step h
  stored := hs.stored_step h
  committed := hs.committed_step h

/-- What the invariant is for. -/
theorem downloads (hs : s.Restorable sha256 payloads) {info : CheckpointInfo}
    (hinfo : info ∈ s.server.cp.coordinator.checkpoints.rows) (hstate : info.state = .committed) :
    s.Downloads info.runId info.checkpointId := by
  have hlinked := hs.sound.linked
  have hrecord := getCheckpoint_of_mem hinfo
  have hpresent := hs.committed info.checkpointId info hrecord hstate
  obtain ⟨body, hbody⟩ := Option.ne_none_iff_exists'.mp hpresent
  obtain ⟨manifest, hsent, hkey, rfl⟩ := hs.stored info.runId info.checkpointId body hbody
  obtain ⟨commit, hcommit, rfl⟩ := List.mem_map.mp hsent
  have howned := hlinked.commits commit hcommit
  have hrun := owned_of_record hlinked.recorded hrecord rfl
  have hlength : commit.request.runId.toList.length = info.runId.toList.length := by
    rw [hlinked.id_length howned.run, hlinked.id_length hrun.run]
  obtain ⟨_, hid⟩ := manifestKey_inj hlength hkey
  obtain ⟨hne, hshards⟩ := hs.sent _ hsent
  refine ⟨_, hbody, hne, ?_⟩
  intro shard hshard
  -- the download takes the first entry of the shard
  obtain ⟨first, hfirst⟩ : ∃ first, (commit.request.manifest commit.startedAt).shards.find?
      (fun s => decide (s.shardId = shard.shardId)) = some first := by
    rw [← Option.isSome_iff_exists, List.find?_isSome]
    exact ⟨shard, hshard, decide_eq_true rfl⟩
  have hsame : first.shardId = shard.shardId := by simpa using List.find?_some hfirst
  obtain ⟨write, hwrite, hcheckpoint, hshardId, hfinal⟩ :=
    hshards first (List.mem_of_find?_eq_some hfirst)
  obtain ⟨_, hthere⟩ := hs.sound.listed first (.stored hbody (List.mem_of_find?_eq_some hfirst))
  obtain ⟨found, hfound⟩ := Option.ne_none_iff_exists'.mp hthere
  obtain rfl := hs.sound.content_of_write hwrite (hfinal ▸ hfound)
  have hwriteRun := (hlinked.writes write hwrite).record info
    (by rw [hcheckpoint]; exact hid ▸ hrecord)
  refine ⟨write, hwrite, hwriteRun.symm, hcheckpoint.trans hid, hshardId.trans hsame, ?_⟩
  have hread := readShard_run ⟨shard.shardId, info.checkpointId, info.runId⟩ hbody hfirst hfound
  have hpos : 0 < readChunkSize := by decide
  have hchunks : readShardStream shard.shardId info.checkpointId
      (pieces readChunkSize write.call.body) ≠ [] := by
    intro hnil
    have hpieces := readShardStream_data shard.shardId info.checkpointId
      (pieces readChunkSize write.call.body)
    rw [hnil, List.map_nil] at hpieces
    exact pieces_ne_nil hpos (hs.bodies write hwrite) hpieces.symm
  unfold downloadShard receive readMessages
  rw [hread]
  dsimp only
  split
  · rw [ControlPlane.downloadShard, hs.connected, if_pos rfl]
    simp only [List.isEmpty_iff, if_neg hchunks, readShardStream_data, flatten_pieces hpos]
  · rw [ControlPlane.downloadShard, hs.connected, if_pos rfl]

theorem of_run (hlength : ∀ data, 16 ≤ (sha256 data).toList.length) {store : KVStore}
    {autoRecover hasSupervisor : Bool} {events : List (Event × Nat)}
    (hdistinct : ∀ p ∈ events.filterMap (fun event => payload? event.1),
      ∀ q ∈ events.filterMap (fun event => payload? event.1),
        digestPrefix (sha256 p) = digestPrefix (sha256 q) → p = q)
    (hguard : Guarded (System.step sha256) (SparesNeeded sha256)
      (init store autoRecover hasSupervisor) events)
    (hrun : run (System.step sha256) (init store autoRecover hasSupervisor) events = some s) :
    s.Restorable sha256 (· ∈ events.filterMap fun event => payload? event.1) := by
  have hpayloads : ∀ event ∈ events, ∀ body ∈ payload? event.1,
      body ∈ events.filterMap fun event => payload? event.1 :=
    fun event hevent body hbody => List.mem_filterMap.mpr ⟨event, hevent, hbody⟩
  refine guarded_invariant (System.step sha256) ?_
    (restorable_init store autoRecover hasSupervisor)
    (guarded_and_forall (System.step sha256) hguard hpayloads) hrun
  exact fun s event s' hs hboth h =>
    hs.step hlength (fun p q hp hq => hdistinct p hp q hq) hboth.1 hboth.2 h

end Restorable

end

/-- **What is committed can be restored.**  Wherever an interleaved run stops whose
aborts spare what is needed, with a digest whose prefix tells the payloads apart: every
committed checkpoint has a manifest with shards, and downloading any of them answers the
body of an upload of that very shard of that checkpoint, if its messages fit. -/
theorem committed_restorable (sha256 : Bytes → String)
    (hlength : ∀ data, 16 ≤ (sha256 data).toList.length)
    (store : KVStore) (autoRecover hasSupervisor : Bool) (events : List (Event × Nat))
    (hdistinct : ∀ p ∈ events.filterMap (fun event => payload? event.1),
      ∀ q ∈ events.filterMap (fun event => payload? event.1),
        digestPrefix (sha256 p) = digestPrefix (sha256 q) → p = q)
    (hguard : Guarded (step sha256) (SparesNeeded sha256)
      (init store autoRecover hasSupervisor) events) {s : System}
    (hrun : run (step sha256) (init store autoRecover hasSupervisor) events = some s) :
    ∀ info ∈ s.server.cp.coordinator.checkpoints.rows, info.state = .committed →
      s.Downloads info.runId info.checkpointId :=
  fun _ hinfo hstate => (Restorable.of_run hlength hdistinct hguard hrun).downloads hinfo hstate

/-- The system after two shards were uploaded and committed. -/
def twoCommitted : System :=
  (run (step World.digestOfBody) (init .inMemoryKVStore true true) uploadTwoThenCommit).get
    (by decide +kernel)

theorem run_uploadTwoThenCommit :
    run (step World.digestOfBody) (init .inMemoryKVStore true true) uploadTwoThenCommit =
      some twoCommitted :=
  (Option.some_get _).symm

/-- Its one record is committed. -/
theorem record_twoCommitted : ∃ info ∈ twoCommitted.server.cp.coordinator.checkpoints.rows,
    info.runId = "00000000000000a1" ∧ info.checkpointId = "00000000000000c1" ∧ info.step = 10 ∧
      info.state = .committed := by
  decide +kernel

/-- Both shards come back. -/
theorem committed_restorable_two_shards :
    twoCommitted.Downloads "00000000000000a1" "00000000000000c1" := by
  obtain ⟨info, hinfo, hrunId, hid, _, hstate⟩ := record_twoCommitted
  have hno : ∀ event ∈ uploadTwoThenCommit, isAbortCall event.1 = false := by decide +kernel
  have hdownloads := committed_restorable World.digestOfBody length_digestOfBody .inMemoryKVStore
    true true uploadTwoThenCommit (by decide +kernel) (guarded_of_no_abort hno)
    run_uploadTwoThenCommit info hinfo hstate
  rw [hrunId, hid] at hdownloads
  exact hdownloads

/-! ## Later commits -/

section
variable {sha256 : Bytes → String} {s s' : System} {event : Event × Nat}

/-- A record that is not deleted stays, with its run and its step. -/
theorem getCheckpoint_after_step (hs : s.server.Recorded) (h : s.step sha256 event = some s')
    {id : String} (hkept : event.1 ≠ .deleteCheckpoint id) {info : CheckpointInfo}
    (hinfo : s.server.cp.coordinator.getCheckpoint id = some info) :
    ∃ info', s'.server.cp.coordinator.getCheckpoint id = some info' ∧
      info'.runId = info.runId ∧ info'.step = info.step := by
  have hupdated : ∀ (c : Coordinator) (checkpointId : String) (state : CheckpointState)
      (summary : Option ShardSummary) (now : Nat), (∀ other, c.getCheckpoint other =
        if other = checkpointId then
          (s.server.cp.coordinator.getCheckpoint checkpointId).map
            (fun info => updatedInfo info state summary now)
        else s.server.cp.coordinator.getCheckpoint other) →
      ∃ info', c.getCheckpoint id = some info' ∧ info'.runId = info.runId ∧
        info'.step = info.step := by
    intro c checkpointId state summary now hrecords
    rw [hrecords]
    split
    · next hid =>
      rw [← hid, hinfo]
      exact ⟨_, rfl, rfl, rfl⟩
    · exact ⟨info, hinfo, rfl, rfl⟩
  cases step_server h with
  | upload call reply _ _ hserver =>
      obtain ⟨_, ⟨summary, hrecords⟩, _⟩ := uploadShardFinish_effect hs.coherent call reply event.2
      rw [hserver]
      exact hupdated _ _ _ _ _ hrecords
  | commit call reply _ _ hserver =>
      obtain ⟨_, _, hrecords, _⟩ := commitRunFinish_records hs.coherent call reply event.2
      rw [hserver]
      exact hupdated _ _ _ _ _ hrecords
  | request request _ _ hhandle =>
      obtain ⟨_, _, hmoves⟩ := Server.handle_records hs hhandle
      cases hmoves id with
      | same hsame => exact ⟨info, hsame.trans hinfo, rfl, rfl⟩
      | closed old _ hold hclosed =>
          obtain rfl := Option.some.inj (hold.symm.trans hinfo)
          exact ⟨_, hclosed, rfl, rfl⟩
      | created _ _ hnew _ => exact absurd (hs.checkpointIds id info hinfo).1 hnew
  | delete gone _ _ hserver hevent =>
      have hne : id ≠ gone := by
        intro heq
        exact hkept (heq ▸ hevent)
      rw [hserver, setCp, getCheckpoint_deleteCheckpoint, if_neg hne]
      exact ⟨info, hinfo, rfl, rfl⟩
  | stay _ _ hserver =>
      rw [hserver]
      exact ⟨info, hinfo, rfl, rfl⟩

theorem getCheckpoint_after_run {events : List (Event × Nat)} (hs : s.server.Recorded)
    (h : run (step sha256) s events = some s') {id : String}
    (hkept : ∀ event ∈ events, event.1 ≠ .deleteCheckpoint id) {info : CheckpointInfo}
    (hinfo : s.server.cp.coordinator.getCheckpoint id = some info) :
    ∃ info', s'.server.cp.coordinator.getCheckpoint id = some info' ∧
      info'.runId = info.runId ∧ info'.step = info.step := by
  induction events generalizing s info with
  | nil =>
      obtain rfl := Option.some.inj h
      exact ⟨info, hinfo, rfl, rfl⟩
  | cons event events ih =>
      obtain ⟨mid, hmid, hrest⟩ := run_cons_some _ h
      obtain ⟨between, hbetween, hrun, hstep⟩ :=
        getCheckpoint_after_step hs hmid (hkept event List.mem_cons_self) hinfo
      obtain ⟨info', hinfo', hrun', hstep'⟩ := ih (recorded_step hs hmid) hrest
        (fun event hevent => hkept event (List.mem_cons_of_mem _ hevent)) hbetween
      exact ⟨info', hinfo', hrun'.trans hrun, hstep'.trans hstep⟩

end

/-- What a rank restores is at least as far as any committed checkpoint. -/
theorem latestCommitted_of_committedFor {c : Coordinator} {runId : String} {info : CheckpointInfo}
    (hinfo : c.CommittedFor runId info) :
    ∃ latest, latestCommitted (c.listCheckpoints runId) = some latest ∧
      c.CommittedFor runId latest ∧ info.step ≤ latest.step := by
  cases hlatest : latestCommitted (c.listCheckpoints runId) with
  | none => exact absurd hinfo (latestCommitted_eq_none_iff.mp hlatest info)
  | some latest =>
      obtain ⟨hcommitted, hleads⟩ := latestCommitted_eq_some_iff.mp hlatest
      refine ⟨latest, rfl, hcommitted, ?_⟩
      by_cases hsame : info = latest
      · exact hsame ▸ le_refl _
      · rcases hleads info hinfo hsame with hlt | heq
        · exact hlt.le
        · exact heq.1.le

/-- **No committed step is lost.**  Once a checkpoint is committed, a rank that starts
at any later time restores a step at least as large, and downloads every shard of what
it restores whose messages fit, as long as the answers of uploads and commits find their
records undecided, aborts spare what is needed, and its record is not deleted. -/
theorem committed_never_lost (sha256 : Bytes → String)
    (hlength : ∀ data, 16 ≤ (sha256 data).toList.length)
    (store : KVStore) (autoRecover hasSupervisor : Bool) (events later : List (Event × Nat))
    (hdistinct : ∀ p ∈ (events ++ later).filterMap (fun event => payload? event.1),
      ∀ q ∈ (events ++ later).filterMap (fun event => payload? event.1),
        digestPrefix (sha256 p) = digestPrefix (sha256 q) → p = q)
    (hguard : Guarded (step sha256) (SparesNeeded sha256)
      (init store autoRecover hasSupervisor) (events ++ later)) {s s' : System}
    (hrun : run (step sha256) (init store autoRecover hasSupervisor) events = some s)
    (hlater : run (step sha256) s later = some s')
    (hundecided : Guarded (step sha256) FindsUndecided s later)
    {info : CheckpointInfo} (hinfo : info ∈ s.server.cp.coordinator.checkpoints.rows)
    (hstate : info.state = .committed)
    (hkept : ∀ event ∈ later, event.1 ≠ .deleteCheckpoint info.checkpointId) :
    ∃ latest, latestCommitted (s'.server.cp.coordinator.listCheckpoints info.runId) = some latest ∧
      info.step ≤ latest.step ∧ s'.Downloads info.runId latest.checkpointId := by
  have hall : run (step sha256) (init store autoRecover hasSupervisor) (events ++ later) =
      some s' := by
    rw [run_append, hrun, Option.bind_some, hlater]
  have hrestorable := Restorable.of_run hlength hdistinct hguard hall
  have hrecorded : s.server.Recorded :=
    run_invariant _ (fun _ _ _ hs hstep => recorded_step hs hstep)
      (Server.recorded_init store autoRecover hasSupervisor) hrun
  have hrecord := getCheckpoint_of_mem hinfo
  obtain ⟨info', hinfo', hrunId, hstep⟩ :=
    getCheckpoint_after_run hrecorded hlater hkept hrecord
  have hstill : info'.state = .committed :=
    (keepsOutcomes_run hrecorded hundecided hlater info.checkpointId info info' hrecord hinfo'
      (Or.inl hstate)).trans hstate
  obtain ⟨latest, hlatest, ⟨hmem, hlatestRun, hlatestState⟩, hle⟩ :=
    latestCommitted_of_committedFor ⟨mem_of_getCheckpoint hinfo', hrunId, hstill⟩
  refine ⟨latest, hlatest, hstep ▸ hle, ?_⟩
  have hdownloads := hrestorable.downloads hmem hlatestState
  rw [hlatestRun] at hdownloads
  exact hdownloads

/-- After the commit, the next checkpoint is triggered and the run fails. -/
def failedNext : List (Event × Nat) :=
  [(.request (.checkpoint "00000000000000a1" (some 20) "00000000000000c2"), 20),
    (.uploadBegin "00000000000000a1" "00000000000000c2" "rank-0", 21),
    (.request (.fail "00000000000000a1" none), 22), (.request (.resume "00000000000000a1"), 23)]

/-- The first checkpoint is still restored. -/
theorem committed_never_lost_after_failure :
    ∃ s', run (step World.digestOfBody) twoCommitted failedNext = some s' ∧
      ∃ latest, latestCommitted
          (s'.server.cp.coordinator.listCheckpoints "00000000000000a1") = some latest ∧
        10 ≤ latest.step ∧ s'.Downloads "00000000000000a1" latest.checkpointId := by
  obtain ⟨s', hlater⟩ : ∃ s', run (step World.digestOfBody) twoCommitted failedNext = some s' := by
    apply Option.isSome_iff_exists.mp
    decide +kernel
  obtain ⟨info, hinfo, hrunId, _, hstep, hstate⟩ := record_twoCommitted
  have hno : ∀ event ∈ uploadTwoThenCommit ++ failedNext, isAbortCall event.1 = false := by
    decide +kernel
  have hquiet : ∀ event ∈ failedNext, event.1 ≠ .deleteCheckpoint info.checkpointId ∧
      ∀ s : System, s.uploadAnswer event.1 = none ∧ s.commitAnswer event.1 = none := by
    simp only [failedNext, List.forall_mem_cons, List.not_mem_nil, false_implies, implies_true,
      and_true]
    refine ⟨⟨?_, fun _ => ⟨rfl, rfl⟩⟩, ⟨?_, fun _ => ⟨rfl, rfl⟩⟩, ⟨?_, fun _ => ⟨rfl, rfl⟩⟩,
      ?_, fun _ => ⟨rfl, rfl⟩⟩ <;> exact fun h => (by cases h)
  have hundecided : Guarded (step World.digestOfBody) FindsUndecided twoCommitted failedNext := by
    refine guarded_mono _ ?_ (guarded_of_forall _ _ fun event hevent => (hquiet event hevent).2)
    intro s event hnone
    obtain ⟨hupload, hcommit⟩ := hnone s
    exact ⟨by simp [hupload], by simp [hcommit]⟩
  obtain ⟨latest, hlatest, hle, hdownloads⟩ := committed_never_lost World.digestOfBody
    length_digestOfBody .inMemoryKVStore true true uploadTwoThenCommit failedNext
    (by decide +kernel) (guarded_of_no_abort hno) run_uploadTwoThenCommit hlater hundecided hinfo
    hstate fun event hevent => (hquiet event hevent).1
  rw [hrunId] at hlatest hdownloads
  exact ⟨s', hlater, latest, hlatest, hstep ▸ hle, hdownloads⟩

end System

end CheckpointRuntime
