import CheckpointRuntime.AccountedShards

/-!
# What can be read from a checkpoint

Whatever is required of the bodies that are uploaded for a checkpoint holds of
everything that is ever read from it: only uploads write under the keys of its
shards, and only its own commits write its manifest (`Filled`).  A read makes
several calls, and other requests come in between them, so what it relies on is
a contract (`keeps_readShard`).  Nothing is asked of the aborts: a read may find
nothing, but never something else.
-/

namespace CheckpointRuntime

open Coordinator ControlPlane CallProgram Chunking PartialRun

/-! ## A read and what it relies on -/

/-- With ids of one length, the key of a shard names its run and its checkpoint. -/
theorem ShardOf.ids {runId checkpointId runId' checkpointId' key : String}
    (hrun : runId.toList.length = runId'.toList.length)
    (hcheckpoint : checkpointId.toList.length = checkpointId'.toList.length)
    (h : ShardOf runId checkpointId key) (h' : ShardOf runId' checkpointId' key) :
    runId = runId' ∧ checkpointId = checkpointId' := by
  obtain ⟨shardId, digest, rfl⟩ := h
  obtain ⟨shardId', digest', hkey⟩ := h'
  rw [contentAddressedKey, contentAddressedKey, String.append_left_inj, ← String.toList_inj] at hkey
  simp only [String.toList_append, List.append_assoc] at hkey
  obtain ⟨hruns, hkey⟩ := List.append_inj hkey hrun
  obtain ⟨hcheckpoints, _⟩ := List.append_inj (List.append_cancel_left hkey) hcheckpoint
  exact ⟨String.toList_inj.mp hruns, String.toList_inj.mp hcheckpoints⟩

/-- The manifest of a checkpoint lists shards of this checkpoint only, and what is
stored under the keys of its shards is acceptable. -/
structure Serves (accept : Bytes → Prop) (runId checkpointId : String) (b : Bucket) : Prop where
  listed : ∀ manifest, b.get? (manifestKey runId checkpointId) = some (.manifest manifest) →
    ∀ shard ∈ manifest.shards, ShardOf runId checkpointId shard.storageKey
  stored : ∀ key data, ShardOf runId checkpointId key → b.get? key = some (.bytes data) →
    accept data

/-- What a `ReadShard` in flight still promises: it changes nothing, and what it
streams is acceptable. -/
def ReadContract (accept : Bytes → Prop) (request : ReadShardRequest)
    (program : S3Program (Except Status (List ShardChunk))) (b : Bucket) : Prop :=
  Keeps bucketService (fun _ t => Serves accept request.runId request.checkpointId t)
    (fun t t' => t' = t)
    (fun reply _ => ∀ chunks, reply = .ok chunks → accept (chunks.map (·.data)).flatten) program b

section
variable {accept : Bytes → Prop} {request : ReadShardRequest} {b b' : Bucket}

/-- A call that only looks at the bucket. -/
theorem keeps_getObject {key : String} {rely : Bucket → Bucket → Prop}
    {good : (S3Call.getObject key).Result → Bucket → Prop}
    (hgood : ∀ t body, rely b t → t.get? key = some body → good body t) :
    ClientKeeps rely (fun t t' => t' = t) good (fun _ => True) (S3Client.getObject key) b := by
  unfold S3Client.getObject
  refine ClientKeeps.await ?_ ?_
  · exact fun _ _ => ⟨rfl, trivial⟩
  intro t hrely t' body heffect
  simp only [Bucket.effect] at heffect
  split at heffect
  · next found hfound =>
    obtain ⟨rfl, rfl⟩ := Prod.mk.inj (Except.ok.inj heffect)
    exact ⟨rfl, hgood _ _ hrely hfound, trivial⟩
  · cases heffect

/-- A manifest that is read lists shards of its checkpoint. -/
theorem keeps_readManifest (accept : Bytes → Prop) (runId checkpointId : String) (b : Bucket) :
    ClientKeeps (fun _ t => Serves accept runId checkpointId t) (fun t t' => t' = t)
      (fun found _ => ∀ manifest, found = some manifest →
        ∀ shard ∈ manifest.shards, ShardOf runId checkpointId shard.storageKey)
      (fun _ => True) (readManifest runId checkpointId) b := by
  unfold readManifest
  refine ClientKeeps.bind (ClientKeeps.objectExists ?_ ?_)
  · exact fun t _ => ⟨rfl, ClientKeeps.pure fun _ h => (by cases h)⟩
  · intro t _ _
    refine ClientKeeps.bind (keeps_getObject ?_)
    intro t' body hserves hbody
    cases body with
    | manifest manifest =>
        refine ClientKeeps.pure ?_
        intro other hother
        obtain rfl := Option.some.inj hother
        exact hserves.listed manifest hbody
    | bytes data => exact ClientKeeps.throw trivial
    | text content => exact ClientKeeps.throw trivial

/-- **The contract of `ReadShard`.** -/
theorem keeps_readShard (accept : Bytes → Prop) (request : ReadShardRequest) (b : Bucket) :
    ReadContract accept request (readShard request) b := by
  refine Keeps.bind (Keeps.weaken (fun _ _ h => h) (fun _ _ h => h) ?_
    (keeps_readManifest accept request.runId request.checkpointId b))
  intro found t hfound
  cases found with
  | error e => exact fun _ h => (by cases h)
  | ok found =>
      cases found with
      | none => exact fun _ h => (by cases h)
      | some manifest =>
          dsimp only
          split
          · exact fun _ h => (by cases h)
          · next shard hshard =>
            have hof := hfound manifest rfl shard (List.mem_of_find?_eq_some hshard)
            have hread : ClientKeeps
                (fun _ t => Serves accept request.runId request.checkpointId t)
                (fun t t' => t' = t) (fun chunks _ => accept chunks.flatten) (fun _ => True)
                (readShardObject shard.storageKey readChunkSize) t := by
              refine ClientKeeps.bind (keeps_getObject ?_)
              intro t' body hserves hbody
              cases body with
              | bytes data =>
                  refine ClientKeeps.pure ?_
                  rw [flatten_pieces (by decide)]
                  exact hserves.stored _ data hof hbody
              | manifest other => exact ClientKeeps.throw trivial
              | text content => exact ClientKeeps.throw trivial
            refine Keeps.bind (Keeps.weaken (fun _ _ h => h) (fun _ _ h => h) ?_ hread)
            intro chunks t' hchunks
            cases chunks with
            | error e => exact fun _ h => (by cases h)
            | ok chunks =>
                intro messages hmessages
                obtain rfl := Except.ok.inj hmessages
                rw [readShardStream_data]
                exact hchunks

/-- Between two calls of a read anything may happen that keeps what it relies on. -/
theorem ReadContract.of_any {program : S3Program (Except Status (List ShardChunk))}
    (h : ReadContract accept request program b) : ReadContract accept request program b' := by
  cases program with
  | done reply => exact h
  | call op next => exact h

end

namespace System

/-! ## The invariant -/

/-- Uploads, objects and manifests of a checkpoint carry what is acceptable for it. -/
structure Filled (accept : String → Bytes → Prop) (sha256 : Bytes → String) (s : System) :
    Prop where
  linked : s.Linked
  contracted : s.Contracted sha256
  writes : ∀ write ∈ s.writes, accept write.call.checkpointId write.call.body
  objects : ∀ (runId checkpointId key : String) (data : Bytes), runId.toList.length = 16 →
    checkpointId.toList.length = 16 → ShardOf runId checkpointId key →
    s.bucket.get? key = some (.bytes data) →
      checkpointId ∈ s.server.issued ∧ accept checkpointId data
  listed : ∀ (runId checkpointId : String) (manifest : Manifest), runId.toList.length = 16 →
    s.bucket.get? (manifestKey runId checkpointId) = some (.manifest manifest) →
      ∀ shard ∈ manifest.shards, ShardOf runId checkpointId shard.storageKey
  requested : ∀ commit ∈ s.commits, ∀ shard ∈ commit.request.shards,
    ShardOf commit.request.runId commit.request.checkpointId shard.storageKey
  remembered : ∀ checkpointId info, info ∈ s.server.cp.shardsOf checkpointId →
    ∃ runId, s.Owned runId checkpointId ∧ ShardOf runId checkpointId info.storageKey

/-- What is required of an upload that an event delivers. -/
def Delivers (accept : String → Bytes → Prop) (s : System) (event : Event × Nat) : Prop :=
  ∀ task body header uuid depth maxDepth runId checkpointId shardId,
    event.1 = .uploadBody task body header uuid depth maxDepth →
    s.tasks[task]? = some (.receiveBody runId checkpointId shardId) → accept checkpointId body

section
variable {accept accept' : String → Bytes → Prop} {sha256 : Bytes → String} {s s' : System}
  {event : Event × Nat}

theorem filled_init (store : KVStore) (autoRecover hasSupervisor : Bool) :
    (init store autoRecover hasSupervisor).Filled accept sha256 where
  linked := linked_init store autoRecover hasSupervisor
  contracted := contracted_init sha256 store autoRecover hasSupervisor
  writes := fun _ h => nomatch h
  objects := fun _ _ _ _ _ _ _ h => nomatch h
  listed := fun _ _ _ _ h => nomatch h
  requested := fun _ h => nomatch h
  remembered := fun _ _ h => nomatch h

/-- A write in the pool was there, or its body has just been delivered. -/
theorem write_delivered (h : s.step sha256 event = some s') {write : WriteRpc}
    (hmem : write ∈ s'.writes) (hevent : s.Delivers accept event) :
    (∃ old ∈ s.writes, old.call = write.call) ∨
      accept write.call.checkpointId write.call.body := by
  rcases writeCall_origin h hmem with hold | ⟨_, task, header, uuid, depth, maxDepth, hbody⟩
  · exact Or.inl hold
  · obtain ⟨event, now⟩ := event
    generalize hbodies : write.call.body = delivered at hbody
    dsimp only at hbody
    subst hbody
    simp only [step] at h
    split at h
    · next runId checkpointId shardId htask =>
      simp only [beginWrite] at h
      split at h
      · obtain rfl := Option.some.inj h
        exact Or.inl ⟨write, hmem, rfl⟩
      · next call hreceive =>
        split at h
        · obtain rfl := Option.some.inj h
          rcases List.mem_append.mp hmem with hold | hnew
          · exact Or.inl ⟨write, hold, rfl⟩
          · obtain rfl := List.mem_singleton.mp hnew
            obtain ⟨_, _, rfl⟩ := uploadShardReceive_eq_ok.mp hreceive
            exact Or.inr (hevent _ _ _ _ _ _ _ _ _ rfl htask)
        · cases h
    · cases h

namespace Filled

/-- What is acceptable may change for ids that were not handed out. -/
theorem mono (hs : s.Filled accept sha256)
    (h : ∀ id ∈ s.server.issued, ∀ body, accept id body → accept' id body) :
    s.Filled accept' sha256 where
  linked := hs.linked
  contracted := hs.contracted
  writes write hwrite := h _ (hs.linked.writes write hwrite).checkpoint _ (hs.writes write hwrite)
  objects runId checkpointId key data hrun hcheckpoint hof hdata := by
    obtain ⟨hissued, haccept⟩ := hs.objects runId checkpointId key data hrun hcheckpoint hof hdata
    exact ⟨hissued, h _ hissued _ haccept⟩
  listed := hs.listed
  requested := hs.requested
  remembered := hs.remembered

/-- What a read relies on. -/
theorem serves (hs : s.Filled accept sha256) {runId checkpointId : String}
    (hrun : runId.toList.length = 16) (hcheckpoint : checkpointId.toList.length = 16) :
    Serves (accept checkpointId) runId checkpointId s.bucket where
  listed manifest := hs.listed runId checkpointId manifest hrun
  stored key data hof hdata := (hs.objects runId checkpointId key data hrun hcheckpoint hof hdata).2

theorem writes_step (hs : s.Filled accept sha256) (hevent : s.Delivers accept event)
    (h : s.step sha256 event = some s') (write : WriteRpc) (hmem : write ∈ s'.writes) :
    accept write.call.checkpointId write.call.body := by
  rcases write_delivered h hmem hevent with ⟨old, hold, hcall⟩ | haccept
  · exact hcall ▸ hs.writes old hold
  · exact haccept

/-- Only an upload writes bytes under the key of a shard. -/
theorem objects_step (hs : s.Filled accept sha256) (h : s.step sha256 event = some s')
    (runId checkpointId key : String) (data : Bytes) (hrun : runId.toList.length = 16)
    (hcheckpoint : checkpointId.toList.length = 16) (hof : ShardOf runId checkpointId key)
    (hdata : s'.bucket.get? key = some (.bytes data)) :
    checkpointId ∈ s'.server.issued ∧ accept checkpointId data := by
  have hold : s.bucket.get? key = some (.bytes data) →
      checkpointId ∈ s'.server.issued ∧ accept checkpointId data := by
    intro hdata
    obtain ⟨hissued, haccept⟩ := hs.objects runId checkpointId key data hrun hcheckpoint hof hdata
    exact ⟨issued_step hs.linked.recorded h hissued, haccept⟩
  have hkey : ∃ shardId digest, key = contentAddressedKey runId checkpointId shardId digest := hof
  obtain ⟨shardId, digest, hkey⟩ := hkey
  cases hs.contracted.bounded.step_bucket h with
  | same hsame => exact hold (hsame ▸ hdata)
  | commit commit _ _ hguar =>
      exact hold (by rw [← hguar.others _ (hkey ▸ contentAddressedKey_ne_manifestKey), hdata])
  | abort _ _ _ _ _ _ _ hguar =>
      rcases hguar.objects key with hsame | ⟨hgone, _⟩
      · exact hold (by rw [← hsame, hdata])
      · exact nomatch hgone.symm.trans hdata
  | write rpc write hwrite hguar =>
      have hmem := List.mem_of_getElem? hwrite
      have howned := hs.linked.writes write hmem
      by_cases hfinal : key = (write.target sha256).final
      · rcases hguar.final with hsame | hbytes
        · exact hold (by rw [hfinal, ← hsame, ← hfinal, hdata])
        · have htarget : ShardOf write.call.runId write.call.checkpointId key := ⟨_, _, hfinal⟩
          obtain ⟨_, rfl⟩ := ShardOf.ids (hrun.trans (hs.linked.id_length howned.run).symm)
            (hcheckpoint.trans (hs.linked.id_length howned.checkpoint).symm) hof htarget
          rw [hfinal, hbytes] at hdata
          obtain rfl := ObjectBody.bytes.inj (Option.some.inj hdata)
          exact ⟨issued_step hs.linked.recorded h howned.checkpoint, hs.writes write hmem⟩
      · apply hold
        rw [← hguar.others _ (hkey ▸ contentAddressedKey_ne_stagingKey write.uuid_valid) hfinal
          (hkey ▸ contentAddressedKey_ne_sidecarKey), hdata]

/-- Only a commit writes a manifest, and it lists what is remembered. -/
theorem listed_step (hs : s.Filled accept sha256) (h : s.step sha256 event = some s')
    (runId checkpointId : String) (manifest : Manifest) (hrun : runId.toList.length = 16)
    (hmanifest : s'.bucket.get? (manifestKey runId checkpointId) = some (.manifest manifest)) :
    ∀ shard ∈ manifest.shards, ShardOf runId checkpointId shard.storageKey := by
  rcases (hs.contracted.bounded.step_bucket h).manifest_origin hmanifest with hold | hwritten
  · exact hs.listed runId checkpointId manifest hrun hold
  · obtain ⟨commit, hcommit, _, hkey, hnew⟩ := hwritten
    obtain rfl := ObjectBody.manifest.inj hnew
    have howned := hs.linked.commits commit hcommit
    obtain ⟨rfl, rfl⟩ := manifestKey_inj (hrun.trans (hs.linked.id_length howned.run).symm) hkey
    exact hs.requested commit hcommit

theorem requested_step (hs : s.Filled accept sha256) (h : s.step sha256 event = some s')
    (commit : CommitRpc) (hmem : commit ∈ s'.commits) (shard : ManifestShard)
    (hshard : shard ∈ commit.request.shards) :
    ShardOf commit.request.runId commit.request.checkpointId shard.storageKey := by
  cases commit_origin h hmem with
  | before _ hold => exact hs.requested commit hold shard hshard
  | called moving _ _ hold _ => exact hs.requested moving hold shard hshard
  | begun runId call request hbegin hrequest =>
      rw [CommitCall.request_eq_ok hrequest] at hshard ⊢
      obtain ⟨info, hinfo, rfl⟩ := List.mem_map.mp hshard
      obtain ⟨_, active, hactive, _, _, rfl⟩ := commitRunBegin_eq_ok.mp hbegin
      obtain ⟨hrecord, hrun, _⟩ := activeCheckpoint_spec hactive
      obtain ⟨r, howned, hof⟩ := hs.remembered active.checkpointId info hinfo
      obtain rfl : r = runId := by rw [← hrun, howned.record active hrecord]
      exact hof

theorem remembered_step (hs : s.Filled accept sha256) (h : s.step sha256 event = some s')
    (checkpointId : String) (info : ShardInfo)
    (hinfo : info ∈ s'.server.cp.shardsOf checkpointId) :
    ∃ runId, s'.Owned runId checkpointId ∧ ShardOf runId checkpointId info.storageKey := by
  rcases remembered_origin hs.linked.recorded h hinfo with
    hold | ⟨call, result, hanswer, rfl, rfl⟩
  · obtain ⟨runId, howned, hof⟩ := hs.remembered checkpointId info hold
    exact ⟨runId, howned.step hs.linked.recorded h, hof⟩
  · obtain ⟨rpc, write, response, htask, hwrite, rfl, hdone, rfl⟩ := hs.linked.acknowledged hanswer
    have hcontract := hs.contracted.writes rpc write hwrite
    unfold WriteRpc.Contract at hcontract
    rw [hdone] at hcontract
    obtain ⟨rfl, _⟩ := hcontract response rfl
    exact ⟨_, (hs.linked.writes write (List.mem_of_getElem? hwrite)).step hs.linked.recorded h,
      _, _, rfl⟩

/-- **Every step keeps checkpoints filled with what is acceptable.** -/
theorem step (hs : s.Filled accept sha256) (hevent : s.Delivers accept event)
    (h : s.step sha256 event = some s') : s'.Filled accept sha256 where
  linked := hs.linked.step h
  contracted := contracted_step hs.contracted h
  writes := hs.writes_step hevent h
  objects := hs.objects_step h
  listed := hs.listed_step h
  requested := hs.requested_step h
  remembered := hs.remembered_step h

end Filled

end

end System

end CheckpointRuntime
