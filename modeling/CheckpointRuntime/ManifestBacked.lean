import CheckpointRuntime.RpcContracts
import CheckpointRuntime.UploadHistory

/-!
# Manifests are backed by objects

An object is needed as long as a stored manifest, a commit in flight or the
remembered shards of a checkpoint list it, or an upload that wrote it is still
awaited.  Only an abort deletes objects, so as long as no abort deletes one
that is needed, every needed object is there with the bytes it was uploaded
with (`Sound`), and no manifest dangles (`manifests_backed`).  The code does not
check this: an abort deletes everything under the prefix of its checkpoint.
-/

namespace CheckpointRuntime

open Coordinator ControlPlane CallProgram PartialRun

/-! ## Deletions -/

/-- Storing an object removes none. -/
theorem get?_store_ne_none {b : Bucket} {key other : String} {body : ObjectBody}
    (hthere : b.get? other ≠ none) : (b.store key body).get? other ≠ none := by
  rw [Bucket.get?_store]
  split
  · simp
  · exact hthere

/-- Of all calls only a delete removes an object. -/
theorem Bucket.effect_present {b t : Bucket} {op : S3Call} {result : op.Result}
    (h : b.effect op = .ok (t, result)) {key : String} (hthere : b.get? key ≠ none) :
    t.get? key ≠ none ∨ op = .deleteObject key := by
  cases op with
  | headObject other =>
      simp only [effect] at h
      split at h
      · obtain ⟨rfl, -⟩ := Prod.mk.inj (Except.ok.inj h)
        exact Or.inl hthere
      · cases h
  | getObject other =>
      simp only [effect] at h
      split at h
      · obtain ⟨rfl, -⟩ := Prod.mk.inj (Except.ok.inj h)
        exact Or.inl hthere
      · cases h
  | putObject other body =>
      obtain ⟨rfl, -⟩ := Prod.mk.inj (Except.ok.inj h)
      exact Or.inl (get?_store_ne_none hthere)
  | copyObject source destination =>
      simp only [effect] at h
      split at h
      · obtain ⟨rfl, -⟩ := Prod.mk.inj (Except.ok.inj h)
        exact Or.inl (get?_store_ne_none hthere)
      · cases h
  | deleteObject other =>
      obtain ⟨rfl, -⟩ := Prod.mk.inj (Except.ok.inj h)
      rw [get?_remove]
      split
      · next hkey => exact Or.inr (by rw [hkey])
      · exact Or.inl hthere
  | listObjects start =>
      obtain ⟨rfl, -⟩ := Prod.mk.inj (Except.ok.inj h)
      exact Or.inl hthere
  | createMultipartUpload other =>
      obtain ⟨rfl, -⟩ := Prod.mk.inj (Except.ok.inj h)
      exact Or.inl hthere
  | uploadPart other uploadId partNumber data =>
      simp only [effect] at h
      split at h
      · obtain ⟨rfl, -⟩ := Prod.mk.inj (Except.ok.inj h)
        exact Or.inl hthere
      · cases h
  | completeMultipartUpload other uploadId partNumbers =>
      simp only [effect] at h
      split at h
      · obtain ⟨rfl, -⟩ := Prod.mk.inj (Except.ok.inj h)
        exact Or.inl (get?_store_ne_none hthere)
      · cases h
  | abortMultipartUpload other uploadId =>
      simp only [effect] at h
      split at h
      · obtain ⟨rfl, -⟩ := Prod.mk.inj (Except.ok.inj h)
        exact Or.inl hthere
      · cases h

/-- Only a delete that reaches the store removes an object. -/
theorem nextOp?_of_removed {α : Type} {program program' : S3Program α} {fault : Fault}
    {b b' : Bucket} {key : String}
    (h : program.step bucketService fault b = some (program', b'))
    (hthere : b.get? key ≠ none) (hgone : b'.get? key = none) :
    program.nextOp? = some (.deleteObject key) ∧ fault ≠ .refused := by
  cases program with
  | done value => cases h
  | call op next =>
      obtain ⟨-, rfl⟩ := Prod.mk.inj (Option.some.inj h)
      have hfault : fault ≠ .refused := by
        intro hrefused
        subst hrefused
        exact hthere hgone
      rcases bucketService_cases fault b op with ⟨e, hanswer⟩ | ⟨t, result, heffect, hanswer⟩
      · rw [hanswer] at hgone
        exact absurd hgone hthere
      · have hbucket : (bucketService.answer fault b op).1 = t := by
          rcases hanswer with hanswer | ⟨e, hanswer⟩
          · rw [hanswer]
          · rw [hanswer]
        rw [hbucket] at hgone
        rcases Bucket.effect_present heffect hthere with hkept | rfl
        · exact absurd hgone hkept
        · exact ⟨rfl, hfault⟩

namespace System

/-! ## What is listed, and what is needed -/

/-- A shard that a stored manifest or a commit in flight lists, or that is
remembered for the next commit. -/
inductive Lists (s : System) : ManifestShard → Prop
  | stored {runId checkpointId : String} {manifest : Manifest} {shard : ManifestShard}
      (h : s.bucket.get? (manifestKey runId checkpointId) = some (.manifest manifest))
      (hshard : shard ∈ manifest.shards) : Lists s shard
  | requested {commit : CommitRpc} {shard : ManifestShard} (h : commit ∈ s.commits)
      (hopen : commit.program.value? = none) (hshard : shard ∈ commit.request.shards) :
      Lists s shard
  | remembered {checkpointId : String} {info : ShardInfo}
      (h : info ∈ s.server.cp.shardsOf checkpointId) : Lists s (manifestShardOf info)

/-- An object that is listed, or written by an upload that is still awaited. -/
inductive Needs (sha256 : Bytes → String) (s : System) : String → Prop
  | listed {shard : ManifestShard} (h : s.Lists shard) : Needs sha256 s shard.storageKey
  | awaited {call : UploadCall} {rpc : Nat} {write : WriteRpc}
      (htask : .awaitWrite call rpc ∈ s.tasks) (hwrite : s.writes[rpc]? = some write) :
      Needs sha256 s (write.target sha256).final

/-- If an abort is about to delete an object, the object is not needed. -/
def SparesNeeded (sha256 : Bytes → String) (s : System) (event : Event × Nat) : Prop :=
  ∀ rpc fault abort key, event.1 = .abortCall rpc fault → fault ≠ .refused →
    s.aborts[rpc]? = some abort → abort.program.nextOp? = some (.deleteObject key) →
    s.bucket.get? key ≠ none → ¬ s.Needs sha256 key

/-- The object of a listed shard is there, with the listed size and digest. -/
def Backed (sha256 : Bytes → String) (b : Bucket) (shard : ManifestShard) : Prop :=
  ∃ data, b.get? shard.storageKey = some (.bytes data) ∧ data.length = shard.sizeBytes ∧
    sha256 data = shard.sha256

/-- Whatever is stored under the key of a manifest is a manifest, and all the
shards that it lists are backed. -/
def ManifestsBacked (sha256 : Bytes → String) (s : System) : Prop :=
  ∀ runId checkpointId body, s.bucket.get? (manifestKey runId checkpointId) = some body →
    ∃ manifest, body = .manifest manifest ∧
      ∀ shard ∈ manifest.shards, Backed sha256 s.bucket shard

/-- The body that an event delivers. -/
def payload? : Event → Option Bytes
  | .uploadBody _ body _ _ _ _ => some body
  | _ => none

/-- An entry that an upload of one of the given payloads leaves behind. -/
def OfUpload (sha256 : Bytes → String) (payloads : Bytes → Prop) (shard : ManifestShard) : Prop :=
  ∃ runId checkpointId shardId body, runId.toList.length = 16 ∧ checkpointId.toList.length = 16 ∧
    payloads body ∧
      shard.storageKey = contentAddressedKey runId checkpointId shardId (sha256 body) ∧
    shard.sizeBytes = body.length ∧ shard.sha256 = sha256 body

/-! ## The invariant -/

/-- Content-addressed keys hold what they say, uploads that are awaited will
find their objects, and every listed object is there. -/
structure Sound (sha256 : Bytes → String) (payloads : Bytes → Prop) (s : System) : Prop where
  linked : s.Linked
  contracted : s.Contracted sha256
  bodies : ∀ write ∈ s.writes, payloads write.call.body
  content : ∀ (runId checkpointId shardId : String) (body : Bytes) (found : ObjectBody),
    runId.toList.length = 16 → checkpointId.toList.length = 16 → payloads body →
    s.bucket.get? (contentAddressedKey runId checkpointId shardId (sha256 body)) = some found →
    found = .bytes body
  awaited : ∀ call rpc write, .awaitWrite call rpc ∈ s.tasks → s.writes[rpc]? = some write →
    write.Contract sha256 True s.bucket
  manifests : ∀ runId checkpointId body,
    s.bucket.get? (manifestKey runId checkpointId) = some body →
      ∃ manifest, body = .manifest manifest
  listed : ∀ shard, s.Lists shard →
    OfUpload sha256 payloads shard ∧ s.bucket.get? shard.storageKey ≠ none

section
variable {sha256 : Bytes → String} {payloads : Bytes → Prop} {s s' : System}
  {event : Event × Nat}

theorem sound_init (store : KVStore) (autoRecover hasSupervisor : Bool) :
    (init store autoRecover hasSupervisor).Sound sha256 payloads where
  linked := linked_init store autoRecover hasSupervisor
  contracted := contracted_init sha256 store autoRecover hasSupervisor
  bodies := fun _ h => by cases h
  content := fun _ _ _ _ _ _ _ _ h => by cases h
  awaited := fun _ _ _ h => by cases h
  manifests := fun _ _ _ h => by cases h
  listed := by
    intro shard h
    cases h with
    | stored h _ => cases h
    | requested h _ _ => cases h
    | remembered h => cases h

theorem Sound.manifestsBacked (hs : s.Sound sha256 payloads) : s.ManifestsBacked sha256 := by
  intro runId checkpointId body hbody
  obtain ⟨manifest, rfl⟩ := hs.manifests runId checkpointId body hbody
  refine ⟨manifest, rfl, ?_⟩
  intro shard hshard
  obtain ⟨hupload, hthere⟩ := hs.listed shard (.stored hbody hshard)
  obtain ⟨r, c, shardId, data, hr, hc, hpayload, hkey, hsize, hdigest⟩ := hupload
  obtain ⟨found, hfound⟩ := Option.ne_none_iff_exists'.mp hthere
  obtain rfl := hs.content r c shardId data found hr hc hpayload (hkey ▸ hfound)
  exact ⟨data, hfound, hsize.symm, hdigest.symm⟩

/-- The object of a write, if it is there, has the bytes of its body. -/
theorem Sound.content_of_write (hs : s.Sound sha256 payloads) {write : WriteRpc}
    (hwrite : write ∈ s.writes) {found : ObjectBody}
    (hfound : s.bucket.get? (write.target sha256).final = some found) :
    found = .bytes write.call.body := by
  have howned := hs.linked.writes write hwrite
  exact hs.content _ _ _ _ _ (hs.linked.id_length howned.run)
    (hs.linked.id_length howned.checkpoint) (hs.bodies write hwrite) hfound

/-- A needed object stays, unless an abort does not spare it. -/
theorem Sound.needed_present (hs : s.Sound sha256 payloads)
    (hguard : s.SparesNeeded sha256 event) (h : s.step sha256 event = some s')
    {runId checkpointId shardId digest : String}
    (hneeds : s.Needs sha256 (contentAddressedKey runId checkpointId shardId digest))
    (hthere : s.bucket.get? (contentAddressedKey runId checkpointId shardId digest) ≠ none) :
    s'.bucket.get? (contentAddressedKey runId checkpointId shardId digest) ≠ none := by
  cases hs.contracted.bounded.step_bucket h with
  | same hsame => rwa [hsame]
  | write rpc write _ hguar =>
      exact hguar.present (contentAddressedKey_ne_stagingKey write.uuid_valid) hthere
  | commit commit _ _ hguar => exact hguar.present hthere
  | abort rpc fault abort program hevent habort hcall hguar =>
      intro hgone
      obtain ⟨hdelete, hfault⟩ := nextOp?_of_removed hcall hthere hgone
      exact hguard rpc fault abort _ hevent hfault habort hdelete hthere hneeds

/-- Content-addressed keys go on holding what they say. -/
theorem Sound.content_step (hlength : ∀ data, 16 ≤ (sha256 data).toList.length)
    (hdistinct : ∀ p q, payloads p → payloads q →
      digestPrefix (sha256 p) = digestPrefix (sha256 q) → p = q)
    (hs : s.Sound sha256 payloads) (h : s.step sha256 event = some s')
    (runId checkpointId shardId : String) (body : Bytes) (found : ObjectBody)
    (hrun : runId.toList.length = 16) (hcheckpoint : checkpointId.toList.length = 16)
    (hbody : payloads body)
    (hfound : s'.bucket.get? (contentAddressedKey runId checkpointId shardId (sha256 body)) =
      some found) : found = .bytes body := by
  have hold := hs.content runId checkpointId shardId body found hrun hcheckpoint hbody
  cases hs.contracted.bounded.step_bucket h with
  | same hsame => exact hold (hsame ▸ hfound)
  | commit commit _ _ hguar =>
      exact hold (by rw [← hguar.others _ contentAddressedKey_ne_manifestKey, hfound])
  | abort _ _ _ _ _ _ _ hguar =>
      rcases hguar.objects (contentAddressedKey runId checkpointId shardId (sha256 body)) with
        hsame | ⟨hgone, _⟩
      · exact hold (by rw [← hsame, hfound])
      · rw [hgone] at hfound
        cases hfound
  | write rpc write hwrite hguar =>
      have hmem := List.mem_of_getElem? hwrite
      by_cases hfinal : contentAddressedKey runId checkpointId shardId (sha256 body) =
          (write.target sha256).final
      · rcases hguar.final with hsame | hbytes
        · exact hold (by rw [hfinal, ← hsame, ← hfinal, hfound])
        · -- the key names the digest, and the digest names the payload
          have howned := hs.linked.writes write hmem
          have hdigests := digestPrefix_of_contentAddressedKey
            (hrun.trans (hs.linked.id_length howned.run).symm)
            (hcheckpoint.trans (hs.linked.id_length howned.checkpoint).symm)
            (hlength _) (hlength _) hfinal
          have hsame := hdistinct body write.call.body hbody (hs.bodies write hmem) hdigests
          rw [hfinal, hbytes] at hfound
          rw [hsame]
          exact (Option.some.inj hfound).symm
      · apply hold
        rw [← hguar.others _ (contentAddressedKey_ne_stagingKey write.uuid_valid) hfinal
          contentAddressedKey_ne_sidecarKey, hfound]

/-- An upload that is awaited after a step was awaited before, or has just
started. -/
theorem awaitWrite_before_step (h : s.step sha256 event = some s') {call : UploadCall} {rpc : Nat}
    (htask : .awaitWrite call rpc ∈ s'.tasks) (hrpc : rpc < s.writes.length) :
    .awaitWrite call rpc ∈ s.tasks := by
  cases task_origin h htask with
  | before _ hold => exact hold
  | idle _ hidle => cases hidle
  | awaitWrite _ _ _ _ => exact absurd hrpc (Nat.lt_irrefl _)

/-- What is listed after a step was listed before, or is an upload that the
step acknowledges. -/
theorem Sound.lists_step (hs : s.Sound sha256 payloads) (h : s.step sha256 event = some s')
    {shard : ManifestShard} (hlists : s'.Lists shard) :
    s.Lists shard ∨ ∃ call result, s.uploadAnswer event.1 = some (call, .ok result) ∧
      shard = manifestShardOf (shardInfoOf call result) := by
  cases hlists with
  | @stored runId checkpointId manifest _ hmanifest hshard =>
      left
      rcases (hs.contracted.bounded.step_bucket h).manifest_origin hmanifest with hold | hwritten
      · exact .stored hold hshard
      · -- the manifest has just been written: it lists what the commit asked for
        obtain ⟨commit, hcommit, hopen, _, hnew⟩ := hwritten
        injection hnew with hnew
        subst hnew
        exact .requested hcommit hopen hshard
  | requested hmem hopen hshard =>
      left
      cases commit_origin h hmem with
      | before _ hold => exact .requested hold hopen hshard
      | called _ _ _ hold hcall => exact .requested hold (Program.value?_of_step hcall) hshard
      | begun runId call request hbegin hrequest =>
          rw [CommitCall.request_eq_ok hrequest] at hshard
          obtain ⟨info, hinfo, rfl⟩ := List.mem_map.mp hshard
          obtain ⟨_, active, _, _, _, rfl⟩ := commitRunBegin_eq_ok.mp hbegin
          exact .remembered hinfo
  | remembered hmem =>
      rcases remembered_origin hs.linked.recorded h hmem with
        hold | ⟨call, result, hanswer, _, rfl⟩
      · exact Or.inl (.remembered hold)
      · exact Or.inr ⟨call, result, hanswer, rfl⟩

/-- An upload that is acknowledged has left its object behind. -/
theorem Sound.acknowledged (hs : s.Sound sha256 payloads) {event : Event} {call : UploadCall}
    {result : WriteShardResult} (hanswer : s.uploadAnswer event = some (call, .ok result)) :
    OfUpload sha256 payloads (manifestShardOf (shardInfoOf call result)) ∧
    s.Needs sha256 (manifestShardOf (shardInfoOf call result)).storageKey ∧
    s.bucket.get? (manifestShardOf (shardInfoOf call result)).storageKey ≠ none := by
  obtain ⟨rpc, write, response, htask, hwrite, rfl, hdone, rfl⟩ := hs.linked.acknowledged hanswer
  have hmem := List.mem_of_getElem? hwrite
  have hcontract := hs.awaited write.call rpc write htask hwrite
  unfold WriteRpc.Contract at hcontract
  rw [hdone] at hcontract
  obtain ⟨rfl, hwritten⟩ := hcontract response rfl
  have howned := hs.linked.writes write hmem
  refine ⟨?_, .awaited htask hwrite, ?_⟩
  · exact ⟨_, _, _, write.call.body, hs.linked.id_length howned.run,
      hs.linked.id_length howned.checkpoint, hs.bodies write hmem, rfl, rfl, rfl⟩
  · have hthere := hwritten.final trivial
    show s.bucket.get? (write.target sha256).final ≠ none
    rw [hthere]
    simp

/-- Every listed object is there after the step. -/
theorem Sound.listed_step (hs : s.Sound sha256 payloads) (hguard : s.SparesNeeded sha256 event)
    (h : s.step sha256 event = some s') (shard : ManifestShard) (hlists : s'.Lists shard) :
    OfUpload sha256 payloads shard ∧ s'.bucket.get? shard.storageKey ≠ none := by
  have hkept : OfUpload sha256 payloads shard → s.Needs sha256 shard.storageKey →
      s.bucket.get? shard.storageKey ≠ none → s'.bucket.get? shard.storageKey ≠ none := by
    intro hupload hneeds hthere
    obtain ⟨_, _, _, _, _, _, _, hkey, _⟩ := hupload
    rw [hkey] at hneeds hthere ⊢
    exact hs.needed_present hguard h hneeds hthere
  rcases hs.lists_step h hlists with hold | ⟨call, result, hanswer, rfl⟩
  · obtain ⟨hupload, hthere⟩ := hs.listed shard hold
    exact ⟨hupload, hkept hupload (.listed hold) hthere⟩
  · obtain ⟨hupload, hneeds, hthere⟩ := hs.acknowledged hanswer
    exact ⟨hupload, hkept hupload hneeds hthere⟩

/-- Only commits write under the keys of manifests. -/
theorem Sound.manifests_step (hs : s.Sound sha256 payloads) (h : s.step sha256 event = some s')
    (runId checkpointId : String) (body : ObjectBody)
    (hbody : s'.bucket.get? (manifestKey runId checkpointId) = some body) :
    ∃ manifest, body = .manifest manifest := by
  rcases (hs.contracted.bounded.step_bucket h).manifest_origin hbody with hold | hwritten
  · exact hs.manifests runId checkpointId body hold
  · obtain ⟨commit, _, _, _, hmanifest⟩ := hwritten
    exact ⟨_, hmanifest⟩

theorem Sound.step (hlength : ∀ data, 16 ≤ (sha256 data).toList.length)
    (hdistinct : ∀ p q, payloads p → payloads q →
      digestPrefix (sha256 p) = digestPrefix (sha256 q) → p = q)
    (hs : s.Sound sha256 payloads) (hguard : s.SparesNeeded sha256 event)
    (hpayload : ∀ body ∈ payload? event.1, payloads body)
    (h : s.step sha256 event = some s') : s'.Sound sha256 payloads where
  linked := hs.linked.step h
  contracted := contracted_step hs.contracted h
  bodies := by
    intro write hwrite
    rcases writeCall_origin h hwrite with ⟨old, hold, hcall⟩ | ⟨_, _, _, _, _, _, hevent⟩
    · exact hcall ▸ hs.bodies old hold
    · exact hpayload write.call.body (by rw [hevent]; rfl)
  content := hs.content_step hlength hdistinct h
  awaited := by
    intro call rpc write htask hwrite
    have hcontract : ∀ i write, (fun i => ∃ call, Task.awaitWrite call i ∈ s.tasks) i →
        s.writes[i]? = some write → write.Contract sha256 True s.bucket := by
      intro i write hawaited hwrite
      obtain ⟨call, htask⟩ := hawaited
      exact hs.awaited call i write htask hwrite
    refine hs.contracted.bounded.contract_step h hcontract ?_ ?_ ?_ rpc write ?_ hwrite
    · intro _ i write hwrite found hfound
      exact hs.content_of_write (List.mem_of_getElem? hwrite) hfound
    · intro _ i write hwrite found hfound
      have hmem := List.mem_of_getElem? hwrite
      have howned := hs.linked.writes write hmem
      exact hs.content_step hlength hdistinct h _ _ _ _ _ (hs.linked.id_length howned.run)
        (hs.linked.id_length howned.checkpoint) (hs.bodies write hmem) hfound
    · intro _ i write hawaited hwrite hthere
      obtain ⟨call, htask⟩ := hawaited
      exact hs.needed_present hguard h (.awaited htask hwrite) hthere
    · exact fun hrpc => ⟨call, awaitWrite_before_step h htask hrpc⟩
  manifests := hs.manifests_step h
  listed := hs.listed_step hguard h

end

/-- **No manifest dangles** in a run whose aborts spare what is needed, as long
as the digest prefixes of its payloads differ. -/
theorem manifests_backed (sha256 : Bytes → String)
    (hlength : ∀ data, 16 ≤ (sha256 data).toList.length)
    (store : KVStore) (autoRecover hasSupervisor : Bool) (events : List (Event × Nat))
    (hdistinct : ∀ p ∈ events.filterMap (fun event => payload? event.1),
      ∀ q ∈ events.filterMap (fun event => payload? event.1),
        digestPrefix (sha256 p) = digestPrefix (sha256 q) → p = q)
    (hguard : Guarded (step sha256) (SparesNeeded sha256)
      (init store autoRecover hasSupervisor) events) :
    Throughout (step sha256) (ManifestsBacked sha256) (init store autoRecover hasSupervisor)
      events := by
  let payloads (body : Bytes) : Prop := body ∈ events.filterMap fun event => payload? event.1
  have hpayloads : ∀ event ∈ events, ∀ body ∈ payload? event.1, payloads body :=
    fun event hevent body hbody => List.mem_filterMap.mpr ⟨event, hevent, hbody⟩
  have hstart : (init store autoRecover hasSupervisor).Sound sha256 payloads :=
    sound_init store autoRecover hasSupervisor
  refine throughout_of_guarded (step sha256) ?_ (fun _ hs => Sound.manifestsBacked hs) hstart
    (guarded_and_forall (step sha256) hguard hpayloads)
  exact fun s event s' hs hboth h =>
    Sound.step hlength (fun p q hp hq => hdistinct p hp q hq) hs hboth.1 hboth.2 h

/-! ## Which objects are needed can be computed -/

/-- The keys of the objects that are needed. -/
def neededKeys (sha256 : Bytes → String) (s : System) : List String :=
  let stored := s.bucket.objects.rows.flatMap fun object =>
    match object.body with
    | .manifest manifest => manifest.shards
    | .bytes _ | .text _ => []
  let requested := (s.commits.filter fun commit => commit.program.value?.isNone).flatMap
    fun commit => commit.request.shards
  let remembered := s.server.issued.flatMap fun id => (s.server.cp.shardsOf id).map manifestShardOf
  let awaited := s.tasks.filterMap fun task =>
    match task with
    | .awaitWrite _ rpc => (s.writes[rpc]?).map fun write => (write.target sha256).final
    | _ => none
  (stored ++ requested ++ remembered).map (·.storageKey) ++ awaited

/-- Every object that is needed is among them. -/
theorem Linked.mem_neededKeys {sha256 : Bytes → String} {s : System} (hs : s.Linked)
    {key : String} (h : s.Needs sha256 key) : key ∈ s.neededKeys sha256 := by
  simp only [neededKeys, List.mem_append]
  cases h with
  | listed hlists =>
      refine Or.inl (List.mem_map_of_mem ?_)
      simp only [List.mem_append]
      cases hlists with
      | stored hmanifest hshard =>
          obtain ⟨object, hfind, hbody⟩ := Option.map_eq_some_iff.mp hmanifest
          refine Or.inl (Or.inl (List.mem_flatMap.mpr
            ⟨object, s.bucket.objects.mem_of_find hfind, ?_⟩))
          rw [hbody]
          exact hshard
      | requested hmem hopen hshard =>
          refine Or.inl (Or.inr (List.mem_flatMap.mpr ⟨_, List.mem_filter.mpr ⟨hmem, ?_⟩, hshard⟩))
          rw [hopen]
          rfl
      | @remembered checkpointId info hmem =>
          refine Or.inr (List.mem_flatMap.mpr ⟨checkpointId, ?_, List.mem_map_of_mem hmem⟩)
          cases hshards : s.server.cp.checkpointShards checkpointId with
          | none =>
              rw [ControlPlane.shardsOf, hshards] at hmem
              cases hmem
          | some shards => exact hs.shards checkpointId shards hshards
  | awaited htask hwrite =>
      refine Or.inr (List.mem_filterMap.mpr ⟨_, htask, ?_⟩)
      dsimp only
      rw [hwrite]
      rfl

/-- Whether a call of an abort is about to delete none of them. -/
def spares (sha256 : Bytes → String) (s : System) (event : Event × Nat) : Bool :=
  match event.1 with
  | .abortCall rpc _ =>
      match (s.aborts[rpc]?).bind fun abort => abort.program.nextOp? with
      | some (.deleteObject key) => decide (key ∉ s.neededKeys sha256)
      | _ => true
  | _ => true

theorem Linked.sparesNeeded {sha256 : Bytes → String} {s : System} (hs : s.Linked)
    {event : Event × Nat} (h : s.spares sha256 event = true) : s.SparesNeeded sha256 event := by
  intro rpc fault abort key hevent _ habort hdelete _ hneeds
  simp only [spares, hevent, habort, Option.bind_some, hdelete, decide_eq_true_eq] at h
  exact h (hs.mem_neededKeys hneeds)

theorem guarded_of_spares {sha256 : Bytes → String} {store : KVStore}
    {autoRecover hasSupervisor : Bool} {events : List (Event × Nat)}
    (h : Guarded (step sha256) (fun s event => s.spares sha256 event = true)
      (init store autoRecover hasSupervisor) events) :
    Guarded (step sha256) (SparesNeeded sha256) (init store autoRecover hasSupervisor) events :=
  guarded_mono_of_invariant (step sha256) (fun _ _ _ hs hstep => hs.step hstep)
    (fun _ _ hs hspares => hs.sparesNeeded hspares) (linked_init store autoRecover hasSupervisor) h

/-! ## A commit whose answer is lost -/

/-- The shards of a manifest whose objects are gone. -/
def missingShards (s : System) (runId checkpointId : String) : Option (List String) :=
  match s.bucket.get? (manifestKey runId checkpointId) with
  | some (.manifest manifest) =>
      some ((manifest.shards.filter fun shard =>
        (s.bucket.get? shard.storageKey).isNone).map (·.shardId))
  | _ => none

/-- A backed manifest misses no shard. -/
theorem ManifestsBacked.missingShards {sha256 : Bytes → String} {s : System}
    (h : s.ManifestsBacked sha256) {runId checkpointId : String} {missing : List String}
    (hmissing : s.missingShards runId checkpointId = some missing) : missing = [] := by
  unfold System.missingShards at hmissing
  split at hmissing
  · next manifest hmanifest =>
    obtain rfl := Option.some.inj hmissing
    obtain ⟨stored, hstored, hbacked⟩ := h runId checkpointId _ hmanifest
    injection hstored with hstored
    subst hstored
    rw [List.map_eq_nil_iff, List.filter_eq_nil_iff]
    intro shard hshard
    obtain ⟨data, hdata, _⟩ := hbacked shard hshard
    simp [hdata]
  · cases hmissing

/-- A run without aborts spares everything. -/
theorem sparesNeeded_of_no_abort {sha256 : Bytes → String} (s : System) {event : Event × Nat}
    (h : ∀ rpc fault, event.1 ≠ .abortCall rpc fault) : s.SparesNeeded sha256 event :=
  fun rpc fault _ _ hevent => absurd hevent (h rpc fault)

/-- Whether an event is a call of an abort. -/
def isAbortCall : Event → Bool
  | .abortCall _ _ => true
  | _ => false

theorem guarded_of_no_abort {sha256 : Bytes → String} {s : System} {events : List (Event × Nat)}
    (h : ∀ event ∈ events, isAbortCall event.1 = false) :
    Guarded (step sha256) (SparesNeeded sha256) s events := by
  apply guarded_mono (step sha256) _ (guarded_of_forall (step sha256) s h)
  intro t event hno
  apply sparesNeeded_of_no_abort
  intro rpc fault hevent
  rw [hevent] at hno
  cases hno

theorem length_digestOfBody (body : Bytes) : 16 ≤ (World.digestOfBody body).toList.length := by
  unfold World.digestOfBody
  split <;> decide

/-- Two shards are uploaded and committed. -/
def uploadTwoThenCommit : List (Event × Nat) :=
  openEvents ++ writeEvents 0 0 "rank-0" [97] "123e4567-e89b-42d3-a456-426614174000" ++
    [(.uploadReply 0, 5)] ++
    writeEvents 1 1 "rank-1" [98] "123e4567-e89b-42d3-a456-426614174001" ++
    [(.uploadReply 1, 5), (.commitBegin "00000000000000a1", 7)] ++ commitEvents 2 0

/-- A commit stores its manifest, its answer is lost, and the abort that
follows deletes the sidecar and the shard. -/
def commitThenAbort : List (Event × Nat) :=
  openEvents ++ writeEvents 0 0 "rank-0" [97] "123e4567-e89b-42d3-a456-426614174000" ++
    [(.uploadReply 0, 5), (.commitBegin "00000000000000a1", 7)] ++
    List.replicate 2 (.commitCall 0 .none, 8) ++
    [(.commitRaise 1 "Deadline Exceeded", 9)] ++ List.replicate 3 (.abortCall 0 .none, 10)

/-- After the commit an upload of the next checkpoint is lost, and the abort deletes its
sidecar and its shard. -/
def commitThenAbortNext : List (Event × Nat) :=
  uploadTwoThenCommit ++
    [(.request (.checkpoint "00000000000000a1" (some 20) "00000000000000c2"), 10),
      (.uploadBegin "00000000000000a1" "00000000000000c2" "rank-0", 11),
      (.uploadBody 3 [97] .absent "123e4567-e89b-42d3-a456-426614174002" 0 64, 11)] ++
    List.replicate 7 (.writeCall 2 .none, 11) ++ [(.uploadRaise 3 "Deadline Exceeded", 12)] ++
    List.replicate 3 (.abortCall 0 .none, 13)

/-- Both shards of the committed checkpoint are there, before and after an abort that
deletes the objects of the next one. -/
theorem manifest_beside_abort_backed :
    Throughout (step World.digestOfBody) (ManifestsBacked World.digestOfBody)
      (init .inMemoryKVStore true true) commitThenAbortNext ∧
    ((run (step World.digestOfBody) (init .inMemoryKVStore true true) commitThenAbortNext).map
      fun s => (s.missingShards "00000000000000a1" "00000000000000c1", s.bucket.objects.rows.length,
        (s.neededKeys World.digestOfBody).length)) = some (some [], 5, 2) := by
  have hfacts : Guarded (step World.digestOfBody)
        (fun s event => s.spares World.digestOfBody event = true)
        (init .inMemoryKVStore true true) commitThenAbortNext ∧
      (∀ p ∈ commitThenAbortNext.filterMap (fun event => payload? event.1),
        ∀ q ∈ commitThenAbortNext.filterMap (fun event => payload? event.1),
          digestPrefix (World.digestOfBody p) = digestPrefix (World.digestOfBody q) → p = q) ∧
      ((run (step World.digestOfBody) (init .inMemoryKVStore true true) commitThenAbortNext).map
        fun s => (s.missingShards "00000000000000a1" "00000000000000c1",
          s.bucket.objects.rows.length, (s.neededKeys World.digestOfBody).length)) =
        some (some [], 5, 2) := by
    decide +kernel
  obtain ⟨hspares, hdistinct, hmissing⟩ := hfacts
  exact ⟨manifests_backed World.digestOfBody length_digestOfBody .inMemoryKVStore true true
    commitThenAbortNext hdistinct (guarded_of_spares hspares), hmissing⟩

/-- The abort after a lost answer leaves a manifest without its shard. -/
theorem abort_after_lost_answer_dangles :
    ¬ Throughout (step World.digestOfBody) (ManifestsBacked World.digestOfBody)
      (init .inMemoryKVStore true true) commitThenAbort := by
  intro h
  have hmissing : ((run (step World.digestOfBody) (init .inMemoryKVStore true true)
      commitThenAbort).bind fun s => s.missingShards "00000000000000a1" "00000000000000c1") =
      some ["rank-0"] := by decide +kernel
  obtain ⟨last, hlast, hshards⟩ := Option.bind_eq_some_iff.mp hmissing
  have hnone := (h.at_end (step World.digestOfBody) hlast).missingShards hshards
  cases hnone

end System

end CheckpointRuntime
