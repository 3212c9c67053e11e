import CheckpointRuntime.ManifestBacked
import CheckpointRuntime.RetentionPass
import CheckpointRuntime.ShardPresence

/-!
# What becomes of the shards

Whatever a manifest, a commit in flight or the control plane remembers of a shard,
its object is there unless a retention pass has removed it (`Founded`): an upload
is acknowledged when its object is in place, a commit asks for what is remembered,
and only a manifest that a commit has asked for is stored.
-/

namespace CheckpointRuntime

open Coordinator ControlPlane CallProgram StableListing PartialRun

/-! ## A commit on its way -/

/-- What is left of a commit: all of it, its put, or its answer. -/
inductive CommitRpc.Stage (commit : CommitRpc) : Prop
  | probing (h : commit.program = commitCheckpoint commit.request commit.startedAt)
  | putting (next : S3Call.Reply (.putObject (manifestKey commit.request.runId
        commit.request.checkpointId) (.manifest (commit.request.manifest commit.startedAt))) →
      S3Program CommitResponse)
      (h : commit.program = .call (.putObject (manifestKey commit.request.runId
        commit.request.checkpointId)
          (.manifest (commit.request.manifest commit.startedAt))) next)
      (hnext : ∀ reply, ∃ response, next reply = .done response ∧
        (response.success = true → ∃ result, reply = .ok result))
  | answered (response : CommitResponse) (h : commit.program = .done response)

/-- A call of a commit that stores its manifest. -/
structure CommitRpc.Puts (commit : CommitRpc) (fault : Fault) (b b' : Bucket) : Prop where
  op : commit.program.nextOp? = some (.putObject (manifestKey commit.request.runId
    commit.request.checkpointId) (.manifest (commit.request.manifest commit.startedAt)))
  fault : fault ≠ .refused
  stored : b' = b.store (manifestKey commit.request.runId commit.request.checkpointId)
    (.manifest (commit.request.manifest commit.startedAt))

/-- A call of a commit changes nothing or stores its manifest, and a commit that
succeeds leaves a manifest behind. -/
theorem CommitRpc.Stage.step {commit : CommitRpc} (hs : commit.Stage) {fault : Fault}
    {b b' : Bucket} {program : S3Program CommitResponse}
    (h : commit.program.step bucketService fault b = some (program, b')) :
    Stage { commit with program := program } ∧ (b' = b ∨ commit.Puts fault b b') ∧
      ∀ response, program.value? = some response → response.success = true →
        b'.get? (manifestKey commit.request.runId commit.request.checkpointId) ≠ none := by
  cases hs with
  | answered response hdone =>
      rw [hdone] at h
      cases h
  | probing hstart =>
      rw [hstart, commitCheckpoint_eq] at h
      obtain ⟨rfl, rfl⟩ := Prod.mk.inj (Option.some.inj h)
      rcases answer_headObject fault b
          (manifestKey commit.request.runId commit.request.checkpointId) with
        ⟨hthere, _, hanswer⟩ | ⟨_, e, hanswer⟩
      · rw [hanswer]
        exact ⟨.answered _ rfl, Or.inl rfl, fun _ _ _ => hthere⟩
      · rw [hanswer]
        refine ⟨.putting _ rfl ?_, Or.inl rfl, fun _ hvalue => by cases hvalue⟩
        intro reply
        cases reply with
        | ok result => exact ⟨_, rfl, fun _ => ⟨result, rfl⟩⟩
        | error e => exact ⟨_, rfl, fun hsuccess => by cases hsuccess⟩
  | putting next hput hnext =>
      rw [hput] at h
      obtain ⟨rfl, rfl⟩ := Prod.mk.inj (Option.some.inj h)
      obtain ⟨response, hresponse, hsuccess⟩ := hnext (bucketService.answer fault b _).2
      refine ⟨.answered response hresponse, ?_, ?_⟩
      · cases fault with
        | refused => exact Or.inl rfl
        | none | lost => exact Or.inr ⟨by rw [hput]; rfl, by decide, rfl⟩
      · intro other hother hok
        rw [hresponse] at hother
        obtain rfl := Option.some.inj hother
        obtain ⟨result, hreply⟩ := hsuccess hok
        cases fault with
        | refused | lost => cases hreply
        | none =>
            show Bucket.get? (Bucket.store _ _ _) _ ≠ none
            rw [Bucket.get?_store, if_pos rfl]
            exact Option.some_ne_none _

/-- A commit that puts its manifest changes nothing else. -/
theorem CommitRpc.Puts.guar {commit : CommitRpc} {fault : Fault} {b b' : Bucket}
    (h : commit.Puts fault b b') : CommitGuar (commit.request.manifest commit.startedAt) b b' := by
  rw [h.stored]
  refine ⟨rfl, Or.inr ?_, ?_⟩
  · rw [Bucket.get?_store]
    exact if_pos rfl
  · intro key hkey
    rw [Bucket.get?_store]
    exact if_neg hkey

/-! ## Keys that only a pass removes -/

/-- The key of a shard of a checkpoint. -/
def ShardOf (runId checkpointId key : String) : Prop :=
  ∃ shardId digest, key = contentAddressedKey runId checkpointId shardId digest

/-- The key of a manifest or of a shard. -/
def Durable (key : String) : Prop :=
  ∃ runId checkpointId, key = manifestKey runId checkpointId ∨ ShardOf runId checkpointId key

/-- A key of a shard is one of those that a checkpoint keeps. -/
theorem ShardOf.durable {runId checkpointId key : String} (h : ShardOf runId checkpointId key) :
    Durable key := ⟨runId, checkpointId, Or.inr h⟩

/-- A shard is listed under the prefix of its manifest. -/
theorem ShardOf.prefixOf {runId checkpointId key : String} (h : ShardOf runId checkpointId key)
    (hrun : '/' ∉ runId.toList) (hcheckpoint : '/' ∉ checkpointId.toList) :
    prefixOf key = some (runId, checkpointId) := by
  obtain ⟨shardId, digest, rfl⟩ := h
  refine prefixOf_eq_some_iff.mpr ⟨hrun, hcheckpoint,
    "sha256-" ++ digestPrefix digest ++ "-" ++ shardId ++ ".bin", ?_⟩
  rw [contentAddressedKey, ← String.toList_inj]
  simp

/-- The prefix of a manifest key is the run and the checkpoint. -/
theorem prefixOf_manifestKey {runId checkpointId : String} (hrun : '/' ∉ runId.toList)
    (hcheckpoint : '/' ∉ checkpointId.toList) :
    prefixOf (manifestKey runId checkpointId) = some (runId, checkpointId) := by
  refine prefixOf_eq_some_iff.mpr ⟨hrun, hcheckpoint, "_manifest.json", ?_⟩
  rw [manifestKey, ← String.toList_inj]
  simp

namespace System

/-- Uploads and commits leave manifests and shards where they are. -/
theorem Bounded.durable_step {sha256 : Bytes → String} {s s' : System} {event : Event × Nat}
    (hs : s.Bounded sha256) (h : s.step sha256 event = some s')
    (hevent : ∀ rpc fault, event.1 ≠ .abortCall rpc fault) {key : String} (hkey : Durable key)
    (hthere : s.bucket.get? key ≠ none) : s'.bucket.get? key ≠ none := by
  cases hs.step_bucket h with
  | same hsame => rwa [hsame]
  | write rpc write _ hguar =>
      refine hguar.present ?_ hthere
      obtain ⟨runId, checkpointId, rfl | ⟨shardId, digest, rfl⟩⟩ := hkey
      · exact manifestKey_ne_stagingKey write.uuid_valid
      · exact contentAddressedKey_ne_stagingKey write.uuid_valid
  | commit commit _ _ hguar => exact hguar.present hthere
  | abort rpc fault _ _ habort _ _ _ => exact absurd habort (hevent rpc fault)

/-! ## What is known of the objects -/

/-- The object is there, or a pass has removed it. -/
def Accounted (s : System) (removed : List String) (key : String) : Prop :=
  s.bucket.get? key ≠ none ∨ key ∈ removed

/-- All RPCs behave, and every shard that a manifest, a commit or the memory of the
control plane mentions is there unless a pass has removed it. -/
structure Founded (sha256 : Bytes → String) (removed : List String) (s : System) : Prop where
  linked : s.Linked
  uuids : ∀ (i j : Nat) (write other : WriteRpc), s.writes[i]? = some write →
    s.writes[j]? = some other → write.uuid = other.uuid → i = j
  writes : ∀ (i : Nat) (write : WriteRpc), s.writes[i]? = some write →
    write.Contract sha256 False s.bucket
  aborts : ∀ abort ∈ s.aborts, abort.Contract s.bucket
  stages : ∀ commit ∈ s.commits, commit.Stage
  leaves : ∀ call rpc write, .awaitWrite call rpc ∈ s.tasks → s.writes[rpc]? = some write →
    (write.target sha256).final ∉ removed → write.Leaves sha256 s.bucket
  succeeded : ∀ commit ∈ s.commits, ∀ response, commit.program.value? = some response →
    response.success = true →
    s.Accounted removed (manifestKey commit.request.runId commit.request.checkpointId)
  listed : ∀ r c manifest, s.bucket.get? (manifestKey r c) = some (.manifest manifest) →
    ∃ runId checkpointId, manifestKey r c = manifestKey runId checkpointId ∧
      '/' ∉ runId.toList ∧ '/' ∉ checkpointId.toList ∧ ∀ shard ∈ manifest.shards,
        ShardOf runId checkpointId shard.storageKey ∧ s.Accounted removed shard.storageKey
  requested : ∀ commit ∈ s.commits, ∀ shard ∈ commit.request.shards,
    ShardOf commit.request.runId commit.request.checkpointId shard.storageKey ∧
      s.Accounted removed shard.storageKey
  remembered : ∀ checkpointId, ∀ info ∈ s.server.cp.shardsOf checkpointId, ∃ runId,
    s.Owned runId checkpointId ∧ ShardOf runId checkpointId info.storageKey ∧
      s.Accounted removed info.storageKey

section
variable {sha256 : Bytes → String} {removed : List String} {s s' : System}

/-- The contracts of the RPCs are among what is kept. -/
theorem Founded.bounded (hs : s.Founded sha256 removed) : s.Bounded sha256 where
  uuids := hs.uuids
  writes := hs.writes
  commits commit hmem fault program b hcall := by
    obtain ⟨_, hsame | hput, _⟩ := (hs.stages commit hmem).step hcall
    · rw [hsame]
      exact .refl _
    · exact hput.guar
  aborts abort hmem _ _ _ hcall := (Keeps.step (hs.aborts abort hmem) trivial hcall).1

/-- Everything holds of a system that has just started. -/
theorem founded_init (store : KVStore) (autoRecover hasSupervisor : Bool) :
    (init store autoRecover hasSupervisor).Founded sha256 removed where
  linked := linked_init store autoRecover hasSupervisor
  uuids := (contracted_init sha256 store autoRecover hasSupervisor).uuids
  writes := (contracted_init sha256 store autoRecover hasSupervisor).writes
  aborts := fun _ h => by cases h
  stages := fun _ h => by cases h
  leaves := fun _ _ _ h => by cases h
  succeeded := fun _ h => by cases h
  listed := fun _ _ _ h => by cases h
  requested := fun _ h => by cases h
  remembered := fun _ _ h => by cases h

/-! ## The store deletes objects -/

/-- What a checkpoint is owned by does not depend on the bucket. -/
theorem Owned.of_bucket {b : Bucket} {runId checkpointId : String}
    (h : s.Owned runId checkpointId) : Owned { s with bucket := b } runId checkpointId :=
  ⟨h.run, h.checkpoint, h.record⟩

/-- The pools are linked whatever the bucket has. -/
theorem Linked.of_bucket {b : Bucket} (h : s.Linked) : Linked { s with bucket := b } where
  recorded := h.recorded
  receiveBody runId checkpointId shardId hmem :=
    (h.receiveBody runId checkpointId shardId hmem).of_bucket
  awaitWrite := h.awaitWrite
  awaitCommit := h.awaitCommit
  writes write hmem := (h.writes write hmem).of_bucket
  commits commit hmem := (h.commits commit hmem).of_bucket
  shards := h.shards

/-- The keys of a batch that name an object are accounted for as removed. -/
theorem Accounted.removeAll {key : String} (h : s.Accounted removed key) (keys : List String) :
    Accounted { s with bucket := s.bucket.removeAll keys }
      (keys.filter (fun key => (s.bucket.get? key).isSome) ++ removed) key := by
  rcases h with hthere | hremoved
  · by_cases hmem : key ∈ keys
    · refine Or.inr (List.mem_append_left _ (List.mem_filter.mpr ⟨hmem, ?_⟩))
      exact Option.isSome_iff_ne_none.mpr hthere
    · apply Or.inl
      show (s.bucket.removeAll keys).get? key ≠ none
      rwa [Bucket.get?_removeAll, if_neg hmem]
  · exact Or.inr (List.mem_append_right _ hremoved)

/-- A writer that does not rely on objects to stay tolerates deletions. -/
theorem writerRely_removeAll (target : ShardTarget) (b : Bucket) (keys : List String) :
    WriterRely target False False b (b.removeAll keys) where
  uploads := fun _ => by rw [Bucket.uploads_removeAll]
  staging := by
    rw [Bucket.get?_removeAll]
    split
    · exact Or.inr rfl
    · exact Or.inl rfl
  content := False.elim
  present := False.elim
  sidecar := False.elim

/-- **Objects are removed**, and are accounted for as removed. -/
theorem Founded.removeAll (hs : s.Founded sha256 removed) (keys : List String) :
    Founded sha256 (keys.filter (fun key => (s.bucket.get? key).isSome) ++ removed)
      { s with bucket := s.bucket.removeAll keys } where
  linked := hs.linked.of_bucket
  uuids := hs.uuids
  writes i write hwrite := (hs.writes i write hwrite).of_rely (writerRely_removeAll _ _ _)
  aborts abort hmem := (hs.aborts abort hmem).of_any
  stages := hs.stages
  leaves call rpc write htask hwrite hfinal := by
    rw [List.mem_append, not_or, List.mem_filter] at hfinal
    refine (hs.leaves call rpc write htask hwrite hfinal.2).of_rely
      ⟨writerRely_removeAll _ _ _, ?_⟩
    intro hthere
    rw [Bucket.get?_removeAll, if_neg]
    · exact hthere
    · exact fun hmem => hfinal.1 ⟨hmem, Option.isSome_iff_ne_none.mpr hthere⟩
  succeeded commit hmem response hvalue hsuccess :=
    (hs.succeeded commit hmem response hvalue hsuccess).removeAll keys
  listed r c manifest hmanifest := by
    have hold : s.bucket.get? (manifestKey r c) = some (.manifest manifest) := by
      rw [show Bucket.get? _ _ = _ from Bucket.get?_removeAll s.bucket keys _] at hmanifest
      split at hmanifest
      · cases hmanifest
      · exact hmanifest
    obtain ⟨runId, checkpointId, hkey, hrun, hcheckpoint, hshards⟩ := hs.listed r c manifest hold
    refine ⟨runId, checkpointId, hkey, hrun, hcheckpoint, ?_⟩
    intro shard hshard
    obtain ⟨hof, haccounted⟩ := hshards shard hshard
    exact ⟨hof, haccounted.removeAll keys⟩
  requested commit hmem shard hshard := by
    obtain ⟨hof, haccounted⟩ := hs.requested commit hmem shard hshard
    exact ⟨hof, haccounted.removeAll keys⟩
  remembered checkpointId info hinfo := by
    obtain ⟨runId, howned, hof, haccounted⟩ := hs.remembered checkpointId info hinfo
    exact ⟨runId, howned.of_bucket, hof, haccounted.removeAll keys⟩

/-! ## Uploads and commits go on -/

section
variable {event : Event × Nat}

/-- What is accounted for stays so, unless an abort deletes it. -/
theorem Accounted.step (hb : s.Bounded sha256) (h : s.step sha256 event = some s')
    (hevent : ∀ rpc fault, event.1 ≠ .abortCall rpc fault) {key : String} (hkey : Durable key)
    (ha : s.Accounted removed key) : s'.Accounted removed key := by
  rcases ha with hthere | hremoved
  · exact Or.inl (hb.durable_step h hevent hkey hthere)
  · exact Or.inr hremoved

/-- A write keeps its target. -/
theorem Bounded.target_step (hb : s.Bounded sha256) (h : s.step sha256 event = some s') {rpc : Nat}
    {write old : WriteRpc} (hwrite : s'.writes[rpc]? = some write)
    (hold : s.writes[rpc]? = some old) : write.target sha256 = old.target sha256 := by
  cases hb.write_move h hwrite with
  | called moving fault program hmoving hcall =>
      obtain rfl := Option.some.inj (hmoving.symm.trans hold)
      rfl
  | undisturbed _ hsame _ => rw [Option.some.inj (hsame.symm.trans hold)]
  | started _ _ _ _ _ hi =>
      have hlt := (List.getElem?_eq_some_iff.mp hold).1
      omega

/-- What an upload that is acknowledged has left behind. -/
theorem Founded.acknowledged (hs : s.Founded sha256 removed) {event : Event} {call : UploadCall}
    {result : WriteShardResult} (hanswer : s.uploadAnswer event = some (call, .ok result)) :
    s.Owned call.runId call.checkpointId ∧
      ShardOf call.runId call.checkpointId (shardInfoOf call result).storageKey ∧
      s.Accounted removed (shardInfoOf call result).storageKey := by
  obtain ⟨rpc, write, response, htask, hwrite, rfl, hdone, rfl⟩ := hs.linked.acknowledged hanswer
  have hcontract := hs.writes rpc write hwrite
  unfold WriteRpc.Contract at hcontract
  rw [hdone] at hcontract
  obtain ⟨rfl, _⟩ := hcontract response rfl
  refine ⟨hs.linked.writes write (List.mem_of_getElem? hwrite), ⟨_, _, rfl⟩, ?_⟩
  by_cases hfinal : (write.target sha256).final ∈ removed
  · exact Or.inr hfinal
  · have hleaves := hs.leaves write.call rpc write htask hwrite hfinal
    unfold WriteRpc.Leaves at hleaves
    rw [hdone] at hleaves
    exact Or.inl (hleaves _ rfl)

/-- A commit stays at one of its stages. -/
theorem Founded.stages_step (hs : s.Founded sha256 removed) (h : s.step sha256 event = some s')
    (commit : CommitRpc) (hmem : commit ∈ s'.commits) : commit.Stage := by
  cases commit_origin h hmem with
  | before _ hold => exact hs.stages commit hold
  | called moving _ _ hold hcall => exact ((hs.stages moving hold).step hcall).1
  | begun runId call request hbegin hrequest => exact .probing rfl

/-- An upload that is awaited goes on leaving its object behind. -/
theorem Founded.leaves_step (hs : s.Founded sha256 removed) (h : s.step sha256 event = some s')
    (hevent : ∀ rpc fault, event.1 ≠ .abortCall rpc fault) (call : UploadCall) (rpc : Nat)
    (write : WriteRpc) (htask : .awaitWrite call rpc ∈ s'.tasks)
    (hwrite : s'.writes[rpc]? = some write) (hfinal : (write.target sha256).final ∉ removed) :
    write.Leaves sha256 s'.bucket := by
  have hold : ∀ i write, (fun i => ∃ call, Task.awaitWrite call i ∈ s.tasks ∧
      ∀ other, s.writes[i]? = some other → (other.target sha256).final ∉ removed) i →
      s.writes[i]? = some write → write.Leaves sha256 s.bucket := by
    intro i other hamong hother
    obtain ⟨call, hawaited, hkept⟩ := hamong
    exact hs.leaves call i other hawaited hother (hkept other hother)
  refine hs.bounded.leaves_step h hold ?_ rpc write ?_ hwrite
  · intro i other _ _ hthere
    have hfinal : Durable (other.target sha256).final := ⟨_, _, Or.inr ⟨_, _, rfl⟩⟩
    exact hs.bounded.durable_step h hevent hfinal hthere
  · intro hrpc
    refine ⟨call, awaitWrite_before_step h htask hrpc, ?_⟩
    intro other hother
    rw [← hs.bounded.target_step h hwrite hother]
    exact hfinal

/-- What a successful commit has verified stays accounted for. -/
theorem Founded.succeeded_step (hs : s.Founded sha256 removed) (h : s.step sha256 event = some s')
    (hevent : ∀ rpc fault, event.1 ≠ .abortCall rpc fault) (commit : CommitRpc)
    (hmem : commit ∈ s'.commits) (response : CommitResponse)
    (hvalue : commit.program.value? = some response) (hsuccess : response.success = true) :
    s'.Accounted removed (manifestKey commit.request.runId commit.request.checkpointId) := by
  cases commit_origin h hmem with
  | before _ hold =>
      exact (hs.succeeded commit hold response hvalue hsuccess).step hs.bounded h hevent
        ⟨_, _, Or.inl rfl⟩
  | called moving _ _ hold hcall =>
      exact Or.inl (((hs.stages moving hold).step hcall).2.2 response hvalue hsuccess)
  | begun runId call request hbegin hrequest =>
      -- it has not made a call yet
      rw [commitCheckpoint_eq] at hvalue
      cases hvalue

/-- The shards of a manifest, of a commit or in the memory stay accounted for. -/
theorem Founded.shard_step (hs : s.Founded sha256 removed) (h : s.step sha256 event = some s')
    (hevent : ∀ rpc fault, event.1 ≠ .abortCall rpc fault) {runId checkpointId key : String}
    (hshard : ShardOf runId checkpointId key ∧ s.Accounted removed key) :
    ShardOf runId checkpointId key ∧ s'.Accounted removed key :=
  ⟨hshard.1, hshard.2.step hs.bounded h hevent hshard.1.durable⟩

/-- A stored manifest lists shards that are accounted for. -/
theorem Founded.listed_step (hs : s.Founded sha256 removed) (h : s.step sha256 event = some s')
    (hevent : ∀ rpc fault, event.1 ≠ .abortCall rpc fault) (r c : String) (manifest : Manifest)
    (hmanifest : s'.bucket.get? (manifestKey r c) = some (.manifest manifest)) :
    ∃ runId checkpointId, manifestKey r c = manifestKey runId checkpointId ∧
      '/' ∉ runId.toList ∧ '/' ∉ checkpointId.toList ∧ ∀ shard ∈ manifest.shards,
        ShardOf runId checkpointId shard.storageKey ∧ s'.Accounted removed shard.storageKey := by
  rcases (hs.bounded.step_bucket h).manifest_origin hmanifest with hold | hwritten
  · obtain ⟨runId, checkpointId, hkey, hrun, hcheckpoint, hshards⟩ := hs.listed r c manifest hold
    exact ⟨runId, checkpointId, hkey, hrun, hcheckpoint,
      fun shard hshard => hs.shard_step h hevent (hshards shard hshard)⟩
  · obtain ⟨commit, hcommit, _, hkey, hnew⟩ := hwritten
    obtain rfl := ObjectBody.manifest.inj hnew
    have howned := hs.linked.commits commit hcommit
    have hslash : ∀ id ∈ s.server.issued, '/' ∉ id.toList := fun id hid =>
      slash_notMem_of_isHexId (hs.linked.recorded.issuedHex id hid)
    exact ⟨_, _, hkey, hslash _ howned.run, hslash _ howned.checkpoint,
      fun shard hshard => hs.shard_step h hevent (hs.requested commit hcommit shard hshard)⟩

/-- A commit asks for shards that are accounted for. -/
theorem Founded.requested_step (hs : s.Founded sha256 removed) (h : s.step sha256 event = some s')
    (hevent : ∀ rpc fault, event.1 ≠ .abortCall rpc fault) (commit : CommitRpc)
    (hmem : commit ∈ s'.commits) (shard : ManifestShard) (hshard : shard ∈ commit.request.shards) :
    ShardOf commit.request.runId commit.request.checkpointId shard.storageKey ∧
      s'.Accounted removed shard.storageKey := by
  apply hs.shard_step h hevent
  cases commit_origin h hmem with
  | before _ hold => exact hs.requested commit hold shard hshard
  | called moving _ _ hold _ => exact hs.requested moving hold shard hshard
  | begun runId call request hbegin hrequest =>
      rw [CommitCall.request_eq_ok hrequest] at hshard ⊢
      obtain ⟨info, hinfo, rfl⟩ := List.mem_map.mp hshard
      obtain ⟨_, active, hactive, _, _, rfl⟩ := commitRunBegin_eq_ok.mp hbegin
      obtain ⟨hrecord, hrun, _⟩ := activeCheckpoint_spec hactive
      obtain ⟨r, howned, hof⟩ := hs.remembered active.checkpointId info hinfo
      -- the record of the checkpoint names the run of its shards
      obtain rfl : r = runId := by rw [← hrun, howned.record active hrecord]
      exact hof

/-- The remembered shards are accounted for. -/
theorem Founded.remembered_step (hs : s.Founded sha256 removed)
    (h : s.step sha256 event = some s')
    (hevent : ∀ rpc fault, event.1 ≠ .abortCall rpc fault) (checkpointId : String)
    (info : ShardInfo) (hinfo : info ∈ s'.server.cp.shardsOf checkpointId) :
    ∃ runId, s'.Owned runId checkpointId ∧ ShardOf runId checkpointId info.storageKey ∧
      s'.Accounted removed info.storageKey := by
  have hstep : ∀ {runId : String}, (s.Owned runId checkpointId ∧
      ShardOf runId checkpointId info.storageKey ∧ s.Accounted removed info.storageKey) →
      ∃ runId, s'.Owned runId checkpointId ∧ ShardOf runId checkpointId info.storageKey ∧
        s'.Accounted removed info.storageKey := by
    intro runId hbefore
    exact ⟨runId, hbefore.1.step hs.linked.recorded h, hs.shard_step h hevent hbefore.2⟩
  rcases remembered_origin hs.linked.recorded h hinfo with
    hold | ⟨call, result, hanswer, rfl, rfl⟩
  · obtain ⟨runId, hbefore⟩ := hs.remembered checkpointId info hold
    exact hstep hbefore
  · exact hstep (hs.acknowledged hanswer)

/-- **One step** without a call of an abort keeps everything. -/
theorem Founded.step (hs : s.Founded sha256 removed) (h : s.step sha256 event = some s')
    (hevent : ∀ rpc fault, event.1 ≠ .abortCall rpc fault) : s'.Founded sha256 removed where
  linked := hs.linked.step h
  uuids := hs.bounded.uuids_step h
  writes := hs.bounded.writes_step h
  aborts := aborts_step hs.aborts h
  stages := hs.stages_step h
  leaves := hs.leaves_step h hevent
  succeeded := hs.succeeded_step h hevent
  listed := hs.listed_step h hevent
  requested := hs.requested_step h hevent
  remembered := hs.remembered_step h hevent

end

end

end System

end CheckpointRuntime
