import CheckpointRuntime.RpcContracts

/-!
# A shard that is written is there

The contract of a shard write says which bytes its object has, and asks that
nobody stores others.  Here is the part of it that needs less: as long as nobody
deletes the object, it is there once the write has succeeded, whatever its bytes.
-/

namespace CheckpointRuntime

open CallProgram ControlPlane

/-- Between two calls of a writer its open upload is left alone and its object
stays where it is. -/
def PresenceRely (target : ShardTarget) (b b' : Bucket) : Prop :=
  WriterRely target False False b b' ∧
    (b.get? target.final ≠ none → b'.get? target.final ≠ none)

theorem PresenceRely.trans {target : ShardTarget} {b b' b'' : Bucket}
    (h : PresenceRely target b b') (h' : PresenceRely target b' b'') :
    PresenceRely target b b'' := by
  obtain ⟨hrely, hthere⟩ := h
  obtain ⟨hrely', hthere'⟩ := h'
  refine ⟨⟨?_, ?_, False.elim, False.elim, False.elim⟩, fun h => hthere' (hthere h)⟩
  · exact fun uploadId => (hrely'.uploads uploadId).trans (hrely.uploads uploadId)
  · rcases hrely'.staging with hsame | hgone
    · rw [hsame]
      exact hrely.staging
    · exact Or.inr hgone

/-- A call that may change anything: what counts is the state after its effect. -/
theorem ClientKeeps.effect {rely : Bucket → Bucket → Prop} (op : S3Call)
    {good : op.Result → Bucket → Prop} {b : Bucket}
    (h : ∀ t, rely b t → ∀ t' result, t.effect op = .ok (t', result) → good result t') :
    ClientKeeps rely (fun _ _ => True) good (fun _ => True) (S3Client.await op) b :=
  ClientKeeps.await (fun _ _ => ⟨trivial, trivial⟩)
    (fun t ht t' result hrun => ⟨trivial, h t ht t' result hrun, trivial⟩)

section
variable {sha256 : Bytes → String} {runId checkpointId shardId uuid : String}
  {huuid : isUuid uuid = true} {b : Bucket}

/-- The object is there when the promotion goes on from its probe or its copy. -/
theorem promoteShard_leaves (bytes : Bytes) :
    let target := shardTarget sha256 runId checkpointId shardId uuid huuid bytes
    ClientKeeps (PresenceRely target) (fun _ _ => True)
      (fun (_ : WriteResult) t => t.get? target.final ≠ none) (fun _ => True)
      (promoteShard runId checkpointId shardId uuid (sha256 bytes) bytes.length) b := by
  intro target
  have hrest : ∀ t, t.get? target.final ≠ none →
      ClientKeeps (PresenceRely target) (fun _ _ => True)
        (fun (_ : WriteResult) t => t.get? target.final ≠ none) (fun _ => True)
        (do
          S3Client.deleteObject target.staging
          S3Client.putObject target.sidecar (.text target.checksum)
          return ⟨shardId, bytes.length, sha256 bytes, target.final⟩) t := by
    intro t hthere
    refine ClientKeeps.bind (ClientKeeps.effect (.deleteObject _) ?_)
    intro t1 ht1 t2 _ hrun
    obtain ⟨rfl, -⟩ := Prod.mk.inj (Except.ok.inj hrun)
    have hremoved : (t1.remove target.staging).get? target.final ≠ none := by
      rw [Bucket.get?_remove, if_neg target.staging_ne_final]
      exact ht1.2 hthere
    refine ClientKeeps.bind (ClientKeeps.effect (.putObject _ _) ?_)
    intro t3 ht3 t4 _ hrun
    obtain ⟨rfl, -⟩ := Prod.mk.inj (Except.ok.inj hrun)
    refine .pure ?_
    rw [Bucket.get?_store, if_neg target.final_ne_sidecar]
    exact ht3.2 hremoved
  refine ClientKeeps.bind (ClientKeeps.objectExists ?_ ?_)
  · intro t _
    refine ⟨trivial, ClientKeeps.bind (ClientKeeps.effect (.copyObject _ _) ?_)⟩
    intro t1 _ t2 _ hrun
    simp only [Bucket.effect] at hrun
    split at hrun
    · obtain ⟨rfl, -⟩ := Prod.mk.inj (Except.ok.inj hrun)
      apply hrest _
      show Bucket.get? (Bucket.store _ target.final _) target.final ≠ none
      rw [Bucket.get?_store, if_pos rfl]
      exact Option.some_ne_none _
    · cases hrun
  · exact fun t _ hpresent => hrest t hpresent

/-- A shard write that succeeds leaves its object. -/
theorem writeShardStream_leaves {data : List (Except String Bytes)} {bytes : Bytes}
    (hdata : payload data = bytes) :
    let target := shardTarget sha256 runId checkpointId shardId uuid huuid bytes
    ClientKeeps (PresenceRely target) (fun _ _ => True)
      (fun (_ : WriteResult) t => t.get? target.final ≠ none) (fun _ => True)
      (writeShardStream sha256 runId checkpointId shardId uuid data) b := by
  intro target
  unfold writeShardStream
  refine ClientKeeps.bind (ClientKeeps.effect (.createMultipartUpload _) ?_)
  intro t _ t' uploadId hrun
  simp only [Bucket.effect] at hrun
  obtain ⟨rfl, rfl⟩ := Prod.mk.inj (Except.ok.inj hrun)
  refine ClientKeeps.bind (ClientKeeps.cleaningUp ?_)
  have hopen : ({ t.setUpload target.staging t.nextUpload (some []) with
      nextUpload := t.nextUpload + 1 } : Bucket).uploads target.staging t.nextUpload = some [] := by
    show (t.setUpload target.staging t.nextUpload (some [])).uploads _ _ = _
    simp
  have hbytes : target.bytes = payload data := hdata.symm
  -- the bytes that were hashed name the object
  have hstream := @keeps_uploadStream target False False _ _ data hbytes hopen
  refine Keeps.weaken (fun _ _ h => h.1) (fun _ _ _ => trivial) ?_ hstream
  intro outcome t1 houtcome
  cases outcome with
  | ok hashed =>
      obtain rfl : hashed = bytes := houtcome.1
      exact promoteShard_leaves hashed
  | error message =>
      refine ClientKeeps.ignoring (ClientKeeps.effect (.abortMultipartUpload _ _) ?_)
      exact fun _ _ _ _ _ => trivial

end

/-- What a `WriteShard` in flight promises about its object alone. -/
def WriteRpc.Leaves (sha256 : Bytes → String) (write : WriteRpc) (b : Bucket) : Prop :=
  Keeps bucketService (PresenceRely (write.target sha256)) (fun _ _ => True)
    (fun reply t => ∀ response, reply = .ok response →
      t.get? (write.target sha256).final ≠ none) write.program b

theorem WriteRpc.leaves_start (sha256 : Bytes → String) (call : UploadCall) (uuid : String)
    (huuid : isUuid uuid = true) (depth maxDepth : Nat) (b : Bucket) :
    Leaves sha256
      { call := call, uuid := uuid, uuid_valid := huuid,
        program := writeShard sha256 depth maxDepth uuid (call.chunks.map .ok) } b := by
  refine Keeps.weaken (fun _ _ h => h) (fun _ _ h => h) ?_
    (keeps_writeShard_of_stream (fromCall_chunks call) (fun data hdata =>
      writeShardStream_leaves (hdata.trans (streamPayload_chunks call)))
      depth maxDepth)
  intro reply t hreply response hresponse
  obtain ⟨result, _, hthere⟩ := hreply response hresponse
  exact hthere

theorem WriteRpc.Leaves.of_rely {sha256 : Bytes → String} {write : WriteRpc} {b b' : Bucket}
    (h : write.Leaves sha256 b) (hrely : PresenceRely (write.target sha256) b b') :
    write.Leaves sha256 b' :=
  Keeps.of_rely (fun _ _ _ h12 h23 => h12.trans h23)
    (fun _ _ _ h12 hpost response hresponse => h12.2 (hpost response hresponse)) h hrely

namespace System

section
variable {sha256 : Bytes → String} {s s' : System} {event : Event × Nat}

/-- Shard writes whose objects stay go on promising to leave them. -/
theorem Bounded.leaves_step {among : Nat → Prop} (hs : s.Bounded sha256)
    (h : s.step sha256 event = some s')
    (hleaves : ∀ i write, among i → s.writes[i]? = some write → write.Leaves sha256 s.bucket)
    (hpresent : ∀ i write, among i → s.writes[i]? = some write →
      s.bucket.get? (write.target sha256).final ≠ none →
        s'.bucket.get? (write.target sha256).final ≠ none)
    (i : Nat) (write : WriteRpc) (hi : i < s.writes.length → among i)
    (hwrite : s'.writes[i]? = some write) : write.Leaves sha256 s'.bucket := by
  have hamong : ∀ {other}, s.writes[i]? = some other → among i :=
    fun hother => hi (List.getElem?_eq_some_iff.mp hother).1
  cases hs.write_move h hwrite with
  | called moving fault program hmoving hcall =>
      exact (Keeps.step (hleaves i moving (hamong hmoving) hmoving)
        ⟨writerRely_self False.elim, fun h => h⟩ hcall).2
  | undisturbed _ hold hrely =>
      exact (hleaves i write (hamong hold) hold).of_rely
        ⟨hrely, hpresent i write (hamong hold) hold⟩
  | started call uuid huuid depth maxDepth _ =>
      exact WriteRpc.leaves_start sha256 call uuid huuid depth maxDepth _

end

end System

end CheckpointRuntime
