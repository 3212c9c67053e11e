import CheckpointRuntime.WriterContract

/-!
# What commits, aborts and reads do to the bucket

`CommitCheckpoint` touches one manifest and `AbortCheckpoint` deletes keys
under one prefix, none of them a manifest; both hold whatever else happens in
between their calls.  The last section runs a commit and a read alone.
-/

namespace CheckpointRuntime

open CallProgram Chunking

/-! ## Commit -/

/-- All that one call of a commit may change: the manifest of its checkpoint,
which gets the content that the commit asks for. -/
structure CommitGuar (manifest : Manifest) (b b' : Bucket) : Prop where
  uploads : b'.uploads = b.uploads
  written : b'.get? (manifestKey manifest.runId manifest.checkpointId) =
      b.get? (manifestKey manifest.runId manifest.checkpointId) ∨
    b'.get? (manifestKey manifest.runId manifest.checkpointId) = some (.manifest manifest)
  others : ∀ key, key ≠ manifestKey manifest.runId manifest.checkpointId →
    b'.get? key = b.get? key

theorem CommitGuar.refl {manifest : Manifest} (b : Bucket) : CommitGuar manifest b b :=
  ⟨rfl, Or.inl rfl, fun _ _ => rfl⟩

/-- Between the calls of a commit nobody deletes its manifest. -/
def CommitRely (manifest : Manifest) (b b' : Bucket) : Prop :=
  b.get? (manifestKey manifest.runId manifest.checkpointId) ≠ none →
    b'.get? (manifestKey manifest.runId manifest.checkpointId) ≠ none

/-- **The contract of `CommitCheckpoint`**: after a reported success the
manifest exists. -/
theorem keeps_commitCheckpoint (request : CommitRequest) (now : Nat) (b : Bucket) :
    Keeps bucketService (CommitRely (request.manifest now)) (CommitGuar (request.manifest now))
      (fun response t => response.success = true →
        t.get? (manifestKey request.runId request.checkpointId) ≠ none)
      (commitCheckpoint request now) b := by
  have hwrite : ClientKeeps (CommitRely (request.manifest now))
      (CommitGuar (request.manifest now))
      (fun _ t => t.get? (manifestKey request.runId request.checkpointId) ≠ none)
      (fun _ => True) (writeManifest (request.manifest now)) b := by
    unfold writeManifest
    refine ClientKeeps.bind (ClientKeeps.objectExists ?_ ?_)
    · intro t _
      refine ⟨.refl t, ClientKeeps.bind (ClientKeeps.await (fun t _ => ⟨.refl t, trivial⟩) ?_)⟩
      intro t1 _ t2 _ hrun
      obtain ⟨rfl, -⟩ := Prod.mk.inj (Except.ok.inj hrun)
      have hstored : (t1.store (manifestKey request.runId request.checkpointId)
          (.manifest (request.manifest now))).get?
            (manifestKey request.runId request.checkpointId) =
          some (.manifest (request.manifest now)) := by
        rw [Bucket.get?_store, if_pos rfl]
      refine ⟨⟨rfl, Or.inr hstored, ?_⟩, .pure ?_, trivial⟩
      · intro key hkey
        rw [Bucket.get?_store]
        exact if_neg hkey
      · show Bucket.get? _ _ ≠ none
        rw [show (t1.store (manifestKey (request.manifest now).runId
          (request.manifest now).checkpointId) (.manifest (request.manifest now))).get?
            (manifestKey request.runId request.checkpointId) = _ from hstored]
        simp
    · intro t _ hpresent
      exact .pure hpresent
  refine Keeps.bind (Keeps.weaken (fun _ _ h => h) (fun _ _ h => h) ?_ hwrite)
  intro outcome t houtcome
  cases outcome with
  | error e => exact fun h => by cases h
  | ok key => exact fun _ => houtcome

/-! ## Abort -/

/-- The prefix of the objects of a checkpoint. -/
def checkpointPrefix (runId checkpointId : String) : String := runId ++ "/" ++ checkpointId ++ "/"

/-- All that one call of an abort may change: it deletes a key under the
prefix of its checkpoint that is not a manifest. -/
structure AbortGuar (request : AbortRequest) (b b' : Bucket) : Prop where
  uploads : b'.uploads = b.uploads
  objects : ∀ key, b'.get? key = b.get? key ∨
    (b'.get? key = none ∧ isManifestKey key = false ∧
      (checkpointPrefix request.runId request.checkpointId).toList <+: key.toList)

theorem AbortGuar.refl {request : AbortRequest} (b : Bucket) : AbortGuar request b b :=
  ⟨rfl, fun _ => Or.inl rfl⟩

theorem AbortGuar.trans {request : AbortRequest} {b b' b'' : Bucket}
    (h : AbortGuar request b b') (h' : AbortGuar request b' b'') : AbortGuar request b b'' := by
  refine ⟨h'.uploads.trans h.uploads, ?_⟩
  intro key
  rcases h'.objects key with hsame | hgone
  · rw [hsame]
    exact h.objects key
  · exact Or.inr hgone

/-- An abort needs nothing of the others. -/
def AbortRely (_ _ : Bucket) : Prop := True

/-- **The contract of `AbortCheckpoint`**, which relies on nobody. -/
theorem keeps_abortCheckpoint (request : AbortRequest) (b : Bucket) :
    Keeps bucketService AbortRely (AbortGuar request) (fun _ _ => True)
      (abortCheckpoint request) b := by
  have hdelete : ∀ (keys : List String) (deleted : Nat) (t : Bucket),
      (∀ key ∈ keys,
        (checkpointPrefix request.runId request.checkpointId).toList <+: key.toList) →
      ClientKeeps AbortRely (AbortGuar request) (fun _ _ => True) (fun _ => True)
        (deleteShardKeys keys deleted) t := by
    intro keys
    induction keys with
    | nil => exact fun _ _ _ => .pure trivial
    | cons key keys ih =>
        intro deleted t hkeys
        have hrest : ∀ key ∈ keys,
            (checkpointPrefix request.runId request.checkpointId).toList <+: key.toList :=
          fun key hmem => hkeys key (List.mem_cons_of_mem _ hmem)
        unfold deleteShardKeys
        split
        · exact ih deleted t hrest
        · next hmanifest =>
          refine ClientKeeps.bind (ClientKeeps.await (fun t _ => ⟨.refl t, trivial⟩) ?_)
          intro t1 _ t2 _ hrun
          obtain ⟨rfl, -⟩ := Prod.mk.inj (Except.ok.inj hrun)
          refine ⟨⟨rfl, ?_⟩, ih (deleted + 1) _ hrest, trivial⟩
          intro other
          rw [Bucket.get?_remove]
          by_cases hother : other = key
          · rw [if_pos hother, hother]
            exact Or.inr ⟨rfl, Bool.eq_false_iff.mpr hmanifest, hkeys key List.mem_cons_self⟩
          · rw [if_neg hother]
            exact Or.inl rfl
  apply Keeps.bind
  have hshards : ClientKeeps AbortRely (AbortGuar request) (fun _ _ => True)
      (fun _ => True) (deleteCheckpointShards request.runId request.checkpointId) b := by
    unfold deleteCheckpointShards
    refine ClientKeeps.bind (ClientKeeps.await (fun t _ => ⟨.refl t, trivial⟩) ?_)
    intro t _ t' keys hrun
    obtain ⟨rfl, rfl⟩ := Prod.mk.inj (Except.ok.inj hrun)
    refine ⟨.refl _, hdelete _ 0 _ ?_, trivial⟩
    intro key hmem
    exact List.isPrefixOf_iff_prefix.mp (List.mem_filter.mp hmem).2
  refine Keeps.weaken (fun _ _ h => h) (fun _ _ h => h) ?_ hshards
  intro outcome t _
  cases outcome <;> exact trivial

/-- An abort that runs alone deletes keys of its checkpoint, none of them a
manifest. -/
theorem abortCheckpoint_run (request : AbortRequest) (faults : Nat → Fault) (b : Bucket) :
    AbortGuar request b ((abortCheckpoint request).run bucketService faults b).2 := by
  exact (Keeps.run (fun _ => True) (fun _ _ => trivial) (fun _ _ _ _ => trivial)
    AbortGuar.refl (fun _ _ _ h h' => h.trans h')
    (keeps_abortCheckpoint request b) trivial faults).2.2

/-! ## A commit and a read on their own -/

/-- A commit is a probe and, if that does not find the manifest, a put. -/
theorem commitCheckpoint_eq (request : CommitRequest) (now : Nat) :
    commitCheckpoint request now =
      .call (.headObject (manifestKey request.runId request.checkpointId)) (fun probe =>
        match probe with
        | .ok _ => .done { success := true,
                           manifestKey := manifestKey request.runId request.checkpointId }
        | .error _ =>
            .call (.putObject (manifestKey request.runId request.checkpointId)
              (.manifest (request.manifest now))) (fun put =>
                match put with
                | .ok _ => .done { success := true,
                                   manifestKey := manifestKey request.runId request.checkpointId }
                | .error e => .done { success := false, errorMessage := e.message })) := by
  unfold commitCheckpoint writeManifest
  show Program.call _ _ = _
  congr 1
  funext probe
  cases probe with
  | ok _ => rfl
  | error _ =>
      show Program.call _ _ = _
      congr 1
      funext put
      cases put <;> rfl

/-- A commit that runs alone: it finds a manifest and leaves everything as it
is, or it tries to write one, and what it reports is what it knows. -/
theorem commitCheckpoint_run (request : CommitRequest) (now : Nat) (faults : Nat → Fault)
    (b : Bucket) :
    let key := manifestKey request.runId request.checkpointId
    let out := (commitCheckpoint request now).run bucketService faults b
    (out.1.success = true ∧ b.get? key ≠ none ∧ out.2 = b) ∨
    (out.1.success = true ∧ out.2 = b.store key (.manifest (request.manifest now))) ∨
    (out.1.success = false ∧
      (out.2 = b ∨ faults 1 = .lost ∧ out.2 = b.store key (.manifest (request.manifest now)))) := by
  intro key out
  have hout : out = (commitCheckpoint request now).run bucketService faults b := rfl
  rw [commitCheckpoint_eq] at hout
  -- the probe finds the manifest, or the commit goes on to the put
  cases hprobe : faults 0 with
  | none =>
      cases hkey : b.get? key with
      | some body =>
          left
          simp [hout, Program.run, bucketService, Bucket.effect, hprobe, key, hkey]
      | none =>
          right
          cases hput : faults 1 <;>
            simp [hout, Program.run, bucketService, Bucket.effect, hprobe, key, hkey, hput]
  | refused =>
      right
      cases hput : faults 1 <;>
        simp [hout, Program.run, bucketService, Bucket.effect, hprobe, key, hput]
  | lost =>
      right
      cases hkey : b.get? key <;> cases hput : faults 1 <;>
        simp [hout, Program.run, bucketService, Bucket.effect, hprobe, key, hkey, hput]

/-! ## Running alone with nothing going wrong -/

/-- The outcome of a client function that runs alone, with no call failing. -/
def S3Client.outcome {α : Type} (x : S3Client α) (b : Bucket) : Except String α × Bucket :=
  x.run.run bucketService (fun _ => .none) b

theorem S3Client.outcome_bind {α β : Type} {x : S3Client α} {f : α → S3Client β} {b b' : Bucket}
    {value : α} (h : S3Client.outcome x b = (.ok value, b')) :
    S3Client.outcome (x >>= f) b = S3Client.outcome (f value) b' := by
  show Program.run bucketService (x.run.bind _) _ b = _
  rw [Program.run_bind_const, show x.run.run bucketService (fun _ => .none) b = _ from h]
  rfl

theorem S3Client.outcome_objectExists {key : String} {b : Bucket} (h : b.get? key ≠ none) :
    S3Client.outcome (S3Client.objectExists key) b = (.ok true, b) := by
  obtain ⟨body, hbody⟩ := Option.ne_none_iff_exists'.mp h
  have hanswer : bucketService.answer .none b (.headObject key) = (b, .ok ()) := by
    simp only [bucketService_none, Bucket.effect, hbody]
  show Program.run bucketService (.call (.headObject key) _) _ b = _
  rw [Program.run, hanswer]
  rfl

theorem S3Client.outcome_getObject {key : String} {b : Bucket} {body : ObjectBody}
    (h : b.get? key = some body) :
    S3Client.outcome (S3Client.getObject key) b = (.ok body, b) := by
  have hanswer : bucketService.answer .none b (.getObject key) = (b, .ok body) := by
    simp only [bucketService_none, Bucket.effect, h]
  show Program.run bucketService (.call (.getObject key)
    (fun reply => .done (reply.mapError S3Error.message))) _ b = _
  rw [Program.run, hanswer]
  rfl

/-- A read that nothing goes wrong with: it streams the object that the
manifest names for the shard, in pieces of four MiB. -/
theorem readShard_run (request : ReadShardRequest) {b : Bucket} {manifest : Manifest}
    {shard : ManifestShard} {data : Bytes}
    (hmanifest : b.get? (manifestKey request.runId request.checkpointId) =
      some (.manifest manifest))
    (hshard : manifest.shards.find? (fun s => decide (s.shardId = request.shardId)) = some shard)
    (hobject : b.get? shard.storageKey = some (.bytes data)) :
    (readShard request).run bucketService (fun _ => .none) b =
      (.ok (readShardStream request.shardId request.checkpointId (pieces readChunkSize data)),
        b) := by
  have hpresent : b.get? (manifestKey request.runId request.checkpointId) ≠ none := by
    rw [hmanifest]
    simp
  have hfound : S3Client.outcome (readManifest request.runId request.checkpointId) b =
      (.ok (some manifest), b) := by
    unfold readManifest
    rw [S3Client.outcome_bind (S3Client.outcome_objectExists hpresent), if_pos rfl,
      S3Client.outcome_bind (S3Client.outcome_getObject hmanifest)]
    rfl
  have hread : S3Client.outcome (readShardObject shard.storageKey readChunkSize) b =
      (.ok (pieces readChunkSize data), b) := by
    unfold readShardObject
    rw [S3Client.outcome_bind (S3Client.outcome_getObject hobject)]
    rfl
  unfold S3Client.outcome at hfound hread
  rw [readShard, Program.run_bind_const, hfound]
  simp only [hshard]
  rw [Program.run_bind_const, hread]
  rfl

/-- The messages of a read carry its pieces, in order. -/
theorem readShardStream_data (shardId checkpointId : String) (chunks : List Bytes) :
    (readShardStream shardId checkpointId chunks).map (·.data) = chunks := by
  rw [readShardStream, List.mapIdx_eq_zipIdx_map, List.map_map]
  exact List.zipIdx_map_fst 0 chunks

end CheckpointRuntime
