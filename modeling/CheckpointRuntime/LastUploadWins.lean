import CheckpointRuntime.UploadHistory

/-!
# Does the last upload of a shard win?

The control plane appends an entry for every upload, the sidecar is overwritten
in place, and a reader takes the first entry of the manifest with the shard's
id.  The sidecar always has the digest of the last upload; the manifest agrees
with it, and lists each shard once, exactly when no shard is uploaded twice.
-/

namespace CheckpointRuntime

open ControlPlane PartialRun

namespace World

/-- The manifest lists each uploaded shard once, with its last upload, which is
also the one that the sidecar of the shard describes. -/
def LastUploadWins (sha256 : Bytes → String) (w : World) (runId checkpointId : String)
    (uploads : List ShardUpload) : Prop :=
  ∃ manifest, w.bucket.get? (manifestKey runId checkpointId) = some (.manifest manifest) ∧
    (∀ u ∈ uploads, (manifest.shards.map (·.shardId)).count u.shardId = 1) ∧
    manifest.numShards = (lastUploads uploads).length ∧
    manifest.totalBytes = ((lastUploads uploads).map (·.body.length)).sum ∧
    ∀ u ∈ lastUploads uploads, ∃ shard,
      manifest.shards.find? (fun s => decide (s.shardId = u.shardId)) = some shard ∧
      shard.sizeBytes = u.body.length ∧ shard.sha256 = sha256 u.body ∧
      shard.storageKey = contentAddressedKey runId checkpointId u.shardId (sha256 u.body) ∧
      w.bucket.get? (sidecarKey runId checkpointId u.shardId) = some (.text shard.sha256)

/-- **Retries.**  Take a checkpoint without uploads and without a manifest, any
successful uploads for it, and then a successful commit of it.  The last upload
of each shard wins exactly when no shard was uploaded twice. -/
theorem last_upload_wins_iff {sha256 : Bytes → String} {w w' : World}
    {runId checkpointId : String} {uploads : List ShardUpload} {fate : CommitFate}
    {abortFaults : Nat → Fault} {now : Nat}
    (hnone : w.cp.shardsOf checkpointId = [])
    (habsent : w.bucket.get? (manifestKey runId checkpointId) = none)
    (hrun : run (acknowledge sha256 runId checkpointId) w uploads = some w')
    (hactive : (w'.cp.activeCheckpoint runId).map (·.checkpointId) = some checkpointId)
    (hcommit : (w'.commitRun runId fate abortFaults now).2.isOk = true) :
    LastUploadWins sha256 (w'.commitRun runId fate abortFaults now).1 runId checkpointId
        uploads ↔
      (uploads.map (·.shardId)).Nodup := by
  obtain ⟨hshards, hmanifests⟩ := run_acknowledge hrun
  rw [hnone, List.nil_append] at hshards
  obtain ⟨call, _, _, hcallShards, _, hbucket⟩ :=
    commitRun_isOk hactive ((hmanifests runId checkpointId).trans habsent) hcommit
  rw [hshards] at hcallShards
  have hentries : (manifestOf call now).shards =
      uploads.map (fun u => manifestShardOf (u.info sha256 runId checkpointId)) := by
    show call.shards.map manifestShardOf = _
    rw [hcallShards, List.map_map]
    rfl
  have hids : (manifestOf call now).shards.map (·.shardId) = uploads.map (·.shardId) := by
    rw [hentries, List.map_map]
    rfl
  have hstored : (w'.commitRun runId fate abortFaults now).1.bucket.get?
      (manifestKey runId checkpointId) = some (.manifest (manifestOf call now)) := by
    rw [hbucket, Bucket.get?_store, if_pos rfl]
  constructor
  · intro h
    obtain ⟨manifest, hmanifest, honce, _⟩ := h
    rw [hstored, Option.some.injEq, ObjectBody.manifest.injEq] at hmanifest
    rw [← hmanifest, hids] at honce
    rw [List.nodup_iff_count_le_one]
    intro shardId
    by_cases hmem : shardId ∈ uploads.map (·.shardId)
    · obtain ⟨u, hu, rfl⟩ := List.mem_map.mp hmem
      exact (honce u hu).le
    · rw [List.count_eq_zero.mpr hmem]
      omega
  · intro hdistinct
    have hlast := lastUploads_of_nodup hdistinct
    refine ⟨_, hstored, ?_, ?_, ?_, ?_⟩
    · intro u hu
      rw [hids]
      exact List.count_eq_one_of_mem hdistinct (List.mem_map_of_mem hu)
    · show call.shards.length = _
      rw [hlast, hcallShards, List.length_map]
    · show (call.shards.map (·.sizeBytes)).sum = _
      rw [hlast, hcallShards, List.map_map]
      rfl
    · intro u hu
      have hu' : u ∈ uploads := hlast ▸ hu
      refine ⟨_, by rw [hentries]; exact find?_info hdistinct hu', rfl, rfl, rfl, ?_⟩
      rw [hbucket, Bucket.get?_store, if_neg sidecarKey_ne_manifestKey]
      exact sidecar_of_lastUploads hrun hu

/-- Two shards, each uploaded once. -/
theorem last_upload_wins_for_two_shards :
    LastUploadWins digestOfBody (commitUploads (afterUploads "rank-1")).1 "00000000000000a1"
      "00000000000000c1" (twoUploads "rank-1") := by
  obtain ⟨hrun, hactive, hcommit⟩ := commit_of_two_shards
  have hnone : beforeUploads.cp.shardsOf "00000000000000c1" = [] := rfl
  have habsent : beforeUploads.bucket.get? (manifestKey "00000000000000a1" "00000000000000c1") =
      none := rfl
  have hiff := last_upload_wins_iff hnone habsent hrun hactive hcommit
  rw [commitUploads, hiff]
  decide

/-- A shard that is uploaded again with another body is listed twice. -/
theorem reuploaded_shard_is_listed_twice :
    run (acknowledge digestOfBody "00000000000000a1" "00000000000000c1") beforeUploads
        (twoUploads "rank-0") = some (afterUploads "rank-0") ∧
      (commitUploads (afterUploads "rank-0")).2.isOk = true ∧
      ¬ LastUploadWins digestOfBody (commitUploads (afterUploads "rank-0")).1
        "00000000000000a1" "00000000000000c1" (twoUploads "rank-0") := by
  have hfacts : (run (acknowledge digestOfBody "00000000000000a1" "00000000000000c1")
        beforeUploads (twoUploads "rank-0")).isSome = true ∧
      (commitUploads (afterUploads "rank-0")).2.isOk = true ∧
      listedShards (commitUploads (afterUploads "rank-0")).1 = ["rank-0", "rank-0"] := by
    decide +kernel
  obtain ⟨hsome, hcommit, hlisted⟩ := hfacts
  refine ⟨run_twoUploads hsome, hcommit, ?_⟩
  intro h
  obtain ⟨manifest, hmanifest, honce, _⟩ := h
  rw [listedShards_eq hmanifest] at hlisted
  have hcount := honce _ List.mem_cons_self
  rw [hlisted] at hcount
  exact absurd hcount (by decide)

end World

end CheckpointRuntime
