import CheckpointRuntime.UploadHistory

/-!
# What is uploaded can be downloaded

A shard passes through five re-chunkings: the control plane cuts the body into
pieces of one MiB, the writer regroups them into parts of five MiB that the
store assembles again, the reader cuts the object into pieces of four MiB, and
the control plane joins what it receives.  Control plane and writer compute the
key of the object independently.  This file puts the contracts of the stages
together.
-/

namespace CheckpointRuntime

open ControlPlane PartialRun Chunking

/-- The objects of a checkpoint lie under its prefix. -/
theorem checkpointPrefix_isPrefix_contentAddressedKey
    (runId checkpointId shardId digest : String) :
    (checkpointPrefix runId checkpointId).toList <+:
      (contentAddressedKey runId checkpointId shardId digest).toList := by
  have hslash : "/".toList <+: "/sha256-".toList := by decide
  simp only [checkpointPrefix, contentAddressedKey, String.toList_append, List.append_assoc,
    List.prefix_append_right_inj]
  exact hslash.trans (List.prefix_append _ _)

theorem checkpointPrefix_isPrefix_manifestKey (runId checkpointId : String) :
    (checkpointPrefix runId checkpointId).toList <+: (manifestKey runId checkpointId).toList := by
  have hslash : "/".toList <+: "/_manifest.json".toList := by decide
  simp only [checkpointPrefix, manifestKey, String.toList_append, List.append_assoc,
    List.prefix_append_right_inj]
  exact hslash

namespace World

variable {sha256 : Bytes → String} {runId checkpointId : String} {w w' : World}
  {uploads : List ShardUpload}

/-- After uploads of distinct shards of a new checkpoint, every object holds
the body that was uploaded. -/
theorem object_of_upload (hlength : ∀ data, 16 ≤ (sha256 data).toList.length)
    (hempty : ∀ key, (checkpointPrefix runId checkpointId).toList <+: key.toList →
      w.bucket.get? key = none)
    (hrun : run (acknowledge sha256 runId checkpointId) w uploads = some w')
    (hdistinct : (uploads.map (·.shardId)).Nodup) {u : ShardUpload} (hu : u ∈ uploads) :
    w'.bucket.get? (u.info sha256 runId checkpointId).storageKey = some (.bytes u.body) := by
  obtain ⟨before, after, rfl⟩ := List.append_of_mem hu
  rw [List.map_append, List.map_cons] at hdistinct
  have hbefore : ∀ v ∈ before, v.shardId ≠ u.shardId := by
    intro v hv heq
    have hdisjoint := List.nodup_append.mp hdistinct
    exact hdisjoint.2.2 _ (List.mem_map_of_mem hv) _ List.mem_cons_self heq
  have hafter : ∀ v ∈ after, v.shardId ≠ u.shardId := by
    intro v hv heq
    have hcons := List.nodup_cons.mp (List.nodup_append.mp hdistinct).2.1
    exact hcons.1 (heq ▸ List.mem_map_of_mem hv)
  have hlast : ∀ v ∈ after, ¬ v.Writes sha256 runId checkpointId
      (contentAddressedKey runId checkpointId u.shardId (sha256 u.body)) :=
    fun v hv => not_writes_contentAddressedKey hlength (hafter v hv)
  obtain ⟨w1, w2, hstart, hup, hsame⟩ := get?_last_write hrun hlast
  have hnone : w1.bucket.get?
      (contentAddressedKey runId checkpointId u.shardId (sha256 u.body)) = none := by
    rw [get?_stable hstart fun v hv => not_writes_contentAddressedKey hlength (hbefore v hv)]
    exact hempty _ (checkpointPrefix_isPrefix_contentAddressedKey _ _ _ _)
  show w'.bucket.get? (contentAddressedKey runId checkpointId u.shardId (sha256 u.body)) = _
  rw [hsame]
  apply hup.object
  intro body hbody
  cases hnone.symm.trans hbody

/-- The upload that a history contains had a body. -/
theorem body_ne_nil (hrun : run (acknowledge sha256 runId checkpointId) w uploads = some w')
    {u : ShardUpload} (hu : u ∈ uploads) : u.body ≠ [] := by
  obtain ⟨before, after, rfl⟩ := List.append_of_mem hu
  rw [run_append] at hrun
  obtain ⟨w1, _, hrest⟩ := Option.bind_eq_some_iff.mp hrun
  obtain ⟨w2, hupload, _⟩ := run_cons_some _ hrest
  exact (acknowledge_eq_some hupload).body

/-- **Round trip.**  If each shard of a new checkpoint is uploaded once and the
checkpoint is committed, then downloading a shard returns its body. -/
theorem download_returns_uploaded_body (hdigest : ∀ data, (sha256 data).toList.length = 64)
    (hnone : w.cp.shardsOf checkpointId = [])
    (hempty : ∀ key, (checkpointPrefix runId checkpointId).toList <+: key.toList →
      w.bucket.get? key = none)
    (hrun : run (acknowledge sha256 runId checkpointId) w uploads = some w')
    (hdistinct : (uploads.map (·.shardId)).Nodup)
    {fate : CommitFate} {abortFaults : Nat → Fault} {now : Nat}
    (hactive : (w'.cp.activeCheckpoint runId).map (·.checkpointId) = some checkpointId)
    (hcommit : (w'.commitRun runId fate abortFaults now).2.isOk = true) :
    ∀ u ∈ uploads,
      (w'.commitRun runId fate abortFaults now).1.downloadShard runId checkpointId u.shardId
        (fun _ => .none) = .ok u.body := by
  intro u hu
  have hlength : ∀ data, 16 ≤ (sha256 data).toList.length := by
    intro data
    rw [hdigest]
    omega
  obtain ⟨hshards, hmanifests⟩ := run_acknowledge hrun
  rw [hnone, List.nil_append] at hshards
  have habsent : w'.bucket.get? (manifestKey runId checkpointId) = none := by
    rw [hmanifests]
    exact hempty _ (checkpointPrefix_isPrefix_manifestKey _ _)
  obtain ⟨call, _, _, hcallShards, hconnected, hbucket⟩ :=
    commitRun_isOk hactive habsent hcommit
  rw [hshards] at hcallShards
  have hstored : (w'.commitRun runId fate abortFaults now).1.bucket.get?
      (manifestKey runId checkpointId) = some (.manifest (manifestOf call now)) := by
    rw [hbucket, Bucket.get?_store, if_pos rfl]
  have hentry : (manifestOf call now).shards.find? (fun s => decide (s.shardId = u.shardId)) =
      some (manifestShardOf (u.info sha256 runId checkpointId)) := by
    show (call.shards.map manifestShardOf).find? _ = _
    rw [hcallShards, List.map_map]
    exact find?_info hdistinct hu
  have hobject : (w'.commitRun runId fate abortFaults now).1.bucket.get?
      (manifestShardOf (u.info sha256 runId checkpointId)).storageKey = some (.bytes u.body) := by
    rw [hbucket, Bucket.get?_store]
    apply (if_neg contentAddressedKey_ne_manifestKey).trans
    exact object_of_upload hlength hempty hrun hdistinct hu
  have hread := readShard_run ⟨u.shardId, checkpointId, runId⟩ hstored hentry hobject
  have hpos : 0 < readChunkSize := by decide
  have hchunks : readShardStream u.shardId checkpointId (pieces readChunkSize u.body) ≠ [] := by
    intro hnil
    have hpieces := readShardStream_data u.shardId checkpointId (pieces readChunkSize u.body)
    rw [hnil, List.map_nil] at hpieces
    exact pieces_ne_nil hpos (body_ne_nil hrun hu) hpieces.symm
  rw [World.downloadShard, hread, ControlPlane.downloadShard, hconnected, if_pos rfl]
  dsimp only
  rw [if_neg (by simpa using hchunks), readShardStream_data, flatten_pieces hpos]

/-- Two shards of one byte each: the second one comes back. -/
theorem download_returns_second_shard :
    (commitUploads (afterUploads "rank-1")).1.downloadShard "00000000000000a1"
      "00000000000000c1" "rank-1" (fun _ => .none) = .ok [98] := by
  obtain ⟨hrun, hactive, hcommit⟩ := commit_of_two_shards
  have hdigest : ∀ data, (digestOfBody data).toList.length = 64 := by
    intro data
    unfold digestOfBody
    split <;> decide
  have hnone : beforeUploads.cp.shardsOf "00000000000000c1" = [] := rfl
  have hall := download_returns_uploaded_body hdigest hnone (fun _ _ => rfl) hrun (by decide)
    hactive hcommit
  have hsecond : secondUpload "rank-1" ∈ twoUploads "rank-1" :=
    List.mem_cons_of_mem _ List.mem_cons_self
  exact hall (secondUpload "rank-1") hsecond

end World

end CheckpointRuntime
