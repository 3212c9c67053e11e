import CheckpointRuntime.WorldEffects
import CheckpointRuntime.Library.PartialRun

/-!
# Histories of uploads

A list of acknowledged uploads of one checkpoint, one after another.  The
process remembers one entry for each of them, in order; a key that no upload
of a stretch writes is stable across it, so an object or a sidecar holds what
the last upload that wrote it has left there.
-/

namespace CheckpointRuntime

open ControlPlane PartialRun

/-- An upload writes a key. -/
def ShardUpload.Writes (u : ShardUpload) (sha256 : Bytes → String)
    (runId checkpointId key : String) : Prop :=
  key = stagingKey runId checkpointId u.shardId u.conditions.uuid ∨
  key = contentAddressedKey runId checkpointId u.shardId (sha256 u.body) ∨
  key = sidecarKey runId checkpointId u.shardId

/-- The entry that is remembered of an upload. -/
def ShardUpload.info (u : ShardUpload) (sha256 : Bytes → String) (runId checkpointId : String) :
    ShardInfo :=
  uploadedShardInfo sha256 (u.call runId checkpointId)

/-- The last upload of each shard. -/
def lastUploads : List ShardUpload → List ShardUpload
  | [] => []
  | u :: uploads =>
      if u.shardId ∈ uploads.map (·.shardId) then lastUploads uploads
      else u :: lastUploads uploads

/-- After the last upload of a shard, the shard is not uploaded again. -/
theorem mem_lastUploads {u : ShardUpload} {uploads : List ShardUpload}
    (h : u ∈ lastUploads uploads) :
    ∃ before after, uploads = before ++ u :: after ∧ u.shardId ∉ after.map (·.shardId) := by
  induction uploads with
  | nil => cases h
  | cons first uploads ih =>
      have hlater : u ∈ lastUploads uploads → ∃ before after,
          first :: uploads = before ++ u :: after ∧ u.shardId ∉ after.map (·.shardId) := by
        intro h
        obtain ⟨before, after, hsplit, hlast⟩ := ih h
        exact ⟨first :: before, after, by rw [hsplit]; rfl, hlast⟩
      unfold lastUploads at h
      split at h
      · exact hlater h
      · next hnew =>
        rcases List.mem_cons.mp h with rfl | h
        · exact ⟨[], uploads, rfl, hnew⟩
        · exact hlater h

/-- If every shard is uploaded once, every upload is the last one of its
shard. -/
theorem lastUploads_of_nodup {uploads : List ShardUpload}
    (h : (uploads.map (·.shardId)).Nodup) : lastUploads uploads = uploads := by
  induction uploads with
  | nil => rfl
  | cons u uploads ih =>
      obtain ⟨hnew, hrest⟩ := List.nodup_cons.mp h
      rw [lastUploads, if_neg hnew, ih hrest]

namespace World

variable {sha256 : Bytes → String} {runId checkpointId : String} {w w' : World}
  {uploads : List ShardUpload}

/-- What a history of uploads leaves of the shards, of manifests and of the
connection. -/
theorem run_acknowledge (h : run (acknowledge sha256 runId checkpointId) w uploads = some w') :
    w'.cp.shardsOf checkpointId =
      w.cp.shardsOf checkpointId ++ uploads.map (·.info sha256 runId checkpointId) ∧
    ∀ r c, w'.bucket.get? (manifestKey r c) = w.bucket.get? (manifestKey r c) := by
  induction uploads generalizing w with
  | nil =>
      obtain rfl := Option.some.inj h
      exact ⟨(List.append_nil _).symm, fun _ _ => rfl⟩
  | cons u uploads ih =>
      obtain ⟨mid, hmid, hrest⟩ := run_cons_some _ h
      have hup := acknowledge_eq_some hmid
      obtain ⟨hshards, hmanifests⟩ := ih hrest
      refine ⟨?_, fun r c => (hmanifests r c).trans (hup.get?_manifestKey r c)⟩
      have hfirst : mid.cp.shardsOf checkpointId =
          w.cp.shardsOf checkpointId ++ [u.info sha256 runId checkpointId] :=
        (hup.shardsOf checkpointId).trans (if_pos rfl)
      rw [hshards, hfirst, List.append_assoc]
      rfl

/-- A key is stable across uploads that do not write it. -/
theorem get?_stable {key : String}
    (h : run (acknowledge sha256 runId checkpointId) w uploads = some w')
    (hkey : ∀ u ∈ uploads, ¬ u.Writes sha256 runId checkpointId key) :
    w'.bucket.get? key = w.bucket.get? key := by
  induction uploads generalizing w with
  | nil =>
      obtain rfl := Option.some.inj h
      rfl
  | cons u uploads ih =>
      obtain ⟨mid, hmid, hrest⟩ := run_cons_some _ h
      have hfirst := hkey u List.mem_cons_self
      have hrest' : ∀ v ∈ uploads, ¬ v.Writes sha256 runId checkpointId key :=
        fun v hv => hkey v (List.mem_cons_of_mem _ hv)
      calc w'.bucket.get? key
          = mid.bucket.get? key := ih hrest hrest'
        _ = w.bucket.get? key := by
            apply (acknowledge_eq_some hmid).guar.others
            · exact fun hstaging => hfirst (Or.inl hstaging)
            · exact fun hfinal => hfirst (Or.inr (Or.inl hfinal))
            · exact fun hsidecar => hfirst (Or.inr (Or.inr hsidecar))

/-- A key holds what the last upload that writes it leaves there. -/
theorem get?_last_write {key : String} {u : ShardUpload} {before after : List ShardUpload}
    (h : run (acknowledge sha256 runId checkpointId) w (before ++ u :: after) = some w')
    (hafter : ∀ v ∈ after, ¬ v.Writes sha256 runId checkpointId key) :
    ∃ w1 w2, run (acknowledge sha256 runId checkpointId) w before = some w1 ∧
      Uploaded sha256 w1 w2 (u.call runId checkpointId) u.conditions ∧
      w'.bucket.get? key = w2.bucket.get? key := by
  rw [run_append] at h
  obtain ⟨w1, hbefore, hrest⟩ := Option.bind_eq_some_iff.mp h
  obtain ⟨w2, hupload, hlast⟩ := run_cons_some _ hrest
  exact ⟨w1, w2, hbefore, acknowledge_eq_some hupload, get?_stable hlast hafter⟩

/-- Uploads of other shards do not write the sidecar of a shard. -/
theorem not_writes_sidecarKey {u : ShardUpload} {shardId : String} (hne : u.shardId ≠ shardId) :
    ¬ u.Writes sha256 runId checkpointId (sidecarKey runId checkpointId shardId) := by
  intro h
  rcases h with hstaging | hfinal | hsidecar
  · exact sidecarKey_ne_stagingKey u.conditions.uuid_valid hstaging
  · exact contentAddressedKey_ne_sidecarKey hfinal.symm
  · exact hne (sidecarKey_inj hsidecar).symm

/-- Uploads of other shards do not write the object of a shard. -/
theorem not_writes_contentAddressedKey {u : ShardUpload} {shardId : String} {body : Bytes}
    (hlength : ∀ data, 16 ≤ (sha256 data).toList.length) (hne : u.shardId ≠ shardId) :
    ¬ u.Writes sha256 runId checkpointId
      (contentAddressedKey runId checkpointId shardId (sha256 body)) := by
  intro h
  rcases h with hstaging | hfinal | hsidecar
  · exact contentAddressedKey_ne_stagingKey u.conditions.uuid_valid hstaging
  · obtain ⟨_, hid⟩ := contentAddressedKey_inj (hlength _) (hlength _) hfinal
    exact hne hid.symm
  · exact contentAddressedKey_ne_sidecarKey hsidecar

/-- The sidecar of a shard has the digest of its last upload. -/
theorem sidecar_of_lastUploads {u : ShardUpload}
    (h : run (acknowledge sha256 runId checkpointId) w uploads = some w')
    (hu : u ∈ lastUploads uploads) :
    w'.bucket.get? (sidecarKey runId checkpointId u.shardId) = some (.text (sha256 u.body)) := by
  obtain ⟨before, after, rfl, hlast⟩ := mem_lastUploads hu
  have hafter : ∀ v ∈ after,
      ¬ v.Writes sha256 runId checkpointId (sidecarKey runId checkpointId u.shardId) := by
    intro v hv
    apply not_writes_sidecarKey
    intro heq
    exact hlast (List.mem_map.mpr ⟨v, hv, heq⟩)
  obtain ⟨w1, w2, _, hup, hsame⟩ := get?_last_write h hafter
  rw [hsame]
  exact hup.sidecar

end World

/-- With distinct shard ids, a search by shard id finds the entry of an
upload. -/
theorem find?_info {sha256 : Bytes → String} {runId checkpointId : String}
    {uploads : List ShardUpload} (hdistinct : (uploads.map (·.shardId)).Nodup)
    {u : ShardUpload} (hu : u ∈ uploads) :
    (uploads.map (fun v => manifestShardOf (v.info sha256 runId checkpointId))).find?
        (fun shard => decide (shard.shardId = u.shardId)) =
      some (manifestShardOf (u.info sha256 runId checkpointId)) := by
  let entry (v : ShardUpload) : ManifestShard := manifestShardOf (v.info sha256 runId checkpointId)
  have hkeys : ((uploads.map entry).map (·.shardId)).Nodup := by
    rw [List.map_map]
    exact hdistinct
  let table : KeyedTable.Table ManifestShard (·.shardId) := ⟨uploads.map entry, hkeys⟩
  exact table.find_of_mem (List.mem_map_of_mem hu)

/-! ## Two bodies of one byte -/

namespace World

/-- The digests of two bodies. -/
def digestOfBody (body : Bytes) : String :=
  if body = [98] then "3e23e8160039594a33894f6564e1b1348bbd7a0088d42c4acb73eeaed59c009d"
  else "ca978112ca1bbdcafac231b39a23dc4da786eff8147c4e72b9807785afee48bb"

/-- The first checkpoint of a run with two workers. -/
def beforeUploads : World :=
  firstCheckpoint .inMemoryKVStore pairRun "00000000000000a1" 10
    "00000000000000c1"

/-- Its commit, with nothing going wrong on the way. -/
def commitUploads (w : World) : World × Except HttpException RunStatus :=
  w.commitRun "00000000000000a1" (.answered fun _ => .none) (fun _ => .none) 6

/-- Two uploads of one byte each. -/
def firstUpload : ShardUpload where
  shardId := "rank-0"
  body := [97]
  conditions := firstWrite
  now := 4

def secondUpload (shardId : String) : ShardUpload where
  shardId := shardId
  body := [98]
  conditions := secondWrite
  now := 5

def twoUploads (second : String) : List ShardUpload := [firstUpload, secondUpload second]

/-- The state after them. -/
def afterUploads (second : String) : World :=
  (run (acknowledge digestOfBody "00000000000000a1" "00000000000000c1") beforeUploads
    (twoUploads second)).getD beforeUploads

theorem run_twoUploads {second : String}
    (h : (run (acknowledge digestOfBody "00000000000000a1" "00000000000000c1") beforeUploads
      (twoUploads second)).isSome = true) :
    run (acknowledge digestOfBody "00000000000000a1" "00000000000000c1") beforeUploads
      (twoUploads second) = some (afterUploads second) := by
  obtain ⟨w, hw⟩ := Option.isSome_iff_exists.mp h
  rw [afterUploads, hw, Option.getD_some]

/-- Uploading two shards and committing them succeeds. -/
theorem commit_of_two_shards :
    run (acknowledge digestOfBody "00000000000000a1" "00000000000000c1") beforeUploads
        (twoUploads "rank-1") = some (afterUploads "rank-1") ∧
      ((afterUploads "rank-1").cp.activeCheckpoint "00000000000000a1").map (·.checkpointId) =
        some "00000000000000c1" ∧
      (commitUploads (afterUploads "rank-1")).2.isOk = true := by
  have hfacts : (run (acknowledge digestOfBody "00000000000000a1" "00000000000000c1")
        beforeUploads (twoUploads "rank-1")).isSome = true ∧
      ((afterUploads "rank-1").cp.activeCheckpoint "00000000000000a1").map (·.checkpointId) =
        some "00000000000000c1" ∧
      (commitUploads (afterUploads "rank-1")).2.isOk = true := by decide +kernel
  exact ⟨run_twoUploads hfacts.1, hfacts.2⟩

/-- The shards that its manifest lists. -/
def listedShards (w : World) : List String :=
  match w.bucket.get? (manifestKey "00000000000000a1" "00000000000000c1") with
  | some (.manifest manifest) => manifest.shards.map (·.shardId)
  | _ => []

theorem listedShards_eq {w : World} {manifest : Manifest}
    (h : w.bucket.get? (manifestKey "00000000000000a1" "00000000000000c1") =
      some (.manifest manifest)) : listedShards w = manifest.shards.map (·.shardId) := by
  rw [listedShards, h]

end World

end CheckpointRuntime
