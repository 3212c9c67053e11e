import CheckpointRuntime.AbortRemoval
import CheckpointRuntime.Retention

/-!
# What the collection of orphans removes

`GarbageCollector::collect_orphans` lists the prefix of a run, recovers
checkpoint ids by splitting the keys at `/`, groups the keys in a hash map and
deletes the groups without a manifest.  `checkpointIdOf_eq_some_iff` is the
agreement of parse and rebuild for a run id without `/`: a key belongs to a
checkpoint exactly when it starts with the prefix of that checkpoint.  As with
an abort, only the 32-bit count is not exact.
-/

namespace CheckpointRuntime

open CallProgram PagedClient Grouping

namespace GarbageCollector

/-! ## The code -/

/-- `key.split('/')`. -/
def splitSlash (key : String) : List String := (key.toList.splitOn '/').map String.ofList

/-- The second segment of a key that has at least three. -/
def checkpointIdOf (key : String) : Option String :=
  let parts := splitSlash key
  if parts.length ≥ 3 then parts[1]? else none

/-- The order in which a hash map hands out its entries. -/
structure IterationOrder where
  arrange : List (String × List String) → List (String × List String)
  perm : ∀ entries, (arrange entries).Perm entries

/-- The order in which the entries were made. -/
def IterationOrder.asFiled : IterationOrder where
  arrange := id
  perm := fun _ => .refl _

/-- The loop over the groups. -/
def collectGroups (runId : String) : List (String × List String) → UInt32 → PagedClient UInt32
  | [], totalDeleted => return totalDeleted
  | (ckptId, keys) :: checkpoints, totalDeleted =>
      if keys.any (fun k => k = manifestKey runId ckptId) then
        collectGroups runId checkpoints totalDeleted
      else do
        let totalDeleted ← deleteEach keys totalDeleted
        collectGroups runId checkpoints totalDeleted

def collectOrphans (order : IterationOrder) (fuel : Nat) (runId : String) :
    PagedClient UInt32 := do
  let objects ← listObjects fuel (runId ++ "/")
  collectGroups runId (order.arrange (grouped checkpointIdOf id objects)) 0

/-! ## What has to go -/

/-- The keys of a run whose checkpoint has no manifest. -/
def orphanKeys (b : Bucket) (runId : String) : List String :=
  (b.keysWithPrefix (runId ++ "/")).filter fun key =>
    (checkpointIdOf key).any fun ckptId => (b.get? (manifestKey runId ckptId)).isNone

/-- The bucket after a collection.  Checkpoint ids have no `/`. -/
structure Collected (b b' : Bucket) (runId : String) : Prop where
  orphans : ∀ ckptId key, '/' ∉ ckptId.toList → b.get? (manifestKey runId ckptId) = none →
    (checkpointPrefix runId ckptId).toList <+: key.toList → b'.get? key = none
  committed : ∀ ckptId key, '/' ∉ ckptId.toList → b.get? (manifestKey runId ckptId) ≠ none →
    (checkpointPrefix runId ckptId).toList <+: key.toList → b'.get? key = b.get? key
  readable : ∀ ckptId key manifest, '/' ∉ ckptId.toList →
    (S3Client.outcome (readManifest runId ckptId) b).1 = .ok (some manifest) →
    (checkpointPrefix runId ckptId).toList <+: key.toList → b'.get? key = b.get? key
  direct : ∀ name, '/' ∉ name.toList →
    b'.get? (runId ++ "/" ++ name) = b.get? (runId ++ "/" ++ name)
  outside : ∀ key, ¬ (runId ++ "/").toList <+: key.toList → b'.get? key = b.get? key

/-- What a collection may return, and what it leaves. -/
inductive CollectionOutcome (faults : Nat → Fault) (b : Bucket) (runId : String) :
    Option (Except String UInt32) × Bucket → Prop
  | ok {n : UInt32} {b' : Bucket} (hleft : Collected b b' runId)
      (hcount : n.toNat = (b.keysLost b').length) :
      CollectionOutcome faults b runId (some (.ok n), b')
  | error {e : String} {b' : Bucket} {gone : List String} (hsub : gone ⊆ orphanKeys b runId)
      (hgone : Removed b gone b') (hfault : ∃ n, faults n ≠ .none) :
      CollectionOutcome faults b runId (some (.error e), b')

/-- **A collection removes exactly the orphans**, whichever way the listing is
paged and the hash map iterated, and whichever calls fail. -/
def CollectionIsExact (pager : Pager) (order : IterationOrder) (b : Bucket) (runId : String) :
    Prop :=
  ∃ enough, ∀ fuel, enough ≤ fuel → ∀ faults : Nat → Fault,
    CollectionOutcome faults b runId ((collectOrphans order fuel runId).outcome pager faults b)

/-! ## Parse and rebuild -/

theorem toList_runPrefix (runId : String) : (runId ++ "/").toList = runId.toList ++ ['/'] :=
  String.toList_append

theorem toList_checkpointPrefix (runId ckptId : String) :
    (checkpointPrefix runId ckptId).toList = runId.toList ++ '/' :: (ckptId.toList ++ ['/']) := by
  rw [checkpointPrefix, String.toList_append, String.toList_append, toList_runPrefix,
    List.append_assoc, List.append_assoc]
  rfl

theorem splitOn_of_none {text : List Char} (h : splitAtSlash text = none) :
    text.splitOn '/' = [text] := by
  apply List.splitOn_eq_singleton
  intro hslash
  rw [splitAtSlash, if_pos hslash] at h
  cases h

theorem splitOn_of_some {text before after : List Char}
    (h : splitAtSlash text = some (before, after)) :
    text.splitOn '/' = before :: after.splitOn '/' := by
  obtain ⟨hbefore, rfl⟩ := splitAtSlash_eq_some_iff.mp h
  exact List.splitOn_append_cons_self_of_not_mem hbefore after

/-- Both collectors of the repository find the same checkpoint id in a key. -/
theorem checkpointIdOf_eq (key : String) : checkpointIdOf key = (prefixOf key).map (·.2) := by
  unfold checkpointIdOf prefixOf splitSlash
  cases hrun : splitAtSlash key.toList with
  | none =>
      rw [splitOn_of_none hrun]
      rfl
  | some parts =>
      obtain ⟨run, rest⟩ := parts
      rw [splitOn_of_some hrun]
      cases hcheckpoint : splitAtSlash rest with
      | none =>
          rw [splitOn_of_none hcheckpoint]
          simp [hcheckpoint]
      | some parts =>
          obtain ⟨checkpoint, name⟩ := parts
          have hname : (name.splitOn '/').length ≠ 0 :=
            List.length_eq_zero_iff.not.mpr (List.splitOn_ne_nil '/' name)
          rw [splitOn_of_some hcheckpoint]
          simp [hcheckpoint, hname]

/-- Ids without `/` are recovered from the front of a key. -/
theorem eq_of_runPrefix {run runId checkpoint name : String} (hslash : '/' ∉ run.toList)
    (hrun : '/' ∉ runId.toList)
    (hkey : (runId ++ "/").toList <+: (run ++ "/" ++ checkpoint ++ "/" ++ name).toList) :
    run = runId := by
  obtain ⟨rest, hrest⟩ := hkey
  have hsame : runId.toList ++ '/' :: rest =
      run.toList ++ '/' :: (checkpoint.toList ++ '/' :: name.toList) := by
    simpa [String.toList_append] using hrest
  have hsplit := splitAtSlash_eq_some_iff.mpr ⟨hrun, hsame.symm⟩
  rw [splitAtSlash_eq_some_iff.mpr ⟨hslash, rfl⟩] at hsplit
  exact String.toList_inj.mp (Prod.mk.inj (Option.some.inj hsplit)).1

/-- **Parse and rebuild agree**: below a run id without `/`, a key is filed under
a checkpoint id exactly when it starts with that checkpoint's prefix. -/
theorem checkpointIdOf_eq_some_iff {runId key ckptId : String} (hrun : '/' ∉ runId.toList)
    (hkey : (runId ++ "/").toList <+: key.toList) :
    checkpointIdOf key = some ckptId ↔
      '/' ∉ ckptId.toList ∧ (checkpointPrefix runId ckptId).toList <+: key.toList := by
  rw [checkpointIdOf_eq, Option.map_eq_some_iff]
  constructor
  · intro h
    obtain ⟨⟨run, checkpoint⟩, hparts, rfl⟩ := h
    obtain ⟨hslash, hcheckpoint, name, rfl⟩ := prefixOf_eq_some_iff.mp hparts
    obtain rfl : run = runId := eq_of_runPrefix hslash hrun hkey
    exact ⟨hcheckpoint, by simp [checkpointPrefix, String.toList_append]⟩
  · intro h
    obtain ⟨hcheckpoint, name, hname⟩ := h
    refine ⟨(runId, ckptId), prefixOf_eq_some_iff.mpr ⟨hrun, hcheckpoint, .ofList name, ?_⟩, rfl⟩
    rw [← String.toList_inj, ← hname]
    simp [checkpointPrefix, String.toList_append]

theorem runPrefix_isPrefix (runId ckptId : String) :
    (runId ++ "/").toList <+: (checkpointPrefix runId ckptId).toList := by
  simp [checkpointPrefix, String.toList_append]

/-- A key belongs to one checkpoint only. -/
theorem eq_of_checkpointPrefix {runId key ckptId other : String} (hrun : '/' ∉ runId.toList)
    (hckpt : '/' ∉ ckptId.toList) (hother : '/' ∉ other.toList)
    (h : (checkpointPrefix runId ckptId).toList <+: key.toList)
    (h' : (checkpointPrefix runId other).toList <+: key.toList) : ckptId = other := by
  have hkey := (runPrefix_isPrefix runId ckptId).trans h
  have hid := (checkpointIdOf_eq_some_iff hrun hkey).mpr ⟨hckpt, h⟩
  have hid' := (checkpointIdOf_eq_some_iff hrun hkey).mpr ⟨hother, h'⟩
  exact Option.some.inj (hid.symm.trans hid')

/-- A key directly under a run belongs to no checkpoint. -/
theorem slash_mem_of_checkpointPrefix {runId ckptId name : String}
    (h : (checkpointPrefix runId ckptId).toList <+: (runId ++ "/" ++ name).toList) :
    '/' ∈ name.toList := by
  rw [toList_checkpointPrefix, String.toList_append, toList_runPrefix, List.append_assoc,
    List.prefix_append_right_inj, List.singleton_append, List.cons_prefix_cons] at h
  exact h.2.subset (by simp)

/-- The manifest of a checkpoint is filed with it. -/
theorem checkpointIdOf_manifestKey {runId ckptId : String} (hrun : '/' ∉ runId.toList)
    (hckpt : '/' ∉ ckptId.toList) : checkpointIdOf (manifestKey runId ckptId) = some ckptId := by
  apply (checkpointIdOf_eq_some_iff hrun ?_).mpr ⟨hckpt, ?_⟩
  · simp [manifestKey, String.toList_append]
  · simp [manifestKey, checkpointPrefix, String.toList_append]

theorem mem_orphanKeys {b : Bucket} {runId key : String} (hrun : '/' ∉ runId.toList) :
    key ∈ orphanKeys b runId ↔ b.get? key ≠ none ∧
      ∃ ckptId, '/' ∉ ckptId.toList ∧ (checkpointPrefix runId ckptId).toList <+: key.toList ∧
        b.get? (manifestKey runId ckptId) = none := by
  rw [orphanKeys, List.mem_filter, Bucket.mem_keysWithPrefix, Option.any_eq_true]
  constructor
  · intro h
    obtain ⟨⟨hobject, hkey⟩, ckptId, hid, hnone⟩ := h
    obtain ⟨hckpt, hprefix⟩ := (checkpointIdOf_eq_some_iff hrun hkey).mp hid
    exact ⟨hobject, ckptId, hckpt, hprefix, Option.isNone_iff_eq_none.mp hnone⟩
  · intro h
    obtain ⟨hobject, ckptId, hckpt, hprefix, hnone⟩ := h
    have hkey := (runPrefix_isPrefix runId ckptId).trans hprefix
    exact ⟨⟨hobject, hkey⟩, ckptId, (checkpointIdOf_eq_some_iff hrun hkey).mpr ⟨hckpt, hprefix⟩,
      Option.isNone_iff_eq_none.mpr hnone⟩

theorem nodup_orphanKeys (b : Bucket) (runId : String) : (orphanKeys b runId).Nodup :=
  (b.nodup_keysWithPrefix _).filter _

/-! ## The run -/

/-- The keys of the groups without a manifest. -/
def abandoned (runId : String) (groups : List (String × List String)) : List String :=
  (groups.filter fun group => !group.2.any fun k => k = manifestKey runId group.1).flatMap (·.2)

/-- Group by group, the loop deletes the keys of the groups without a manifest. -/
theorem collectGroups_eq (runId : String) (groups : List (String × List String))
    (totalDeleted : UInt32) :
    collectGroups runId groups totalDeleted =
      deleteEach (abandoned runId groups) totalDeleted := by
  induction groups generalizing totalDeleted with
  | nil => rfl
  | cons group groups ih =>
      obtain ⟨ckptId, keys⟩ := group
      unfold abandoned at ih ⊢
      cases hmanifest : keys.any fun k => k = manifestKey runId ckptId with
      | true =>
          rw [collectGroups, if_pos hmanifest, ih,
            List.filter_cons_of_neg (by simp only [hmanifest, Bool.not_true, Bool.false_eq_true,
              not_false_eq_true])]
      | false =>
          rw [collectGroups, if_neg (by simp only [hmanifest, Bool.false_eq_true,
            not_false_eq_true]), List.filter_cons_of_pos (by simp only [hmanifest, Bool.not_false]),
            List.flatMap_cons, deleteEach_append]
          exact congrArg _ (funext ih)

/-- A manifest that is in the bucket is in the group of its own checkpoint, and
in no other. -/
theorem manifestKey_mem_group_iff {b : Bucket} {runId ckptId : String}
    (hrun : '/' ∉ runId.toList) (hckpt : '/' ∉ ckptId.toList) {objects : List String}
    (hobjects : objects.Perm (b.keysWithPrefix (runId ++ "/"))) :
    manifestKey runId ckptId ∈ rowsOf checkpointIdOf objects ckptId ↔
      b.get? (manifestKey runId ckptId) ≠ none := by
  have hbelow : (runId ++ "/").toList <+: (manifestKey runId ckptId).toList := by
    simp [manifestKey, String.toList_append]
  rw [mem_rowsOf, hobjects.mem_iff, Bucket.mem_keysWithPrefix]
  exact ⟨fun h => h.1.1, fun h => ⟨⟨h, hbelow⟩, checkpointIdOf_manifestKey hrun hckpt⟩⟩

/-- The test on a group is the test on the bucket. -/
theorem abandoned_grouped {b : Bucket} {runId : String} (hrun : '/' ∉ runId.toList)
    {objects : List String} (hobjects : objects.Perm (b.keysWithPrefix (runId ++ "/"))) :
    abandoned runId (grouped checkpointIdOf id objects) =
      ((grouped checkpointIdOf id objects).filter fun group =>
        (b.get? (manifestKey runId group.1)).isNone).flatMap (·.2) := by
  unfold abandoned
  refine congrArg _ (List.filter_congr fun group hgroup => ?_)
  rw [grouped_eq] at hgroup
  obtain ⟨ckptId, hckptId, rfl⟩ := List.mem_map.mp hgroup
  obtain ⟨key, hkey, hid⟩ := mem_keys.mp hckptId
  have hprefix := (Bucket.mem_keysWithPrefix.mp (hobjects.mem_iff.mp hkey)).2
  have hckpt := ((checkpointIdOf_eq_some_iff hrun hprefix).mp hid).1
  have hmem := manifestKey_mem_group_iff hrun hckpt hobjects
  rw [Bool.eq_iff_iff, Bool.not_eq_true', Bool.eq_false_iff, Ne, List.any_eq_true, List.map_id,
    Option.isNone_iff_eq_none, ← not_iff_not, not_not]
  apply Iff.trans _ hmem
  constructor
  · intro h
    obtain ⟨k, hk, hsame⟩ := h
    exact of_decide_eq_true hsame ▸ hk
  · exact fun h => ⟨_, h, decide_eq_true rfl⟩

/-- The groups without a manifest hold the orphans, in whatever order the groups
come. -/
theorem abandoned_perm {order : IterationOrder} {b : Bucket} {runId : String}
    (hrun : '/' ∉ runId.toList) {objects : List String}
    (hobjects : objects.Perm (b.keysWithPrefix (runId ++ "/"))) :
    (abandoned runId (order.arrange (grouped checkpointIdOf id objects))).Perm
      (orphanKeys b runId) := by
  have hnodup : objects.Nodup := hobjects.nodup_iff.mpr (b.nodup_keysWithPrefix _)
  have horder : (abandoned runId (order.arrange (grouped checkpointIdOf id objects))).Perm
      (abandoned runId (grouped checkpointIdOf id objects)) :=
    ((order.perm _).filter _).flatMap_right _
  have hselected := flatMap_grouped_perm checkpointIdOf objects
    (fun ckptId => (b.get? (manifestKey runId ckptId)).isNone) hnodup
  rw [abandoned_grouped hrun hobjects] at horder
  exact (horder.trans hselected).trans (hobjects.filter _)

/-- What a collection leaves, and the number it returns: its deletes modulo
`2 ^ 32`. -/
theorem outcome_collectOrphans (pager : Pager) (order : IterationOrder) (b : Bucket)
    {runId : String} (hrun : '/' ∉ runId.toList) :
    ∃ enough, ∀ fuel, enough ≤ fuel → ∀ faults : Nat → Fault,
      Deletion faults b (orphanKeys b runId) 0
        ((collectOrphans order fuel runId).outcome pager faults b) := by
  simp only [collectOrphans, collectGroups_eq]
  exact outcome_sweep pager b _ _ _ fun objects hperm => abandoned_perm hrun hperm

/-! ## The collection -/

/-- A faultless read that finds a manifest finds it in the bucket. -/
theorem get?_of_readManifest {b : Bucket} {runId ckptId : String} {manifest : Manifest}
    (h : (S3Client.outcome (readManifest runId ckptId) b).1 = .ok (some manifest)) :
    b.get? (manifestKey runId ckptId) ≠ none := by
  intro hnone
  have hprobe : bucketService.answer .none b (.headObject (manifestKey runId ckptId)) =
      (b, .error .service) := by
    simp only [bucketService_none, Bucket.effect, hnone]
  have habsent : S3Client.outcome (S3Client.objectExists (manifestKey runId ckptId)) b =
      (.ok false, b) := by
    show Program.run bucketService (.call (.headObject (manifestKey runId ckptId)) _) _ b = _
    rw [Program.run, hprobe]
    rfl
  unfold readManifest at h
  rw [S3Client.outcome_bind habsent, if_neg (by decide)] at h
  cases h

/-- When the orphans have gone, the run is collected. -/
theorem collected_of_removed {b b' : Bucket} {runId : String} (hrun : '/' ∉ runId.toList)
    (h : Removed b (orphanKeys b runId) b') : Collected b b' runId := by
  have hsame : ∀ key, (∀ ckptId, '/' ∉ ckptId.toList →
      (checkpointPrefix runId ckptId).toList <+: key.toList →
      b.get? (manifestKey runId ckptId) ≠ none) → b'.get? key = b.get? key := by
    intro key hkey
    rw [h key, if_neg]
    intro hmem
    obtain ⟨-, ckptId, hckpt, hprefix, hnone⟩ := (mem_orphanKeys hrun).mp hmem
    exact hkey ckptId hckpt hprefix hnone
  have hcommitted : ∀ ckptId key, '/' ∉ ckptId.toList → b.get? (manifestKey runId ckptId) ≠ none →
      (checkpointPrefix runId ckptId).toList <+: key.toList → b'.get? key = b.get? key := by
    intro ckptId key hckpt hmanifest hprefix
    apply hsame
    intro other hother hprefix'
    rwa [eq_of_checkpointPrefix hrun hother hckpt hprefix' hprefix]
  constructor
  · intro ckptId key hckpt hnone hprefix
    rw [h key]
    split
    · rfl
    · next hmem =>
      by_contra hobject
      exact hmem ((mem_orphanKeys hrun).mpr ⟨hobject, ckptId, hckpt, hprefix, hnone⟩)
  · exact hcommitted
  · exact fun ckptId key manifest hckpt hread =>
      hcommitted ckptId key hckpt (get?_of_readManifest hread)
  · intro name hname
    apply hsame
    intro ckptId hckpt hprefix
    exact absurd (slash_mem_of_checkpointPrefix hprefix) hname
  · intro key hkey
    apply hsame
    intro ckptId hckpt hprefix
    exact absurd ((runPrefix_isPrefix runId ckptId).trans hprefix) hkey

/-- The count of a finished collection is right when it fits in 32 bits. -/
theorem orphanCount_iff {b b' : Bucket} {runId : String} (hrun : '/' ∉ runId.toList)
    (h : Removed b (orphanKeys b runId) b') :
    (0 + UInt32.ofNat (orphanKeys b runId).length).toNat = (b.keysLost b').length ↔
      (orphanKeys b runId).length < 2 ^ 32 :=
  h.toNat_ofNat_iff (nodup_orphanKeys b runId) fun _ hkey => ((mem_orphanKeys hrun).mp hkey).1

theorem collectionIsExact_of_lt {pager : Pager} {order : IterationOrder} {b : Bucket}
    {runId : String} (hrun : '/' ∉ runId.toList) (h : (orphanKeys b runId).length < 2 ^ 32) :
    CollectionIsExact pager order b runId := by
  obtain ⟨enough, hout⟩ := outcome_collectOrphans pager order b hrun
  refine ⟨enough, fun fuel hfuel faults => ?_⟩
  have hdeleted := hout fuel hfuel faults
  generalize (collectOrphans order fuel runId).outcome pager faults b = out at hdeleted ⊢
  cases hdeleted with
  | finished hgone =>
      exact .ok (collected_of_removed hrun hgone) ((orphanCount_iff hrun hgone).mpr h)
  | brokenOff hsub hgone hfault => exact .error hsub hgone hfault

theorem lt_of_collectionIsExact {pager : Pager} {order : IterationOrder} {b : Bucket}
    {runId : String} (hrun : '/' ∉ runId.toList) (h : CollectionIsExact pager order b runId) :
    (orphanKeys b runId).length < 2 ^ 32 := by
  obtain ⟨enough, hexact⟩ := h
  obtain ⟨enough', hout⟩ := outcome_collectOrphans pager order b hrun
  have hlaw := hexact (max enough enough') (by omega) fun _ => .none
  have hdeleted := hout (max enough enough') (by omega) fun _ => .none
  generalize (collectOrphans order (max enough enough') runId).outcome pager (fun _ => .none) b =
    out at hlaw hdeleted
  cases hdeleted with
  | finished hgone =>
      cases hlaw with
      | ok hleft hcount => exact (orphanCount_iff hrun hgone).mp hcount
  | brokenOff hsub hgone hfault => exact hfault.elim fun n hn => absurd rfl hn

/-- **A collection removes exactly the orphans, and counts them**, if and only if
there are fewer than `2 ^ 32` of them.  Run ids of the control plane have no
`/`. -/
theorem collection_removes_orphans_iff (pager : Pager) (order : IterationOrder) (b : Bucket)
    (runId : String) (hrun : '/' ∉ runId.toList) :
    CollectionIsExact pager order b runId ↔ (orphanKeys b runId).length < 2 ^ 32 :=
  ⟨lt_of_collectionIsExact hrun, collectionIsExact_of_lt hrun⟩

/-- The bucket of the collector's own test: an orphan and a committed checkpoint. -/
def testBucket : Bucket :=
  (((Bucket.empty.store "run/orphan/shard-0.bin" (.text "data")).store
    "run/orphan/shard-0.sha256" (.text "hash")).store
    "run/valid/shard-0.bin" (.text "data")).store "run/valid/_manifest.json" (.text "\x7b\x7d")

theorem collection_of_testBucket :
    CollectionIsExact .onePage .asFiled testBucket "run" ∧
      orphanKeys testBucket "run" = ["run/orphan/shard-0.bin", "run/orphan/shard-0.sha256"] :=
  ⟨(collection_removes_orphans_iff .onePage .asFiled testBucket "run" (by decide)).mpr (by decide),
    by decide⟩

/-- There is no manifest among the numbered shards. -/
theorem get?_manifestKey_manyShards (count : Nat) :
    (manyShards count).get? (manifestKey "r" "c") = none := by
  by_contra hobject
  have hmem := Bucket.mem_keys.mpr hobject
  rw [Bucket.keys, show (manyShards count).objects.rows = numberedShards count from rfl,
    map_key_numberedShards] at hmem
  obtain ⟨n, -, hn⟩ := List.mem_map.mp hmem
  have hmanifest : isManifestKey (manifestKey "r" "c") = true := by decide
  rw [← hn, isManifestKey_numberedKey] at hmanifest
  cases hmanifest

/-- Without a manifest every shard of the checkpoint is an orphan. -/
theorem orphanKeys_manyShards (count : Nat) :
    orphanKeys (manyShards count) "r" = (List.range count).map numberedKey := by
  rw [orphanKeys, Bucket.keysWithPrefix, List.filter_filter]
  show List.filter _ ((numberedShards count).map (·.key)) = _
  rw [map_key_numberedShards, List.filter_eq_self]
  intro key hkey
  obtain ⟨n, -, rfl⟩ := List.mem_map.mp hkey
  have hbelow : ("r" ++ "/").toList <+: (numberedKey n).toList := by
    rw [toList_runPrefix, toList_numberedKey]
    exact ⟨_, rfl⟩
  have hid : checkpointIdOf (numberedKey n) = some "c" := by
    apply (checkpointIdOf_eq_some_iff (by decide) hbelow).mpr ⟨by decide, ?_⟩
    rw [toList_checkpointPrefix, toList_numberedKey]
    exact ⟨_, rfl⟩
  rw [hid, Option.any_some, get?_manifestKey_manyShards, List.isPrefixOf_iff_prefix.mpr hbelow]
  rfl

/-- With `2 ^ 32` orphans the counter is back at zero. -/
theorem collection_miscounts :
    ¬ CollectionIsExact .onePage .asFiled (manyShards (2 ^ 32)) "r" := by
  intro h
  have hlt := lt_of_collectionIsExact (by decide) h
  rw [orphanKeys_manyShards, List.length_map, List.length_range] at hlt
  exact Nat.lt_irrefl _ hlt

end GarbageCollector

end CheckpointRuntime
