import CheckpointRuntime.ObjectListing

/-!
# What an abort removes

`GarbageCollector::delete_checkpoint_shards` lists the prefix of a checkpoint,
page by page, and deletes every key that is not a manifest.
`outcome_deleteCheckpointShards` says what it leaves for every bucket, every
paging and every failing call.  The deletes are counted in 32 bits, and the
release build lets the counter wrap, so the count is right exactly below
`2 ^ 32` deletes.
-/

namespace CheckpointRuntime

open CallProgram PagedClient

namespace GarbageCollector

/-- The loop over the listed keys. -/
def deleteShards : List String → UInt32 → PagedClient UInt32
  | [], deleted => return deleted
  | key :: keys, deleted =>
      -- the manifest itself stays
      if isManifestKey key then
        deleteShards keys deleted
      else do
        deleteObject key
        deleteShards keys (deleted + 1)

def deleteCheckpointShards (fuel : Nat) (runId checkpointId : String) : PagedClient UInt32 := do
  let objects ← listObjects fuel (checkpointPrefix runId checkpointId)
  deleteShards objects 0

/-! ## What has to go -/

/-- The keys of a checkpoint that are not manifests. -/
def partialKeys (b : Bucket) (runId checkpointId : String) : List String :=
  (b.keysWithPrefix (checkpointPrefix runId checkpointId)).filter (fun key => !isManifestKey key)

/-- An id that extends another one as a string; `/` separates ids. -/
def ExtendsId (id longer : String) : Prop :=
  ∃ first rest, longer.toList = id.toList ++ first :: rest ∧ first ≠ '/'

/-- The bucket after an abort: of the checkpoint only manifests are left, and
everything else is as before. -/
structure Aborted (b b' : Bucket) (runId checkpointId : String) : Prop where
  within : ∀ key, (checkpointPrefix runId checkpointId).toList <+: key.toList →
    b'.get? key = if isManifestKey key then b.get? key else none
  outside : ∀ key, ¬ (checkpointPrefix runId checkpointId).toList <+: key.toList →
    b'.get? key = b.get? key
  extensions : ∀ runId' checkpointId' name,
    (runId' = runId ∧ ExtendsId checkpointId checkpointId') ∨ ExtendsId runId runId' →
    b'.get? (checkpointPrefix runId' checkpointId' ++ name) =
      b.get? (checkpointPrefix runId' checkpointId' ++ name)

/-- What an abort may return, and what it leaves. -/
inductive AbortOutcome (faults : Nat → Fault) (b : Bucket) (runId checkpointId : String) :
    Option (Except String UInt32) × Bucket → Prop
  | ok {n : UInt32} {b' : Bucket} (hleft : Aborted b b' runId checkpointId)
      (hcount : n.toNat = (b.keysLost b').length) :
      AbortOutcome faults b runId checkpointId (some (.ok n), b')
  | error {e : String} {b' : Bucket}
      (honly : ∀ key, b'.get? key = b.get? key ∨ b'.get? key = none ∧
        (checkpointPrefix runId checkpointId).toList <+: key.toList ∧ isManifestKey key = false)
      (hfault : ∃ n, faults n ≠ .none) :
      AbortOutcome faults b runId checkpointId (some (.error e), b')

/-- **An abort removes exactly the partial data**: the listing ends and is
complete, and so does the abort, whichever calls fail. -/
def AbortIsExact (pager : Pager) (b : Bucket) (runId checkpointId : String) : Prop :=
  ∃ enough, ∀ fuel, enough ≤ fuel → ∀ faults : Nat → Fault,
    Listed faults b (checkpointPrefix runId checkpointId)
      ((listObjects fuel (checkpointPrefix runId checkpointId)).outcome pager faults b) ∧
    AbortOutcome faults b runId checkpointId
      ((deleteCheckpointShards fuel runId checkpointId).outcome pager faults b)

/-! ## The prefix of a checkpoint -/

/-- A longer id leads outside the prefix of the shorter one. -/
theorem not_prefix_of_extendsId {runId checkpointId runId' checkpointId' : String} (name : String)
    (h : (runId' = runId ∧ ExtendsId checkpointId checkpointId') ∨ ExtendsId runId runId') :
    ¬ (checkpointPrefix runId checkpointId).toList <+:
      (checkpointPrefix runId' checkpointId' ++ name).toList := by
  have hslash : "/".toList = ['/'] := rfl
  rcases h with ⟨rfl, first, rest, hlonger, hfirst⟩ | ⟨first, rest, hlonger, hfirst⟩
  · simp only [checkpointPrefix, String.toList_append, hlonger, hslash, List.append_assoc,
      List.prefix_append_right_inj, List.cons_append, List.nil_append, List.cons_prefix_cons]
    exact fun h => hfirst h.2.1.symm
  · simp only [checkpointPrefix, String.toList_append, hlonger, hslash, List.append_assoc,
      List.prefix_append_right_inj, List.cons_append, List.nil_append, List.cons_prefix_cons]
    exact fun h => hfirst h.1.symm

theorem mem_partialKeys {b : Bucket} {runId checkpointId key : String} :
    key ∈ partialKeys b runId checkpointId ↔ b.get? key ≠ none ∧
      (checkpointPrefix runId checkpointId).toList <+: key.toList ∧
      isManifestKey key = false := by
  rw [partialKeys, List.mem_filter, Bucket.mem_keysWithPrefix, Bool.not_eq_true', and_assoc]

theorem nodup_partialKeys (b : Bucket) (runId checkpointId : String) :
    (partialKeys b runId checkpointId).Nodup := (b.nodup_keysWithPrefix _).filter _

/-- When the partial keys have gone, the checkpoint is aborted. -/
theorem aborted_of_removed {b b' : Bucket} {runId checkpointId : String}
    (h : Removed b (partialKeys b runId checkpointId) b') : Aborted b b' runId checkpointId := by
  have houtside : ∀ key, ¬ (checkpointPrefix runId checkpointId).toList <+: key.toList →
      b'.get? key = b.get? key := fun key hkey =>
    (h key).trans (if_neg fun hmem => hkey (mem_partialKeys.mp hmem).2.1)
  refine ⟨fun key hkey => ?_, houtside, fun runId' checkpointId' name hids =>
    houtside _ (not_prefix_of_extendsId name hids)⟩
  rw [h key]
  cases hmanifest : isManifestKey key with
  | true => exact if_neg fun hmem => absurd hmanifest (by simp [(mem_partialKeys.mp hmem).2.2])
  | false =>
      by_cases hobject : b.get? key = none
      · rw [hobject, ite_self, ite_self]
      · exact if_pos (mem_partialKeys.mpr ⟨hobject, hkey, hmanifest⟩)

/-! ## The run -/

/-- Skipping the manifests is deleting the others. -/
theorem deleteShards_eq (keys : List String) (deleted : UInt32) :
    deleteShards keys deleted =
      deleteEach (keys.filter (fun key => !isManifestKey key)) deleted := by
  induction keys generalizing deleted with
  | nil => rfl
  | cons key keys ih =>
      cases hmanifest : isManifestKey key with
      | true =>
          rw [deleteShards, if_pos hmanifest, ih, List.filter_cons_of_neg (by simp [hmanifest])]
      | false =>
          have hrest : deleteShards keys (deleted + 1) = _ := ih (deleted + 1)
          rw [deleteShards, if_neg (by simp [hmanifest]), hrest,
            List.filter_cons_of_pos (by simp [hmanifest])]
          rfl

/-- What an abort leaves, and the number it returns: its deletes modulo
`2 ^ 32`. -/
theorem outcome_deleteCheckpointShards (pager : Pager) (b : Bucket) (runId checkpointId : String) :
    ∃ enough, ∀ fuel, enough ≤ fuel → ∀ faults : Nat → Fault,
      Deletion faults b (partialKeys b runId checkpointId) 0
        ((deleteCheckpointShards fuel runId checkpointId).outcome pager faults b) := by
  simp only [deleteCheckpointShards, deleteShards_eq]
  exact outcome_sweep pager b _ _ _ fun keys hperm => hperm.filter _

/-! ## One call for all pages -/

/-- A faultless pass of the deletes that go with a listing in one call. -/
theorem run_deleteShardKeys (keys : List String) (deleted : Nat) (b : Bucket) :
    ∃ b', Removed b (keys.filter (fun key => !isManifestKey key)) b' ∧
      S3Client.outcome (deleteShardKeys keys deleted) b =
        (.ok (deleted + (keys.filter (fun key => !isManifestKey key)).length), b') := by
  induction keys generalizing deleted b with
  | nil => exact ⟨b, .nothing b, rfl⟩
  | cons key keys ih =>
      cases hmanifest : isManifestKey key with
      | true =>
          rw [deleteShardKeys, if_pos hmanifest, List.filter_cons_of_neg (by simp [hmanifest])]
          exact ih deleted b
      | false =>
          obtain ⟨b', hgone, hrun⟩ := ih (deleted + 1) (b.remove key)
          rw [deleteShardKeys, if_neg (by simp [hmanifest]),
            List.filter_cons_of_pos (by simp [hmanifest])]
          refine ⟨b', hgone.cons, Eq.trans hrun ?_⟩
          rw [List.length_cons, Nat.add_assoc, Nat.add_comm 1]

/-- The pages of a listing may count as one call: without faults, the abort that
lists in one call leaves the same objects, and its number is the one that this
abort returns modulo `2 ^ 32`. -/
theorem agrees_with_oneCall (pager : Pager) (b : Bucket) (runId checkpointId : String) :
    ∃ enough, ∀ fuel, enough ≤ fuel → ∃ n b₁ b₂,
      S3Client.outcome (CheckpointRuntime.deleteCheckpointShards runId checkpointId) b =
        (.ok n, b₁) ∧
      (deleteCheckpointShards fuel runId checkpointId).outcome pager (fun _ => .none) b =
        (some (.ok (UInt32.ofNat n)), b₂) ∧ ∀ key, b₁.get? key = b₂.get? key := by
  obtain ⟨b₁, hgone₁, hrun₁⟩ :=
    run_deleteShardKeys (b.keysWithPrefix (checkpointPrefix runId checkpointId)) 0 b
  obtain ⟨enough, hrun⟩ := outcome_deleteCheckpointShards pager b runId checkpointId
  refine ⟨enough, fun fuel hfuel => ?_⟩
  have hdeleted := hrun fuel hfuel fun _ => .none
  generalize (deleteCheckpointShards fuel runId checkpointId).outcome pager (fun _ => .none) b = out
    at hdeleted ⊢
  cases hdeleted with
  | @finished b₂ hgone₂ =>
      refine ⟨_, b₁, b₂, hrun₁, ?_, fun key => (hgone₁ key).trans (hgone₂ key).symm⟩
      rw [UInt32.zero_add, Nat.zero_add]
      rfl
  | brokenOff hsub hgone hfault => exact hfault.elim fun n hn => absurd rfl hn

/-! ## The count -/

/-- The count of a finished abort is right when it fits in 32 bits. -/
theorem count_iff {b b' : Bucket} {runId checkpointId : String}
    (h : Removed b (partialKeys b runId checkpointId) b') :
    (0 + UInt32.ofNat (partialKeys b runId checkpointId).length).toNat =
      (b.keysLost b').length ↔ (partialKeys b runId checkpointId).length < 2 ^ 32 :=
  h.toNat_ofNat_iff (nodup_partialKeys b runId checkpointId) fun _ hkey =>
    (mem_partialKeys.mp hkey).1

/-- With a count that fits in 32 bits everything is as it should be. -/
theorem abortIsExact_of_lt {pager : Pager} {b : Bucket} {runId checkpointId : String}
    (h : (partialKeys b runId checkpointId).length < 2 ^ 32) :
    AbortIsExact pager b runId checkpointId := by
  obtain ⟨enough, hlisted⟩ := outcome_listObjects pager b (checkpointPrefix runId checkpointId)
  obtain ⟨enough', hrun⟩ := outcome_deleteCheckpointShards pager b runId checkpointId
  refine ⟨max enough enough', fun fuel hfuel faults => ⟨hlisted fuel (by omega) faults, ?_⟩⟩
  have hdeleted := hrun fuel (by omega) faults
  generalize (deleteCheckpointShards fuel runId checkpointId).outcome pager faults b = out
    at hdeleted ⊢
  cases hdeleted with
  | finished hgone => exact .ok (aborted_of_removed hgone) ((count_iff hgone).mpr h)
  | brokenOff hsub hgone hfault =>
      refine .error (fun key => ?_) hfault
      rw [hgone key]
      split
      · next hkey => exact Or.inr ⟨rfl, (mem_partialKeys.mp (hsub hkey)).2⟩
      · exact Or.inl rfl

/-- A faultless abort returns a 32-bit number, so there are no more partial keys
than that. -/
theorem lt_of_abortIsExact {pager : Pager} {b : Bucket} {runId checkpointId : String}
    (h : AbortIsExact pager b runId checkpointId) :
    (partialKeys b runId checkpointId).length < 2 ^ 32 := by
  obtain ⟨enough, hexact⟩ := h
  obtain ⟨enough', hrun⟩ := outcome_deleteCheckpointShards pager b runId checkpointId
  have hlaw := (hexact (max enough enough') (by omega) fun _ => .none).2
  have hdeleted := hrun (max enough enough') (by omega) fun _ => .none
  generalize (deleteCheckpointShards (max enough enough') runId checkpointId).outcome pager
    (fun _ => .none) b = out at hlaw hdeleted
  cases hdeleted with
  | finished hgone =>
      cases hlaw with
      | ok hleft hcount => exact (count_iff hgone).mp hcount
  | brokenOff hsub hgone hfault => exact hfault.elim fun n hn => absurd rfl hn

/-- **An abort removes exactly the partial data, and counts it**, if and only if
there are fewer than `2 ^ 32` partial objects. -/
theorem abort_removes_partial_data_iff (pager : Pager) (b : Bucket) (runId checkpointId : String) :
    AbortIsExact pager b runId checkpointId ↔
      (partialKeys b runId checkpointId).length < 2 ^ 32 :=
  ⟨lt_of_abortIsExact, abortIsExact_of_lt⟩

/-! ## A bucket with many shards -/

/-- The key of the `n`-th shard of checkpoint `c` of run `r`. -/
def numberedKey (n : Nat) : String := "r/c/" ++ Nat.repr n

theorem toList_numberedKey (n : Nat) :
    (numberedKey n).toList = 'r' :: '/' :: 'c' :: '/' :: Nat.toDigits 10 n := by
  rw [numberedKey, String.toList_append, Nat.toList_repr]
  rfl

theorem numberedKey_injective {m n : Nat} (h : numberedKey m = numberedKey n) : m = n := by
  have hdigits : Nat.toDigits 10 m = Nat.toDigits 10 n := by
    have hlists := congrArg String.toList h
    simpa only [toList_numberedKey, List.cons.injEq, true_and] using hlists
  rw [← Nat.ofDigitChars_ten_toDigits (n := m), hdigits, Nat.ofDigitChars_ten_toDigits]

/-- The name of a manifest has an underscore, a number has none. -/
theorem isManifestKey_numberedKey (n : Nat) : isManifestKey (numberedKey n) = false := by
  rw [isManifestKey, Bool.eq_false_iff, Ne, List.isSuffixOf_iff_suffix, toList_numberedKey]
  intro h
  have hmem : '_' ∈ 'r' :: '/' :: 'c' :: '/' :: Nat.toDigits 10 n := h.subset (by decide)
  simp [Nat.underscore_not_in_toDigits] at hmem

/-- The shards below a number. -/
def numberedShards (count : Nat) : List S3Object :=
  (List.range count).map fun n => { key := numberedKey n, body := .bytes [] }

theorem map_key_numberedShards (count : Nat) :
    (numberedShards count).map (·.key) = (List.range count).map numberedKey := by
  rw [numberedShards, List.map_map]
  rfl

theorem distinct_numberedShards (count : Nat) : ((numberedShards count).map (·.key)).Nodup := by
  rw [map_key_numberedShards]
  exact List.nodup_range.map fun _ _ h => numberedKey_injective h

/-- A bucket with that many shards of one checkpoint. -/
def manyShards (count : Nat) : Bucket where
  objects := { rows := numberedShards count, distinct := distinct_numberedShards count }
  uploads := fun _ _ => none
  nextUpload := 0

theorem length_partialKeys_manyShards (count : Nat) :
    (partialKeys (manyShards count) "r" "c").length = count := by
  have hprefix : (checkpointPrefix "r" "c").toList = ['r', '/', 'c', '/'] := rfl
  have hall : partialKeys (manyShards count) "r" "c" = (List.range count).map numberedKey := by
    rw [partialKeys, Bucket.keysWithPrefix, List.filter_filter, hprefix]
    show List.filter _ ((numberedShards count).map (·.key)) = _
    rw [map_key_numberedShards, List.filter_eq_self]
    intro key hkey
    obtain ⟨n, -, rfl⟩ := List.mem_map.mp hkey
    rw [isManifestKey_numberedKey, toList_numberedKey]
    rfl
  rw [hall, List.length_map, List.length_range]

/-- With `2 ^ 32` shards the counter is back at zero. -/
theorem abort_miscounts : ¬ AbortIsExact .onePage (manyShards (2 ^ 32)) "r" "c" := by
  intro h
  have hlt := lt_of_abortIsExact h
  rw [length_partialKeys_manyShards] at hlt
  exact Nat.lt_irrefl _ hlt

end GarbageCollector

end CheckpointRuntime
