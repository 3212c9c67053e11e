import CheckpointRuntime.CheckpointService

/-!
# Storage keys

Every object of a checkpoint lives under the same prefix, and what it is can
be read off the end of its key: `.bin` for shards, `.sha256` for sidecars,
`_manifest.json` for manifests, a UUID for staged uploads.  Keys with
different ends are different; keys with the same end are compared by peeling
off the common part.
-/

namespace CheckpointRuntime

/-- A UUID as the writer prints it: 36 hex digits and hyphens. -/
def isUuid (uuid : String) : Bool :=
  decide (uuid.toList.length = 36) &&
    uuid.toList.all (fun ch =>
      ch.isDigit || (decide ('a' ≤ ch) && decide (ch ≤ 'f')) || decide (ch = '-'))

/-- Of two ends of one list, the shorter one ends the longer one. -/
theorem isSuffix_of_isSuffix {x y l : List Char} (hx : x <:+ l) (hy : y <:+ l)
    (hlen : x.length ≤ y.length) : x <:+ y :=
  List.suffix_of_suffix_length_le hx hy hlen

/-- Two keys differ if the end of one does not end the end of the other. -/
theorem ne_of_isSuffix {a b : String} {x y : List Char} (hx : x <:+ a.toList)
    (hy : y <:+ b.toList) (hlen : x.length ≤ y.length) (hno : ¬ x <:+ y) : a ≠ b := by
  intro h
  subst h
  exact hno (isSuffix_of_isSuffix hx hy hlen)

/-! ## How keys end -/

section
variable (runId checkpointId shardId uuid sha256 : String)

theorem contentAddressedKey_suffix :
    ".bin".toList <:+ (contentAddressedKey runId checkpointId shardId sha256).toList := by
  rw [contentAddressedKey, String.toList_append]
  exact List.suffix_append _ _

theorem sidecarKey_suffix :
    ".sha256".toList <:+ (sidecarKey runId checkpointId shardId).toList := by
  rw [sidecarKey, String.toList_append]
  exact List.suffix_append _ _

theorem manifestKey_suffix :
    "_manifest.json".toList <:+ (manifestKey runId checkpointId).toList := by
  rw [manifestKey, String.toList_append]
  exact List.IsSuffix.trans (by decide) (List.suffix_append _ _)

theorem stagingKey_suffix :
    uuid.toList <:+ (stagingKey runId checkpointId shardId uuid).toList := by
  rw [stagingKey, String.toList_append]
  exact List.suffix_append _ _

end

section
variable {runId checkpointId shardId uuid sha256 : String}
  {runId' checkpointId' shardId' uuid' sha256' : String}

theorem contentAddressedKey_ne_sidecarKey :
    contentAddressedKey runId checkpointId shardId sha256 ≠
      sidecarKey runId' checkpointId' shardId' :=
  ne_of_isSuffix (contentAddressedKey_suffix ..) (sidecarKey_suffix ..) (by decide) (by decide)

theorem contentAddressedKey_ne_manifestKey :
    contentAddressedKey runId checkpointId shardId sha256 ≠ manifestKey runId' checkpointId' :=
  ne_of_isSuffix (contentAddressedKey_suffix ..) (manifestKey_suffix ..) (by decide) (by decide)

theorem sidecarKey_ne_manifestKey :
    sidecarKey runId checkpointId shardId ≠ manifestKey runId' checkpointId' :=
  ne_of_isSuffix (sidecarKey_suffix ..) (manifestKey_suffix ..) (by decide) (by decide)

/-- A string with a character that no UUID has does not end a staging key. -/
theorem stagingKey_ne_of_isSuffix (huuid : isUuid uuid = true) {key : String} {x : List Char}
    (hx : x <:+ key.toList) (hlen : x.length ≤ 36)
    (hchar : ∃ ch ∈ x, (ch.isDigit || (decide ('a' ≤ ch) && decide (ch ≤ 'f')) ||
      decide (ch = '-')) = false) :
    key ≠ stagingKey runId checkpointId shardId uuid := by
  rw [isUuid, Bool.and_eq_true, decide_eq_true_eq, List.all_eq_true] at huuid
  obtain ⟨hlength, hall⟩ := huuid
  apply ne_of_isSuffix hx (stagingKey_suffix ..) (by rw [hlength]; exact hlen)
  intro hsuffix
  obtain ⟨ch, hmem, hno⟩ := hchar
  have hyes := hall ch (hsuffix.subset hmem)
  rw [hno] at hyes
  cases hyes

theorem contentAddressedKey_ne_stagingKey (huuid : isUuid uuid = true) :
    contentAddressedKey runId' checkpointId' shardId' sha256 ≠
      stagingKey runId checkpointId shardId uuid :=
  stagingKey_ne_of_isSuffix huuid (contentAddressedKey_suffix ..) (by decide) ⟨'.', by decide⟩

theorem sidecarKey_ne_stagingKey (huuid : isUuid uuid = true) :
    sidecarKey runId' checkpointId' shardId' ≠ stagingKey runId checkpointId shardId uuid :=
  stagingKey_ne_of_isSuffix huuid (sidecarKey_suffix ..) (by decide) ⟨'.', by decide⟩

theorem manifestKey_ne_stagingKey (huuid : isUuid uuid = true) :
    manifestKey runId' checkpointId' ≠ stagingKey runId checkpointId shardId uuid :=
  stagingKey_ne_of_isSuffix huuid (manifestKey_suffix ..) (by decide) ⟨'_', by decide⟩

/-- Uploads with different UUIDs are staged under different keys. -/
theorem stagingKey_ne (huuid : isUuid uuid = true) (huuid' : isUuid uuid' = true)
    (hne : uuid ≠ uuid') :
    stagingKey runId checkpointId shardId uuid ≠
      stagingKey runId' checkpointId' shardId' uuid' := by
  rw [isUuid, Bool.and_eq_true, decide_eq_true_eq] at huuid huuid'
  refine ne_of_isSuffix (stagingKey_suffix ..) (stagingKey_suffix ..)
    (by rw [huuid.1, huuid'.1]) ?_
  intro hsuffix
  apply hne
  rw [← String.toList_inj]
  exact hsuffix.eq_of_length (by rw [huuid.1, huuid'.1])

end

/-! ## Keys of one checkpoint -/

/-- Within one checkpoint a sidecar belongs to one shard. -/
theorem sidecarKey_inj {runId checkpointId shardId shardId' : String}
    (h : sidecarKey runId checkpointId shardId = sidecarKey runId checkpointId shardId') :
    shardId = shardId' := by
  rw [sidecarKey, sidecarKey, String.append_left_inj, String.append_right_inj] at h
  exact h

/-- Within one checkpoint a content-addressed key names one shard and one
digest prefix. -/
theorem contentAddressedKey_inj {runId checkpointId shardId shardId' sha256 sha256' : String}
    (hlen : 16 ≤ sha256.toList.length) (hlen' : 16 ≤ sha256'.toList.length)
    (h : contentAddressedKey runId checkpointId shardId sha256 =
      contentAddressedKey runId checkpointId shardId' sha256') :
    digestPrefix sha256 = digestPrefix sha256' ∧ shardId = shardId' := by
  rw [contentAddressedKey, contentAddressedKey, String.append_left_inj] at h
  rw [← String.toList_inj] at h
  simp only [String.toList_append, List.append_assoc, List.append_cancel_left_eq] at h
  have hdigests : (digestPrefix sha256).toList.length = (digestPrefix sha256').toList.length := by
    simp only [digestPrefix, String.toList_ofList, List.length_take]
    omega
  obtain ⟨h1, h2⟩ := List.append_inj h hdigests
  rw [String.toList_inj] at h1
  exact ⟨h1, String.toList_inj.mp (List.append_cancel_left h2)⟩

/-! ## Keys of different checkpoints -/

/-- With run ids of one length, a manifest belongs to one checkpoint. -/
theorem manifestKey_inj {runId checkpointId runId' checkpointId' : String}
    (hlen : runId.toList.length = runId'.toList.length)
    (h : manifestKey runId checkpointId = manifestKey runId' checkpointId') :
    runId = runId' ∧ checkpointId = checkpointId' := by
  rw [manifestKey, manifestKey, String.append_left_inj, ← String.toList_inj] at h
  simp only [String.toList_append, List.append_assoc] at h
  obtain ⟨hrun, hrest⟩ := List.append_inj h hlen
  exact ⟨String.toList_inj.mp hrun, String.toList_inj.mp (List.append_cancel_left hrest)⟩

/-- With ids of one length, a content-addressed key names one digest prefix. -/
theorem digestPrefix_of_contentAddressedKey
    {runId checkpointId shardId sha256 runId' checkpointId' shardId' sha256' : String}
    (hrun : runId.toList.length = runId'.toList.length)
    (hcheckpoint : checkpointId.toList.length = checkpointId'.toList.length)
    (hlen : 16 ≤ sha256.toList.length) (hlen' : 16 ≤ sha256'.toList.length)
    (h : contentAddressedKey runId checkpointId shardId sha256 =
      contentAddressedKey runId' checkpointId' shardId' sha256') :
    digestPrefix sha256 = digestPrefix sha256' := by
  rw [contentAddressedKey, contentAddressedKey, String.append_left_inj, ← String.toList_inj] at h
  simp only [String.toList_append, List.append_assoc] at h
  have hdigest : (digestPrefix sha256).toList.length = (digestPrefix sha256').toList.length := by
    simp only [digestPrefix, String.toList_ofList, List.length_take]
    omega
  obtain ⟨_, h⟩ := List.append_inj h hrun
  obtain ⟨_, h⟩ := List.append_inj (List.append_cancel_left h) hcheckpoint
  obtain ⟨hdigests, _⟩ := List.append_inj (List.append_cancel_left h) hdigest
  exact String.toList_inj.mp hdigests

/-- The writer's split of a composite id at its first slash loses nothing of
it: the two parts make up the same key prefix. -/
theorem splitCompositeId_join (runId checkpointId : String) :
    (splitCompositeId (runId ++ "/" ++ checkpointId)).1 ++ "/" ++
      (splitCompositeId (runId ++ "/" ++ checkpointId)).2 = runId ++ "/" ++ checkpointId := by
  have hslash : '/' ∈ (runId ++ "/" ++ checkpointId).toList := by
    simp
  rw [splitCompositeId, if_pos hslash, ← String.toList_inj]
  generalize (runId ++ "/" ++ checkpointId).toList = l at hslash ⊢
  simp only [String.toList_append, String.toList_ofList]
  induction l with
  | nil => cases hslash
  | cons ch l ih =>
      by_cases hch : ch = '/'
      · simp [hch]
      · have hrest : '/' ∈ l := (List.mem_cons.mp hslash).resolve_left (Ne.symm hch)
        simpa [hch] using ih hrest

end CheckpointRuntime
