import CheckpointRuntime.ShardRoundTrip
import CheckpointRuntime.WriterRuns

/-!
# Failed shard writes

What a shard write leaves in the bucket when it fails.  Its calls are refused
by any pattern; only aborting an upload and deleting an object always go
through.  Until the upload is completed a failure is cleaned up.  The probe, the
copy and the sidecar come after that, and nothing is taken back when the copy or
the sidecar fails.
-/

namespace CheckpointRuntime

open CallProgram Chunking

/-- The call with this number is refused, or it goes through. -/
def refusal (refused : Nat → Bool) (n : Nat) : Fault := if refused n then .refused else .none

/-- Calls are refused by their number, but cleaning up never fails. -/
def refusals (refused : Nat → Bool) (n : Nat) (op : S3Call) : Fault :=
  if op.cleansUp then .none else refusal refused n

/-- The arguments of a shard write, and the UUID that it draws. -/
structure ShardWrite where
  runId : String
  checkpointId : String
  shardId : String
  data : List (Except String Bytes)
  uuid : String
  isUuid : isUuid uuid = true

namespace ShardWrite

section
variable (w : ShardWrite) (sha256 : Bytes → String) (refused : Nat → Bool) (b : Bucket)

def staging : String := stagingKey w.runId w.checkpointId w.shardId w.uuid

def final : String :=
  contentAddressedKey w.runId w.checkpointId w.shardId (sha256 (payload w.data))

/-- The outcome of the write, and the bucket that it leaves. -/
def run : Except String WriteResult × LoggedBucket :=
  (writeShardStream sha256 w.runId w.checkpointId w.shardId w.uuid w.data).run.run
    (bucketService.logged (refusals refused)) (fun _ => ()) (b, [])

/-- A drawn UUID is new: no object and no upload has the staging key. -/
structure Fresh : Prop where
  object : b.get? w.staging = none
  uploads : ∀ uploadId, b.uploads w.staging uploadId = none

/-- The objects of the checkpoint and the open uploads are the same. -/
def Unchanged (b' : Bucket) : Prop :=
  (∀ key, (checkpointPrefix w.runId w.checkpointId).toList <+: key.toList →
    b'.get? key = b.get? key) ∧ b'.uploads = b.uploads

/-- A failed write leaves nothing behind. -/
def LeavesNothing : Prop :=
  ∀ message t, w.run sha256 refused b = (.error message, t) → w.Unchanged b t.1

/-- The number of parts of the upload; its calls have the numbers `1` to this. -/
def parts : Nat := (pieces multipartPartSize (payload w.data)).length

/-- After a completed upload the probe sees an object, or the copy goes through
and so does the sidecar, or the copy stores what was there before. -/
def PromotesCleanly : Prop :=
  Stages (refusal refused) w.data →
    (b.get? (w.final sha256) ≠ none ∧ refused (w.parts + 2) = false) ∨
    (refused (w.parts + 3) = false ∧ (refused (w.parts + 5) = false ∨
      b.get? (w.final sha256) = some (.bytes (payload w.data))))

end

section
variable {w : ShardWrite} {sha256 : Bytes → String} {refused : Nat → Bool} {b : Bucket}

theorem refusals_eq (n : Nat) (op : S3Call) (h : op.cleansUp = false) :
    refusals refused n op = refusal refused n := by
  rw [refusals, h, if_neg Bool.false_ne_true]

theorem refusal_eq_none {n : Nat} : refusal refused n = .none ↔ refused n = false := by
  unfold refusal
  cases refused n <;> decide

theorem refusal_eq_refused {n : Nat} : refusal refused n = .refused ↔ refused n = true := by
  unfold refusal
  cases refused n <;> decide

theorem reliable_refusals : Reliable (refusals refused) := by
  constructor
  · intro n op
    unfold refusals refusal
    split
    · decide
    · split <;> decide
  · intro n op hop
    rw [refusals, if_pos hop]

theorem checkpointPrefix_isPrefix_stagingKey (runId checkpointId shardId uuid : String) :
    (checkpointPrefix runId checkpointId).toList <+:
      (stagingKey runId checkpointId shardId uuid).toList := by
  have hslash : "/".toList <+: "/.multipart-".toList := by decide
  simp only [checkpointPrefix, stagingKey, String.toList_append, List.append_assoc,
    List.prefix_append_right_inj]
  exact hslash.trans (List.prefix_append _ _)

/-- The staged bucket has nothing new but the staged object. -/
theorem uploads_staged (hfresh : w.Fresh b) (bytes : Bytes) :
    (b.numbered.staged w.staging b.nextUpload bytes).uploads = b.uploads :=
  Bucket.uploads_setUpload_none (b := b.numbered) (hfresh.uploads _)

theorem get?_staged (key : String) (bytes : Bytes) :
    (b.numbered.staged w.staging b.nextUpload bytes).get? key =
      if key = w.staging then some (.bytes bytes) else b.get? key :=
  Bucket.get?_store _ _ _ _

theorem final_ne_staging : w.final sha256 ≠ w.staging := contentAddressedKey_ne_stagingKey w.isUuid

theorem answered_promotionCalls {seen : Prop} [Decidable seen] {n : Nat}
    {staging final sidecar checksum : String} :
    Answered (refusals refused) n (promotionCalls seen staging final sidecar checksum) ↔
      if seen then refused (n + 1) = false else refused n = false ∧ refused (n + 2) = false := by
  unfold promotionCalls
  split <;> simp [Answered, finishingCalls, refusals, S3Call.cleansUp, refusal_eq_none]

/-- A bucket that differs from the staged one in the staging key and the final
key at most is unchanged when these two keys are. -/
theorem unchanged_iff (hfresh : w.Fresh b) {b' : Bucket}
    (huploads : b'.uploads = (b.numbered.staged w.staging b.nextUpload (payload w.data)).uploads)
    (hothers : ∀ key, key ≠ w.staging → key ≠ w.final sha256 → b'.get? key =
      (b.numbered.staged w.staging b.nextUpload (payload w.data)).get? key) :
    w.Unchanged b b' ↔
      b'.get? w.staging = none ∧ b'.get? (w.final sha256) = b.get? (w.final sha256) := by
  constructor
  · intro h
    rw [← hfresh.object]
    exact ⟨h.1 _ (checkpointPrefix_isPrefix_stagingKey _ _ _ _),
      h.1 _ (checkpointPrefix_isPrefix_contentAddressedKey _ _ _ _)⟩
  · intro h
    obtain ⟨hgone, hfinal⟩ := h
    refine ⟨fun key _ => ?_, huploads.trans (uploads_staged hfresh _)⟩
    by_cases hkey : key = w.staging
    · rw [hkey, hgone, hfresh.object]
    · by_cases hother : key = w.final sha256
      · rw [hother, hfinal]
      · rw [hothers key hkey hother, get?_staged, if_neg hkey]

/-- The promotion of a completed upload: a success has promoted cleanly, and a
failure leaves nothing exactly when it has. -/
theorem ends_promotion (hfresh : w.Fresh b) (hstages : Stages (refusal refused) w.data) :
    Ends (refusals refused)
      (promoteShard w.runId w.checkpointId w.shardId w.uuid (sha256 (payload w.data))
        (payload w.data).length)
      (b.numbered.staged w.staging b.nextUpload (payload w.data),
        stagingCalls w.staging b.nextUpload (payload w.data))
      (fun _ _ => w.PromotesCleanly sha256 refused b)
      (fun t => w.Unchanged b t.1 ↔ w.PromotesCleanly sha256 refused b) := by
  have hstaged : (b.numbered.staged w.staging b.nextUpload (payload w.data)).get?
      (stagingKey w.runId w.checkpointId w.shardId w.uuid) = some (.bytes (payload w.data)) := by
    rw [get?_staged]
    exact if_pos rfl
  have hfinal : (b.numbered.staged w.staging b.nextUpload (payload w.data)).get?
      (w.final sha256) = b.get? (w.final sha256) := by
    rw [get?_staged, if_neg final_ne_staging]
  have hseen : Seen (refusal refused) (w.final sha256)
      (b.numbered.staged w.staging b.nextUpload (payload w.data),
        stagingCalls w.staging b.nextUpload (payload w.data)) ↔
      (b.get? (w.final sha256) ≠ none ∧ refused (w.parts + 2) = false) := by
    unfold Seen
    rw [hfinal, refusal_eq_none, length_stagingCalls]
    rfl
  have hlog : (stagingCalls w.staging b.nextUpload (payload w.data)).length = w.parts + 2 :=
    length_stagingCalls _ _ _
  have hclean : w.PromotesCleanly sha256 refused b ↔
      (b.get? (w.final sha256) ≠ none ∧ refused (w.parts + 2) = false) ∨
      (refused (w.parts + 3) = false ∧ (refused (w.parts + 5) = false ∨
        b.get? (w.final sha256) = some (.bytes (payload w.data)))) :=
    ⟨fun h => h hstages, fun h _ => h⟩
  refine (ends_promoteShard refusals_eq w.isUuid hstaged).weaken ?_ ?_
  · intro result t h
    obtain ⟨hanswered, -, -⟩ := h
    rw [answered_promotionCalls, hlog] at hanswered
    rw [hclean, ← hseen]
    split at hanswered
    · next h => exact Or.inl h
    · exact Or.inr ⟨hanswered.1, Or.inl hanswered.2⟩
  · intro t h
    obtain ⟨hnot, hget, -, hreliable⟩ := h
    obtain ⟨huploads, hstaging, hothers⟩ := hreliable reliable_refusals
    rw [answered_promotionCalls, hlog] at hnot
    rw [hlog] at hget hstaging
    rw [unchanged_iff hfresh huploads hothers, hclean, ← hseen]
    by_cases h : Seen (refusal refused) (w.final sha256)
        (b.numbered.staged w.staging b.nextUpload (payload w.data),
          stagingCalls w.staging b.nextUpload (payload w.data))
    · -- the probe saw an object, and nothing was copied
      refine iff_of_true ⟨hstaging.trans (if_pos (Or.inl h)), ?_⟩ (Or.inl h)
      exact (hget.trans (if_pos (Or.inl h))).trans hfinal
    · have hfailed : ¬ (refused (w.parts + 3) = false ∧ refused (w.parts + 5) = false) :=
        fun hall => hnot (Eq.mpr (if_neg h) hall)
      cases hcopy : refused (w.parts + 3) with
      | true =>
          -- the copy failed, and the staged object stays
          have hfault : refusal refused (w.parts + 2 + 1) ≠ .none := by
            rw [refusal_eq_refused.mpr hcopy]
            decide
          have hleft := hstaging.trans (if_neg (not_or.mpr ⟨h, hfault⟩))
          refine iff_of_false (fun hgone => ?_) ?_
          · cases hleft.symm.trans hgone.1
          · intro h
            rcases h with hseen' | ⟨hcopied, _⟩
            · exact h hseen'
            · cases hcopied
      | false =>
          have hfault : refusal refused (w.parts + 2 + 1) = .none := refusal_eq_none.mpr hcopy
          have hrefused : refusal refused (w.parts + 2 + 1) ≠ .refused := by
            rw [hfault]
            decide
          have hsidecar : refused (w.parts + 5) = true := by
            rw [← Bool.not_eq_false]
            exact fun hput => hfailed ⟨hcopy, hput⟩
          have hgone := hstaging.trans (if_pos (Or.inr hfault))
          have hcopied := hget.trans (if_neg (not_or.mpr ⟨h, hrefused⟩))
          constructor
          · intro h
            obtain ⟨-, hsame⟩ := h
            exact Or.inr ⟨rfl, Or.inr (hsame.symm.trans hcopied)⟩
          · intro h
            rcases h with hseen' | ⟨-, hput | hbytes⟩
            · exact absurd hseen' h
            · cases hsidecar.symm.trans hput
            · exact ⟨hgone, hcopied.trans hbytes.symm⟩

/-- **A failed shard write leaves nothing behind** exactly when a completed
upload is promoted cleanly. -/
theorem leavesNothing_iff (w : ShardWrite) (sha256 : Bytes → String) (refused : Nat → Bool)
    (b : Bucket) (hfresh : w.Fresh b) :
    w.LeavesNothing sha256 refused b ↔ w.PromotesCleanly sha256 refused b := by
  have hends : Ends (refusals refused)
      (writeShardStream sha256 w.runId w.checkpointId w.shardId w.uuid w.data) (b, [])
      (fun _ _ => w.PromotesCleanly sha256 refused b)
      (fun t => w.Unchanged b t.1 ↔ w.PromotesCleanly sha256 refused b) := by
    apply ends_writeShardStream refusals_eq (ends_promotion hfresh)
    intro hnot t hunstaged
    obtain ⟨hobjects, huploads⟩ :=
      hunstaged.withdrawn reliable_refusals (hfresh.uploads _)
    refine iff_of_true ⟨fun key _ => ?_, huploads⟩ fun hstages => absurd hstages hnot
    rw [Bucket.get?, hobjects]
    rfl
  unfold LeavesNothing
  cases hrun : w.run sha256 refused b with
  | mk outcome t =>
      cases outcome with
      | ok result => exact iff_of_true (fun message t h => (by cases h)) (hends.ok hrun)
      | error message =>
          refine Iff.trans ⟨fun h => h message t rfl, fun h message' t' hsame => ?_⟩
            (hends.error hrun)
          obtain ⟨-, rfl⟩ := Prod.mk.inj hsame
          exact h

theorem isUuid_oneByte :
    CheckpointRuntime.isUuid "123e4567-e89b-42d3-a456-426614174000" = true := by
  decide

/-- A shard of one byte. -/
def oneByte : ShardWrite where
  runId := "run"
  checkpointId := "ckpt"
  shardId := "rank-0"
  data := [.ok [7]]
  uuid := "123e4567-e89b-42d3-a456-426614174000"
  isUuid := isUuid_oneByte

/-- SHA-256, of this byte. -/
def oneByteSha256 (_ : Bytes) : String :=
  "ca358758f6d27e6cf45272937977a748fd88391db679ceda7dc7bf1f005ee879"

/-- The only part is refused. -/
theorem refused_part_leaves_nothing :
    oneByte.LeavesNothing oneByteSha256 (fun n => decide (n = 1)) .empty :=
  (leavesNothing_iff _ _ _ _ ⟨rfl, fun _ => rfl⟩).mpr fun hstages =>
    absurd (hstages.answered 1 (by decide)) (by decide)

/-- The sidecar of a new shard is refused, and the final object stays. -/
theorem refused_sidecar_leaves_object :
    ¬ oneByte.LeavesNothing oneByteSha256 (fun n => decide (n = 6)) .empty := by
  intro h
  have hfails : (oneByte.run oneByteSha256 (fun n => decide (n = 6))
      .empty).1.isOk = false := by decide +kernel
  have hobject : (oneByte.run oneByteSha256 (fun n => decide (n = 6))
      .empty).2.1.get? (oneByte.final oneByteSha256) = some (.bytes [7]) := by
    decide +kernel
  cases hrun : oneByte.run oneByteSha256 (fun n => decide (n = 6)) .empty with
  | mk outcome t =>
      rw [hrun] at hfails hobject
      cases outcome with
      | ok result => cases hfails
      | error message =>
          have hsame := (h message t hrun).1 (oneByte.final oneByteSha256)
            (checkpointPrefix_isPrefix_contentAddressedKey _ _ _ _)
          cases hobject.symm.trans hsame

end

end ShardWrite

end CheckpointRuntime
