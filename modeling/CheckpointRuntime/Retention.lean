import CheckpointRuntime.CoordinatorOperations
import CheckpointRuntime.Library.Chunking
import CheckpointRuntime.Library.Grouping
import CheckpointRuntime.Library.StableListing
import Mathlib.Data.List.TakeWhile

/-!
# Checkpoint retention

One pass of `retention.py`.  The pass decides on what it has read (the listing,
then the run records, then the clock), deletes objects in batches and then
removes records one by one.  It may be cut short at any of its calls: before
the first delete, in the middle of a batch, and between two records.  It raises
before it deletes anything if the end of the grace period is not a `datetime`.
-/

namespace CheckpointRuntime

open KeyedTable Grouping StableListing Chunking

/-- An entry of an object listing; instants are microseconds since 1970. -/
structure ListedObject where
  key : String
  lastModified : Int
  size : Option Nat := none
deriving DecidableEq, Repr

/-- A bucket, as a listing shows it. -/
abbrev Listing := Table ListedObject (·.key)

/-- The limits of a pass; `from_env` keeps both counts positive. -/
structure RetentionConfig where
  keepCommittedPerRun : Nat := 30
  keepRuns : Nat := 5
  orphanGraceSeconds : Int := 3600
  keepCommittedPerRun_pos : 0 < keepCommittedPerRun := by decide
  keepRuns_pos : 0 < keepRuns := by decide

/-- Exact deletion counts. -/
structure RetentionResult where
  checkpointsDeleted : Nat := 0
  objectsDeleted : Nat := 0
  bytesFreed : Nat := 0
deriving DecidableEq, Repr

/-! ## Keys -/

/-- The text before the first slash and the text after it. -/
def splitAtSlash (text : List Char) : Option (List Char × List Char) :=
  if '/' ∈ text then
    some (text.takeWhile (· ≠ '/'), (text.dropWhile (· ≠ '/')).drop 1)
  else
    none

/-- The run and the checkpoint that a key belongs to: the first two of at least
three parts. -/
def prefixOf (key : String) : Option (String × String) :=
  (splitAtSlash key.toList).bind fun (run, rest) =>
    (splitAtSlash rest).map fun (checkpoint, _) => (String.ofList run, String.ofList checkpoint)

/-- The manifest is the commit signal. -/
def endsWithManifest (key : String) : Bool := "/_manifest.json".toList.isSuffixOf key.toList

/-! ## What a pass decides on -/

/-- What a pass has read before it decides. -/
structure Snapshot where
  config : RetentionConfig
  objects : List ListedObject
  runs : List RunStatus
  now : Int

/-- `timedelta(seconds=...)` in microseconds: it has at most 999999999 days. -/
def timedelta? (seconds : Int) : Option Int :=
  if -999999999 * 86400 ≤ seconds ∧ seconds < 1000000000 * 86400 then
    some (1000000 * seconds)
  else
    none

/-- An instant of the years 1 to 9999. -/
def IsDatetime (t : Int) : Prop := -62135596800000000 ≤ t ∧ t ≤ 253402300799999999

instance (t : Int) : Decidable (IsDatetime t) := inferInstanceAs (Decidable (_ ∧ _))

/-- A `datetime` minus a `timedelta`. -/
def datetimeMinus? (t delta : Int) : Option Int :=
  if IsDatetime (t - delta) then some (t - delta) else none

/-- A checkpoint prefix with all its listed objects. -/
structure ListedPrefix where
  runId : String
  checkpointId : String
  objects : List ListedObject
deriving DecidableEq, Repr

/-- The largest `LastModified`; a group is never empty. -/
def latest (objects : List ListedObject) : Int :=
  ((objects.map (·.lastModified)).max?).getD 0

def activeStates : List RunState := [.running, .checkpointing, .committed, .recovering]

/-- The objects by run and checkpoint. -/
def groupedObjects (objects : List ListedObject) : List ((String × String) × List ListedObject) :=
  grouped (fun item => prefixOf item.key) id objects

/-- The checkpoints by run. -/
def byRun (objects : List ListedObject) :
    List (String × List (String × List ListedObject)) :=
  grouped (fun group => some group.1.1) (fun group => (group.1.2, group.2)) (groupedObjects objects)

namespace Snapshot

def activeRunIds (s : Snapshot) : List String :=
  (s.runs.filter (fun run => decide (run.state ∈ activeStates))).map (·.runId)

def failedRuns (s : Snapshot) : List RunStatus :=
  s.runs.filter (fun run => decide (run.state = .failed))

def newestFailedAt (s : Snapshot) : Option Nat := (s.failedRuns.map (·.updatedAt)).max?

/-- Every failed run that ties for the newest. -/
def recoverableFailedRunIds (s : Snapshot) : List String :=
  (s.failedRuns.filter (fun run => decide (some run.updatedAt = s.newestFailedAt))).map (·.runId)

/-- The runs of the listing, most recently written first. -/
def runRecency (s : Snapshot) : List String :=
  (byKeyDown (fun entry => latest (entry.2.flatMap (·.2))) (byRun s.objects)).map (·.1)

def retainedRunIds (s : Snapshot) : List String :=
  s.activeRunIds ++ s.recoverableFailedRunIds ++ s.runRecency.take s.config.keepRuns

/-- The end of the grace period, as the pass computes it; both operations raise
`OverflowError` outside the range of their type. -/
def cutoff? (s : Snapshot) : Option Int :=
  (timedelta? s.config.orphanGraceSeconds).bind (datetimeMinus? s.now)

/-- The same instant as a number. -/
def cutoff (s : Snapshot) : Int := s.now - 1000000 * s.config.orphanGraceSeconds

/-- A cutoff that does not raise is that instant. -/
theorem eq_cutoff_of_cutoff? {s : Snapshot} {t : Int} (h : s.cutoff? = some t) : t = s.cutoff := by
  obtain ⟨delta, hdelta, ht⟩ := Option.bind_eq_some_iff.mp h
  obtain ⟨_, hdelta⟩ := Option.ite_none_right_eq_some.mp hdelta
  obtain ⟨_, ht⟩ := Option.ite_none_right_eq_some.mp ht
  rw [← Option.some.inj ht, ← Option.some.inj hdelta, cutoff]

def isCommitted (checkpoint : String × List ListedObject) : Bool :=
  checkpoint.2.any (fun item => endsWithManifest item.key)

/-- The checkpoints of a retained run that a pass deletes: committed ones beyond
the newest few, and orphans beyond the grace period. -/
def surplus (s : Snapshot) (checkpoints : List (String × List ListedObject)) :
    List (String × List ListedObject) :=
  (byKeyDown (fun checkpoint => latest checkpoint.2) (checkpoints.filter isCommitted)).drop
      s.config.keepCommittedPerRun ++
    (checkpoints.filter (fun checkpoint => !isCommitted checkpoint)).filter
      (fun checkpoint => decide (latest checkpoint.2 < s.cutoff))

/-- What the pass has chosen to delete. -/
def toDelete (s : Snapshot) : List ListedPrefix :=
  (byRun s.objects).flatMap fun (runId, checkpoints) =>
    let doomed := if runId ∈ s.retainedRunIds then s.surplus checkpoints else checkpoints
    doomed.map fun (checkpointId, objects) =>
      { runId := runId, checkpointId := checkpointId, objects := objects }

def deleteItems (s : Snapshot) : List ListedObject := s.toDelete.flatMap (·.objects)

/-- The batches of `delete_objects`. -/
def batches (s : Snapshot) : List (List ListedObject) := pieces 1000 s.deleteItems

def result (s : Snapshot) : RetentionResult where
  checkpointsDeleted := s.toDelete.length
  objectsDeleted := s.deleteItems.length
  bytesFreed := (s.deleteItems.map (fun item => item.size.getD 0)).sum

end Snapshot

/-! ## What a pass does -/

/-- Delete the listed keys; a key that is not there is no error. -/
def deleteObjects (bucket : Listing) (batch : List ListedObject) : Listing where
  rows := bucket.rows.filter (fun item => decide (item.key ∉ batch.map (·.key)))
  distinct := bucket.distinct.sublist (List.filter_sublist.map _)

/-- Remove the record of a deleted prefix, if it is the record of that run. -/
def pruneRecord (c : Coordinator) (doomed : ListedPrefix) : Coordinator :=
  match c.getCheckpoint doomed.checkpointId with
  | some checkpoint =>
      if checkpoint.runId = doomed.runId then c.deleteCheckpoint doomed.checkpointId else c
  | none => c

/-- Where the calls of a pass cut it short: before it deletes anything; after some whole
batches and a part of the next one, whose call raises or reports errors; or
after some records. -/
inductive Cut
  | reading
  | deleting (batches : Nat) (removed : List String)
  | pruning (records : Nat)
deriving DecidableEq, Repr

/-- The two stores that a pass works on. -/
structure Stores where
  bucket : Listing
  coordinator : Coordinator

namespace Stores

/-- The pages of a listing, put together. -/
def listObjects (w : Stores) : List ListedObject := (pieces 1000 w.bucket.rows).flatten

def snapshot (w : Stores) (config : RetentionConfig) (now : Int) : Snapshot where
  config := config
  objects := w.listObjects
  runs := w.coordinator.listRuns
  now := now

/-- The calls of a pass that has chosen what to delete. -/
def deleteChosen (s : Snapshot) (cut : Option Cut) (w : Stores) :
    Stores × Option RetentionResult :=
  match cut with
  | some .reading => (w, none)
  | some (.deleting done removed) =>
      let torn := ((s.batches[done]?).getD []).filter (fun item => decide (item.key ∈ removed))
      ({ w with bucket := deleteObjects ((s.batches.take done).foldl deleteObjects w.bucket) torn },
        none)
  | some (.pruning records) =>
      ({ bucket := s.batches.foldl deleteObjects w.bucket
         coordinator := (s.toDelete.take records).foldl pruneRecord w.coordinator }, none)
  | none =>
      ({ bucket := s.batches.foldl deleteObjects w.bucket
         coordinator := s.toDelete.foldl pruneRecord w.coordinator }, some s.result)

/-- One retention pass; a pass that is cut short returns nothing, and so does one whose
cutoff raises, before it has chosen anything. -/
def runOnce (config : RetentionConfig) (now : Int) (cut : Option Cut) (w : Stores) :
    Stores × Option RetentionResult :=
  let s := w.snapshot config now
  if s.cutoff?.isSome then w.deleteChosen s cut else (w, none)

section
variable {w : Stores} {config : RetentionConfig} {now : Int}

/-- A pass whose cutoff raises leaves the stores alone. -/
theorem runOnce_of_overflow (h : (w.snapshot config now).cutoff? = none) (cut : Option Cut) :
    w.runOnce config now cut = (w, none) := by
  unfold runOnce
  dsimp only
  rw [h]
  rfl

theorem runOnce_of_cutoff {t : Int} (h : (w.snapshot config now).cutoff? = some t)
    (cut : Option Cut) :
    w.runOnce config now cut = w.deleteChosen (w.snapshot config now) cut := by
  unfold runOnce
  dsimp only
  rw [h]
  rfl

end

/-- The pages together are the listing. -/
@[simp] theorem listObjects_eq (w : Stores) : w.listObjects = w.bucket.rows :=
  flatten_pieces (by decide) _

end Stores

/-! ## Effects of the calls -/

/-- A key has a prefix when it has at least three parts. -/
theorem splitAtSlash_eq_some_iff {text before after : List Char} :
    splitAtSlash text = some (before, after) ↔ '/' ∉ before ∧ text = before ++ '/' :: after := by
  unfold splitAtSlash
  constructor
  · intro h
    split at h
    · next hslash =>
      obtain ⟨rfl, rfl⟩ := Prod.mk.inj (Option.some.inj h)
      refine ⟨fun hmem => by simpa using List.mem_takeWhile_imp hmem, ?_⟩
      cases hrest : text.dropWhile (· ≠ '/') with
      | nil =>
          have hall := List.dropWhile_eq_nil_iff.mp hrest _ hslash
          simp at hall
      | cons c rest =>
          have hc := List.head?_dropWhile_not (· ≠ '/') text
          rw [hrest] at hc
          obtain rfl : c = '/' := by simpa using hc
          conv_lhs => rw [← List.takeWhile_append_dropWhile (p := (· ≠ '/')) (l := text), hrest]
          rfl
    · cases h
  · intro h
    obtain ⟨hno, rfl⟩ := h
    have hall : ∀ c ∈ before, decide (c ≠ '/') = true := fun c hc =>
      decide_eq_true fun heq => hno (heq ▸ hc)
    rw [if_pos (by simp), List.takeWhile_append_of_pos hall, List.dropWhile_append_of_pos hall]
    simp

theorem prefixOf_eq_some_iff {key runId checkpointId : String} :
    prefixOf key = some (runId, checkpointId) ↔ '/' ∉ runId.toList ∧ '/' ∉ checkpointId.toList ∧
      ∃ name, key = runId ++ "/" ++ checkpointId ++ "/" ++ name := by
  unfold prefixOf
  constructor
  · intro h
    obtain ⟨⟨run, rest⟩, hrun, h⟩ := Option.bind_eq_some_iff.mp h
    obtain ⟨⟨checkpoint, name⟩, hcheckpoint, h⟩ := Option.map_eq_some_iff.mp h
    obtain ⟨rfl, rfl⟩ := Prod.mk.inj h
    obtain ⟨hr, hkey⟩ := splitAtSlash_eq_some_iff.mp hrun
    obtain ⟨hc, rfl⟩ := splitAtSlash_eq_some_iff.mp hcheckpoint
    refine ⟨by simpa using hr, by simpa using hc, String.ofList name, ?_⟩
    rw [String.toList_inj.symm, hkey]
    simp
  · intro h
    obtain ⟨hr, hc, name, rfl⟩ := h
    have hrun : splitAtSlash (runId.toList ++ '/' :: (checkpointId.toList ++ '/' :: name.toList)) =
        some (runId.toList, checkpointId.toList ++ '/' :: name.toList) :=
      splitAtSlash_eq_some_iff.mpr ⟨hr, rfl⟩
    have hcheckpoint : splitAtSlash (checkpointId.toList ++ '/' :: name.toList) =
        some (checkpointId.toList, name.toList) :=
      splitAtSlash_eq_some_iff.mpr ⟨hc, rfl⟩
    simp [hrun, hcheckpoint]

/-- Batches delete what their keys name, however they are cut. -/
theorem rows_foldl_deleteObjects (bucket : Listing) (batches : List (List ListedObject)) :
    (batches.foldl deleteObjects bucket).rows =
      bucket.rows.filter (fun item => decide (item.key ∉ batches.flatten.map (·.key))) := by
  induction batches generalizing bucket with
  | nil => simp
  | cons batch batches ih =>
      rw [List.foldl_cons, ih, deleteObjects, List.filter_filter]
      apply List.filter_congr
      intro item _
      simp only [List.flatten_cons, List.map_append, List.mem_append, not_or, Bool.decide_and,
        Bool.and_comm]

theorem getCheckpoint_pruneRecord {c : Coordinator} {doomed : ListedPrefix} {id : String}
    {info : CheckpointInfo} :
    (pruneRecord c doomed).getCheckpoint id = some info ↔
      c.getCheckpoint id = some info ∧
        ¬ (doomed.checkpointId = id ∧ doomed.runId = info.runId) := by
  unfold pruneRecord
  split
  · next found hfound =>
    split
    · next hrun =>
      rw [Coordinator.getCheckpoint_deleteCheckpoint]
      split
      · next hid =>
        subst hid
        refine ⟨nofun, fun h => ?_⟩
        obtain rfl := Option.some.inj (hfound.symm.trans h.1)
        exact absurd ⟨rfl, hrun.symm⟩ h.2
      · next hne => exact ⟨fun h => ⟨h, fun hboth => hne hboth.1.symm⟩, fun h => h.1⟩
    · next hrun =>
      refine ⟨fun h => ⟨h, fun hboth => hrun ?_⟩, fun h => h.1⟩
      obtain ⟨rfl, hsame⟩ := hboth
      obtain rfl := Option.some.inj (hfound.symm.trans h)
      exact hsame.symm
  · next hnone =>
    refine ⟨fun h => ⟨h, fun hboth => ?_⟩, fun h => h.1⟩
    rw [← hboth.1, hnone] at h
    cases h

/-- The records that a loop over prefixes leaves: those that match none. -/
theorem getCheckpoint_foldl_pruneRecord {c : Coordinator} {doomed : List ListedPrefix}
    {id : String} {info : CheckpointInfo} :
    (doomed.foldl pruneRecord c).getCheckpoint id = some info ↔
      c.getCheckpoint id = some info ∧
        ∀ d ∈ doomed, ¬ (d.checkpointId = id ∧ d.runId = info.runId) := by
  induction doomed generalizing c with
  | nil => simp
  | cons d doomed ih =>
      rw [List.foldl_cons, ih, getCheckpoint_pruneRecord, List.forall_mem_cons, and_assoc]

/-- Pruning touches checkpoint records only. -/
theorem foldl_pruneRecord_frame (c : Coordinator) (doomed : List ListedPrefix) :
    (doomed.foldl pruneRecord c).store = c.store ∧ (doomed.foldl pruneRecord c).runs = c.runs ∧
      (doomed.foldl pruneRecord c).fsms = c.fsms := by
  induction doomed generalizing c with
  | nil => exact ⟨rfl, rfl, rfl⟩
  | cons d doomed ih =>
      have hone : (pruneRecord c d).store = c.store ∧ (pruneRecord c d).runs = c.runs ∧
          (pruneRecord c d).fsms = c.fsms := by
        unfold pruneRecord
        split
        · split <;> exact ⟨rfl, rfl, rfl⟩
        · exact ⟨rfl, rfl, rfl⟩
      obtain ⟨hstore, hruns, hfsms⟩ := ih (pruneRecord c d)
      exact ⟨hstore.trans hone.1, hruns.trans hone.2.1, hfsms.trans hone.2.2⟩

end CheckpointRuntime
