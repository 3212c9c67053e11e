import CheckpointRuntime.RetentionPolicy
import Mathlib.Data.String.Basic

/-!
# The cron cleanup

`cleanup.sh` is a second retention, written on its own.  It reads the runs from
the REST interface, groups the keys by their first two parts, knows no manifest
and no grace period, and ranks an upload in progress with the committed
checkpoints.  A live recovery point stays exactly as long as few groups of its
run were modified after it.
-/

namespace CheckpointRuntime

open KeyedTable Grouping StableListing Chunking

/-- What the script reads of a record of `/api/runs`; the response model has all
three fields, so its defaults for missing ones never apply. -/
structure RunRecord where
  runId : String
  state : RunState
  updatedAt : String
deriving DecidableEq, Repr

/-- The run and the checkpoint that the script files a key under: the first two
of at least two parts. -/
def firstTwoParts (key : String) : Option (String × String) :=
  (splitAtSlash key.toList).map fun (run, rest) =>
    (String.ofList run, String.ofList (rest.takeWhile (· ≠ '/')))

/-- The settings of the script and what it has read. -/
structure CronCleanup where
  keep : Nat := 30
  keepRuns : Nat := 5
  runRecords : List RunRecord
  bucket : Listing

namespace CronCleanup

variable (c : CronCleanup)

/-! ## The script -/

def activeRunIds : List String :=
  (c.runRecords.filter (fun run => decide (run.state ∈ activeStates))).map (·.runId)

def failedRuns : List RunRecord := c.runRecords.filter (fun run => decide (run.state = .failed))

/-- The largest text, as Python orders strings. -/
def newestFailedAt : Option String := (c.failedRuns.map (·.updatedAt)).max?

def recoverableFailedRunIds : List String :=
  (c.failedRuns.filter (fun run => decide (some run.updatedAt = c.newestFailedAt))).map (·.runId)

/-- The pages of the listing, put together. -/
def allObjects : List ListedObject := (pieces 1000 c.bucket.rows).flatten

def cpObjects : List ((String × String) × List ListedObject) :=
  grouped (fun obj => firstTwoParts obj.key) id c.allObjects

/-- The checkpoints of each run, with the time of the latest modification. -/
def runs : List (String × List (String × Int × List ListedObject)) :=
  grouped (fun group => some group.1.1) (fun group => (group.1.2, latest group.2, group.2))
    c.cpObjects

/-- The largest of the times of a run. -/
def runLatest (cps : List (String × Int × List ListedObject)) : Int :=
  ((cps.map (·.2.1)).max?).getD 0

def orderedRuns : List (String × List (String × Int × List ListedObject)) :=
  byKeyDown (fun item => runLatest item.2) c.runs

def retainedRunIds : List String :=
  c.activeRunIds ++ c.recoverableFailedRunIds ++ (c.orderedRuns.take c.keepRuns).map (·.1)

/-- What the loop deletes, in its order. -/
def toDelete : List ListedObject :=
  c.orderedRuns.flatMap fun (runId, cps) =>
    let sorted := byKeyDown (·.2.1) cps
    (if runId ∈ c.retainedRunIds then sorted.drop c.keep else sorted).flatMap (·.2.2)

/-- One `delete_object` after another. -/
def deleteEach (bucket : Listing) (objs : List ListedObject) : Listing :=
  objs.foldl (fun bucket obj => deleteObjects bucket [obj]) bucket

/-- The deletion loop, or its first calls only when one of them raises; a loop
that ends prints how many objects and bytes it has deleted.  A listing of S3
shows the size of every object. -/
def deletionLoop (calls : Option Nat) : Listing × Option (Nat × Nat) :=
  match calls with
  | none => (deleteEach c.bucket c.toDelete,
      some (c.toDelete.length, (c.toDelete.map (fun obj => obj.size.getD 0)).sum))
  | some n => (deleteEach c.bucket (c.toDelete.take n), none)

/-! ## What it amounts to -/

/-- The groups of the script, in the order of the listing. -/
def pairs : List (String × String) := keys (fun obj => firstTwoParts obj.key) c.bucket.rows

def pairsOf (runId : String) : List (String × String) :=
  c.pairs.filter (fun p => decide (p.1 = runId))

def objectsOf (p : String × String) : List ListedObject :=
  rowsOf (fun obj => firstTwoParts obj.key) c.bucket.rows p

def lastModified (p : String × String) : Int := latest (c.objectsOf p)

/-- A group with its time and its objects, as the script holds it. -/
def entry (p : String × String) : String × Int × List ListedObject :=
  (p.2, c.lastModified p, c.objectsOf p)

/-- The runs of the listing, in its order. -/
def listedRuns : List String := keys (fun obj => (firstTwoParts obj.key).map (·.1)) c.bucket.rows

def runLastModified (runId : String) : Int :=
  (((c.pairsOf runId).map c.lastModified).max?).getD 0

def Active (runId : String) : Prop :=
  ∃ run ∈ c.runRecords, run.runId = runId ∧ run.state ∈ activeStates

/-- The newest failed runs, by what their times mean. -/
def NewestFailed {τ : Type} [LinearOrder τ] (time : String → τ) (runId : String) : Prop :=
  ∃ run ∈ c.runRecords, run.runId = runId ∧ run.state = .failed ∧
    ∀ other ∈ c.runRecords, other.state = .failed → time other.updatedAt ≤ time run.updatedAt

/-- Few runs were modified more recently. -/
def Recent (runId : String) : Prop :=
  runId ∈ c.listedRuns ∧ rank c.runLastModified c.listedRuns runId < c.keepRuns

/-- The runs that the script retains: it compares the times of failed runs as
texts. -/
def Retained (runId : String) : Prop :=
  c.Active runId ∨ c.NewestFailed id runId ∨ c.Recent runId

/-- The groups that the loop deletes. -/
def Doomed (p : String × String) : Prop :=
  p ∈ c.pairs ∧ (c.Retained p.1 → c.keep ≤ rank c.lastModified (c.pairsOf p.1) p)

section
variable {c : CronCleanup} {p : String × String}

@[simp] theorem allObjects_eq : c.allObjects = c.bucket.rows := flatten_pieces (by decide) _

theorem runs_eq :
    c.runs = c.listedRuns.map fun runId => (runId, (c.pairsOf runId).map c.entry) := by
  unfold runs cpObjects
  rw [allObjects_eq]
  exact grouped_grouped _ _ _

theorem mem_pairs : p ∈ c.pairs ↔ ∃ obj ∈ c.bucket.rows, firstTwoParts obj.key = some p :=
  mem_keys

theorem mem_pairsOf {runId : String} : p ∈ c.pairsOf runId ↔ p ∈ c.pairs ∧ p.1 = runId := by
  rw [pairsOf, List.mem_filter, decide_eq_true_eq]

theorem nodup_pairsOf (runId : String) : (c.pairsOf runId).Nodup := (nodup_keys _ _).filter _

theorem mem_objectsOf {obj : ListedObject} :
    obj ∈ c.objectsOf p ↔ obj ∈ c.bucket.rows ∧ firstTwoParts obj.key = some p :=
  mem_rowsOf

theorem mem_retainedRunIds {runId : String} : runId ∈ c.retainedRunIds ↔ c.Retained runId := by
  have hrecent : (c.orderedRuns.take c.keepRuns).map (·.1) =
      (byKeyDown c.runLastModified c.listedRuns).take c.keepRuns := by
    have hkey : (fun runId => runLatest ((c.pairsOf runId).map c.entry)) = c.runLastModified := by
      funext runId
      unfold runLatest runLastModified
      rw [List.map_map]
      rfl
    unfold orderedRuns
    rw [runs_eq, byKeyDown_map, hkey, ← List.map_take, List.map_map]
    exact List.map_id _
  have hnodup : c.listedRuns.Nodup := nodup_keys _ _
  rw [retainedRunIds, hrecent, List.mem_append, List.mem_append,
    mem_take_byKeyDown_iff _ hnodup, or_assoc]
  refine or_congr ?_ (or_congr_left ?_)
  · simp only [activeRunIds, List.mem_map, List.mem_filter, decide_eq_true_eq, Active]
    exact exists_congr fun run =>
      ⟨fun h => ⟨h.1.1, h.2, h.1.2⟩, fun h => ⟨⟨h.1, h.2.2⟩, h.2.1⟩⟩
  · rw [recoverableFailedRunIds, List.mem_map]
    apply exists_congr
    intro run
    rw [newestFailedAt, failedRuns, mem_filter_max_iff]
    simp only [decide_eq_true_eq, id]
    exact ⟨fun h => ⟨h.1.1, h.2, h.1.2⟩, fun h => ⟨⟨h.1, h.2.2⟩, h.2.1⟩⟩

/-- The groups of a run that the loop deletes, in its order. -/
def doomedOf (c : CronCleanup) (runId : String) : List (String × String) :=
  let sorted := byKeyDown c.lastModified (c.pairsOf runId)
  if runId ∈ c.retainedRunIds then sorted.drop c.keep else sorted

theorem mem_doomedOf {runId : String} : p ∈ c.doomedOf runId ↔ c.Doomed p ∧ p.1 = runId := by
  unfold doomedOf
  split
  · next hretained =>
    rw [mem_retainedRunIds] at hretained
    rw [mem_drop_byKeyDown_iff _ (nodup_pairsOf runId), mem_pairsOf]
    constructor
    · intro h
      obtain ⟨⟨hp, rfl⟩, hrank⟩ := h
      exact ⟨⟨hp, fun _ => hrank⟩, rfl⟩
    · intro h
      obtain ⟨⟨hp, hrank⟩, rfl⟩ := h
      exact ⟨⟨hp, rfl⟩, hrank hretained⟩
  · next hgone =>
    rw [mem_byKeyDown, mem_pairsOf]
    constructor
    · intro h
      obtain ⟨hp, rfl⟩ := h
      exact ⟨⟨hp, fun hretained => absurd (mem_retainedRunIds.mpr hretained) hgone⟩, rfl⟩
    · intro h
      obtain ⟨⟨hp, _⟩, rfl⟩ := h
      exact ⟨hp, rfl⟩

/-- The loop deletes the objects of the doomed groups. -/
theorem mem_toDelete {obj : ListedObject} :
    obj ∈ c.toDelete ↔ ∃ p, c.Doomed p ∧ obj ∈ c.objectsOf p := by
  have hrun : ∀ runId, obj ∈ (if runId ∈ c.retainedRunIds then
        (byKeyDown (·.2.1) ((c.pairsOf runId).map c.entry)).drop c.keep
      else byKeyDown (·.2.1) ((c.pairsOf runId).map c.entry)).flatMap (·.2.2) ↔
        ∃ p, (c.Doomed p ∧ p.1 = runId) ∧ obj ∈ c.objectsOf p := by
    intro runId
    simp only [← mem_doomedOf, doomedOf]
    rw [byKeyDown_map, ← List.map_drop, ← apply_ite (List.map c.entry), List.flatMap_map,
      List.mem_flatMap]
    rfl
  unfold toDelete orderedRuns
  rw [runs_eq, List.mem_flatMap]
  constructor
  · intro h
    obtain ⟨item, hitem, hobj⟩ := h
    obtain ⟨runId, _, rfl⟩ := List.mem_map.mp ((mem_byKeyDown _).mp hitem)
    obtain ⟨p, ⟨hdoomed, _⟩, hunder⟩ := (hrun runId).mp hobj
    exact ⟨p, hdoomed, hunder⟩
  · intro h
    obtain ⟨p, hdoomed, hobj⟩ := h
    obtain ⟨hmem, hkey⟩ := mem_objectsOf.mp hobj
    have hlisted : p.1 ∈ c.listedRuns := mem_keys.mpr ⟨obj, hmem, by rw [hkey]; rfl⟩
    exact ⟨_, (mem_byKeyDown _).mpr (List.mem_map_of_mem hlisted),
      (hrun p.1).mpr ⟨p, ⟨hdoomed, rfl⟩, hobj⟩⟩

/-- Deletes one by one remove what their keys name. -/
theorem rows_deleteEach (bucket : Listing) (objs : List ListedObject) :
    (deleteEach bucket objs).rows =
      bucket.rows.filter (fun obj => decide (obj.key ∉ objs.map (·.key))) := by
  have hone : deleteEach bucket objs = (objs.map fun obj => [obj]).foldl deleteObjects bucket := by
    rw [List.foldl_map]
    rfl
  rw [hone, rows_foldl_deleteObjects, ← List.flatMap_def, List.flatMap_singleton']

/-- A call deletes nothing but an object of a doomed group; a loop that ends has
deleted them all. -/
theorem mem_deletionLoop {obj : ListedObject} (hobj : obj ∈ c.objectsOf p) :
    (obj ∈ (c.deletionLoop none).1.rows ↔ ¬ c.Doomed p) ∧
      (¬ c.Doomed p → ∀ calls, obj ∈ (c.deletionLoop calls).1.rows) := by
  obtain ⟨hmem, hkey⟩ := mem_objectsOf.mp hobj
  have hgone : ∀ other ∈ c.toDelete, other.key = obj.key → c.Doomed p := by
    intro other hother hsame
    obtain ⟨q, hdoomed, hunder⟩ := mem_toDelete.mp hother
    obtain ⟨_, hkey'⟩ := mem_objectsOf.mp hunder
    rw [hsame, hkey] at hkey'
    exact Option.some.inj hkey' ▸ hdoomed
  have hkept : ∀ objs, (∀ other ∈ objs, other ∈ c.toDelete) → ¬ c.Doomed p →
      obj ∈ (deleteEach c.bucket objs).rows := by
    intro objs hobjs hspared
    rw [rows_deleteEach]
    refine List.mem_filter.mpr ⟨hmem, decide_eq_true fun hin => hspared ?_⟩
    obtain ⟨other, hother, hsame⟩ := List.mem_map.mp hin
    exact hgone other (hobjs other hother) hsame
  refine ⟨⟨fun hleft hdoomed => ?_, hkept _ fun _ h => h⟩, fun hspared calls => ?_⟩
  · have hleft : obj ∈ (deleteEach c.bucket c.toDelete).rows := hleft
    rw [rows_deleteEach, List.mem_filter, decide_eq_true_eq] at hleft
    exact hleft.2 (List.mem_map_of_mem (mem_toDelete.mpr ⟨p, hdoomed, hobj⟩))
  · cases calls with
    | none => exact hkept _ (fun _ h => h) hspared
    | some n => exact hkept _ (fun _ h => List.mem_of_mem_take h) hspared

/-- A key with a checkpoint prefix is filed under that prefix. -/
theorem firstTwoParts_of_prefixOf {key : String} (h : prefixOf key = some p) :
    firstTwoParts key = some p := by
  unfold prefixOf at h
  unfold firstTwoParts
  obtain ⟨⟨run, rest⟩, hrun, h⟩ := Option.bind_eq_some_iff.mp h
  obtain ⟨⟨checkpoint, name⟩, hcheckpoint, rfl⟩ := Option.map_eq_some_iff.mp h
  rw [hrun, Option.map_some]
  obtain ⟨hno, rfl⟩ := splitAtSlash_eq_some_iff.mp hcheckpoint
  have hall : ∀ ch ∈ checkpoint, decide (ch ≠ '/') = true := fun ch hch =>
    decide_eq_true fun heq => hno (heq ▸ hch)
  show some (String.ofList run,
    String.ofList ((checkpoint ++ '/' :: name).takeWhile (· ≠ '/'))) = _
  rw [List.takeWhile_append_of_pos hall]
  simp

end

/-! ## Live recovery points -/

/-- A run that is active or a newest failed one. -/
def Live {τ : Type} [LinearOrder τ] (time : String → τ) (runId : String) : Prop :=
  c.Active runId ∨ c.NewestFailed time runId

/-- The objects under a checkpoint prefix. -/
def under (p : String × String) : List ListedObject :=
  rowsOf (fun obj => prefixOf obj.key) c.bucket.rows p

/-- The prefixes of a run that have a manifest. -/
def manifestPrefixes (runId : String) : List (String × String) :=
  (keys (fun obj => prefixOf obj.key) c.bucket.rows).filter fun p =>
    decide (p.1 = runId) && (c.under p).any (fun obj => endsWithManifest obj.key)

/-- The prefix with a manifest that a live run would recover from: the most
recently modified one. -/
structure RecoveryPoint {τ : Type} [LinearOrder τ] (time : String → τ)
    (p : String × String) : Prop where
  live : c.Live time p.1
  newest : firstLargest (fun p => latest (c.under p)) (c.manifestPrefixes p.1) = some p

/-- Every live recovery point has all its objects. -/
def KeepsRecoveryPoints {τ : Type} [LinearOrder τ] (time : String → τ) (out : Listing) : Prop :=
  ∀ p, c.RecoveryPoint time p → ∀ obj ∈ c.bucket.rows, prefixOf obj.key = some p →
    obj ∈ out.rows

/-- The run is retained, and few groups of it were modified later. -/
def Spared (p : String × String) : Prop :=
  c.Retained p.1 ∧ rank c.lastModified (c.pairsOf p.1) p < c.keep

/-- A recovery point has an object, and all of them are in its group. -/
theorem RecoveryPoint.objects {τ : Type} [LinearOrder τ] {time : String → τ} {c : CronCleanup}
    {p : String × String} (h : c.RecoveryPoint time p) :
    (∃ obj ∈ c.bucket.rows, prefixOf obj.key = some p) ∧
      ∀ obj ∈ c.bucket.rows, prefixOf obj.key = some p → obj ∈ c.objectsOf p := by
  refine ⟨?_, fun obj hobj hkey => mem_objectsOf.mpr ⟨hobj, firstTwoParts_of_prefixOf hkey⟩⟩
  have hmem := (leads_of_firstLargest _ h.newest).1
  exact mem_keys.mp (List.mem_filter.mp hmem).1

/-- A group with an object is doomed unless it is spared. -/
theorem spared_iff {c : CronCleanup} {p : String × String} {obj : ListedObject}
    (hobj : obj ∈ c.objectsOf p) : c.Spared p ↔ ¬ c.Doomed p := by
  have hp : p ∈ c.pairs := mem_pairs.mpr ⟨obj, mem_objectsOf.mp hobj⟩
  constructor
  · intro h h'
    obtain ⟨hretained, hrank⟩ := h
    obtain ⟨_, hdrop⟩ := h'
    exact absurd (hdrop hretained) (Nat.not_le.mpr hrank)
  · intro hspared
    by_contra hno
    exact hspared ⟨hp, fun hretained => Nat.le_of_not_lt fun hrank => hno ⟨hretained, hrank⟩⟩

/-- **When the cron cleanup keeps the live recovery points**: exactly when the
run of each is retained and few groups of that run, with or without a manifest,
were modified later.  In that case a loop that is cut short keeps them too. -/
theorem recovery_points_kept_iff {τ : Type} [LinearOrder τ] (time : String → τ)
    (c : CronCleanup) :
    (c.KeepsRecoveryPoints time (c.deletionLoop none).1 ↔
        ∀ p, c.RecoveryPoint time p → c.Spared p) ∧
      ((∀ p, c.RecoveryPoint time p → c.Spared p) →
        ∀ calls, c.KeepsRecoveryPoints time (c.deletionLoop calls).1) := by
  have hcut : (∀ p, c.RecoveryPoint time p → c.Spared p) →
      ∀ calls, c.KeepsRecoveryPoints time (c.deletionLoop calls).1 := by
    intro hspared calls p hp obj hobj hkey
    have hgroup := hp.objects.2 obj hobj hkey
    exact (mem_deletionLoop hgroup).2 ((spared_iff hgroup).mp (hspared p hp)) calls
  refine ⟨⟨fun h p hp => ?_, fun h => hcut h none⟩, hcut⟩
  obtain ⟨⟨obj, hobj, hkey⟩, hall⟩ := hp.objects
  have hgroup := hall obj hobj hkey
  exact (spared_iff hgroup).mpr ((mem_deletionLoop hgroup).1.mp (h p hp obj hobj hkey))

/-- A running run with one committed checkpoint, and an upload that has started
after it. -/
def uploadAfterCommit : CronCleanup where
  keep := 1
  runRecords := [{ runId := "a1", state := .running, updatedAt := "2026-01-01T00:00:00Z" }]
  bucket :=
    { rows := [{ key := "a1/c1/_manifest.json", lastModified := 2, size := some 10 },
        { key := "a1/c1/rank-0.bin", lastModified := 1, size := some 64 },
        { key := "a1/c2/rank-0.bin", lastModified := 3, size := some 64 }]
      distinct := by decide }

/-- The loop keeps the upload and deletes the checkpoint. -/
theorem recovery_point_deleted_by_cron :
    ¬ uploadAfterCommit.KeepsRecoveryPoints id (uploadAfterCommit.deletionLoop none).1 := by
  intro h
  have hpoint : uploadAfterCommit.RecoveryPoint id ("a1", "c1") :=
    ⟨Or.inl ⟨_, List.mem_singleton_self _, rfl, by decide⟩, by decide +kernel⟩
  exact absurd (h _ hpoint { key := "a1/c1/rank-0.bin", lastModified := 1, size := some 64 }
    (by decide) (by decide)) (by decide +kernel)

end CronCleanup

end CheckpointRuntime
