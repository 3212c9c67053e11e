import CheckpointRuntime.RetentionPolicy
import CheckpointRuntime.LatestCheckpoint

/-!
# Retention and the recovery point

Recovery restores the committed record of the largest step; retention keeps the
prefixes with the most recent objects.  A pass preserves the recovery point of
a run exactly when the two orders agree far enough: fewer prefixes than may be
kept were written after it, unless the pass raises before it deletes anything.
-/

namespace CheckpointRuntime

open Coordinator StableListing

namespace Stores

/-- The runs that recovery may take up again: active ones, and the newest
failed ones. -/
def Recoverable (s : Snapshot) (runId : String) : Prop := s.Active runId ∨ s.NewestFailed runId

/-- The checkpoint that recovery would restore, if the listing shows its
manifest. -/
structure RecoveryPoint (w : Stores) (s : Snapshot) (runId : String) (info : CheckpointInfo) :
    Prop where
  recoverable : Recoverable s runId
  latest : latestCommitted (w.coordinator.listCheckpoints runId) = some info
  manifest : s.HasManifest (runId, info.checkpointId)

/-- The objects and the record of every recovery point are still there. -/
def KeepsRecoveryPoints (w : Stores) (s : Snapshot) (out : Stores) : Prop :=
  ∀ runId info, w.RecoveryPoint s runId info →
    (∀ item ∈ w.bucket.rows, prefixOf item.key = some (runId, info.checkpointId) →
      item ∈ out.bucket.rows) ∧
    out.coordinator.getCheckpoint info.checkpointId = some info

/-- Few prefixes with a manifest were written after the recovery point. -/
def RecentRecoveryPoints (w : Stores) (s : Snapshot) : Prop :=
  ∀ runId info, w.RecoveryPoint s runId info →
    rank s.lastWritten (s.manifestPrefixes runId) (runId, info.checkpointId) <
      s.config.keepCommittedPerRun

section
variable {w : Stores} {s : Snapshot} {runId : String} {info : CheckpointInfo}

/-- The record of a recovery point is a committed one of its run. -/
theorem RecoveryPoint.committed (h : w.RecoveryPoint s runId info) :
    w.coordinator.getCheckpoint info.checkpointId = some info ∧ info.runId = runId ∧
      info.state = .committed := by
  obtain ⟨hmem, hrun, hstate⟩ := (latestCommitted_eq_some_iff.mp h.latest).1
  exact ⟨getCheckpoint_of_mem hmem, hrun, hstate⟩

/-- The run of a recovery point is retained and its prefix has a manifest, so it
can only be superseded. -/
theorem RecoveryPoint.expired_iff (h : w.RecoveryPoint s runId info) :
    s.Expired (runId, info.checkpointId) ↔ s.config.keepCommittedPerRun ≤
      rank s.lastWritten (s.manifestPrefixes runId) (runId, info.checkpointId) := by
  have hretained : s.Retained runId :=
    h.recoverable.elim Or.inl fun hfailed => Or.inr (Or.inl hfailed)
  constructor
  · intro hexpired
    obtain ⟨_, hgone | hsuperseded | hstale⟩ := hexpired
    · exact absurd hretained hgone
    · exact hsuperseded.2
    · exact absurd h.manifest hstale.1
  · exact fun hrank => ⟨h.manifest.mem_prefixes, Or.inr (Or.inl ⟨h.manifest, hrank⟩)⟩

/-- A pass that spares the recent prefixes spares a recent recovery point. -/
theorem RecentRecoveryPoints.kept {out : Stores} (h : w.RecentRecoveryPoints s)
    (hout : w.Within s out) : w.KeepsRecoveryPoints s out := by
  intro runId info hpoint
  obtain ⟨hfind, hrun, _⟩ := hpoint.committed
  have hspared : ¬ s.Expired (runId, info.checkpointId) := fun hexpired =>
    absurd (hpoint.expired_iff.mp hexpired) (Nat.not_le.mpr (h runId info hpoint))
  refine ⟨fun item hitem hkey => hout.keptObjects item hitem ?_,
    hout.keptRecords _ _ hfind (hrun ▸ hspared)⟩
  intro h
  obtain ⟨p, hp, hexpired⟩ := h
  rw [hkey] at hp
  exact hspared (Option.some.inj hp ▸ hexpired)

end

/-- What deletes nothing preserves every recovery point. -/
theorem keepsRecoveryPoints_self (w : Stores) (s : Snapshot) : w.KeepsRecoveryPoints s w :=
  fun _ _ hpoint => ⟨fun _ hitem _ => hitem, hpoint.committed.1⟩

/-- A pass that deletes what it has chosen preserves recent recovery points only. -/
theorem KeepsRecoveryPoints.recent {w : Stores} {s : Snapshot}
    (h : w.KeepsRecoveryPoints s (w.deleteChosen s none).1) : w.RecentRecoveryPoints s := by
  intro runId info hpoint
  obtain ⟨_, hrun, _⟩ := hpoint.committed
  obtain ⟨_, hrecord⟩ := h runId info hpoint
  apply Nat.lt_of_not_le
  intro hrank
  -- the record of an expired prefix goes
  have hgone := ((getCheckpoint_pruned _ s _ _).mp hrecord).2
  rw [hrun] at hgone
  exact hgone (hpoint.expired_iff.mpr hrank)

/-- **The recovery points that survive.**  A pass that is not cut short preserves every
recovery point exactly when all of them are recent or its cutoff raises; in that case a
pass that is cut short preserves them too. -/
theorem recoveryPoints_kept_iff (config : RetentionConfig) (now : Int) (w : Stores) :
    let s := w.snapshot config now
    (w.KeepsRecoveryPoints s (w.runOnce config now none).1 ↔
        w.RecentRecoveryPoints s ∨ s.cutoff? = none) ∧
      (w.RecentRecoveryPoints s ∨ s.cutoff? = none →
        ∀ cut, w.KeepsRecoveryPoints s (w.runOnce config now cut).1) := by
  intro s
  have hcut : w.RecentRecoveryPoints s ∨ s.cutoff? = none →
      ∀ cut, w.KeepsRecoveryPoints s (w.runOnce config now cut).1 := by
    intro h cut
    rcases h with hrecent | hraises
    · exact hrecent.kept (w.within_runOnce config now cut)
    · rw [runOnce_of_overflow hraises]
      exact w.keepsRecoveryPoints_self s
  refine ⟨⟨fun h => ?_, fun h => hcut h none⟩, hcut⟩
  cases hcutoff : s.cutoff? with
  | none => exact Or.inr rfl
  | some t =>
      rw [runOnce_of_cutoff hcutoff] at h
      exact Or.inl h.recent

/-! ## Two checkpoints in the opposite order -/

/-- A running run whose later checkpoint has the smaller step, as after a
restart from the beginning. -/
def restartedRun : Stores where
  bucket :=
    { rows := [{ key := "a1/c1/_manifest.json", lastModified := 2, size := some 10 },
        { key := "a1/c1/rank-0.bin", lastModified := 1, size := some 64 },
        { key := "a1/c2/_manifest.json", lastModified := 4, size := some 10 },
        { key := "a1/c2/rank-0.bin", lastModified := 3, size := some 64 }]
      distinct := by decide }
  coordinator :=
    { Coordinator.init .inMemoryKVStore with
      runs :=
        { rows := [{ runId := "a1", name := "run", state := .running, createdAt := 1,
                     updatedAt := 2, config := soloRun }]
          distinct := by decide }
      checkpoints :=
        { rows := [{ checkpointId := "c1", runId := "a1", step := 20, state := .committed,
                     createdAt := 1 },
            { checkpointId := "c2", runId := "a1", step := 10, state := .committed,
              createdAt := 2 }]
          distinct := by decide } }

/-- Room for one checkpoint in a run. -/
def keepOne : RetentionConfig where
  keepCommittedPerRun := 1
  keepCommittedPerRun_pos := Nat.one_pos

/-- The pass keeps the checkpoint of step 10 and deletes the one of step 20,
which recovery would have restored. -/
theorem recovery_point_deleted :
    ¬ restartedRun.KeepsRecoveryPoints (restartedRun.snapshot keepOne 5)
      (restartedRun.runOnce keepOne 5 none).1 := by
  intro h
  have hpoint : restartedRun.RecoveryPoint (restartedRun.snapshot keepOne 5) "a1"
      { checkpointId := "c1", runId := "a1", step := 20, state := .committed, createdAt := 1 } :=
    ⟨Or.inl (by decide +kernel), by decide +kernel, by decide +kernel⟩
  exact absurd (h _ _ hpoint).2 (by decide +kernel)

end Stores

end CheckpointRuntime
