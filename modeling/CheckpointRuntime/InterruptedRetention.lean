import CheckpointRuntime.RecoveryPoint

/-!
# Retention passes that are interrupted

A pass deletes objects first and records afterwards, and finds its work in the
listing only.  When it stops in between, the next pass has to find the prefix
again: it prunes the record if the prefix is still listed and still expired,
and never if nothing of the prefix is left (`stranded_stays`).
-/

namespace CheckpointRuntime

namespace Stores

/-- One attempt at a pass, and where it is cut short. -/
structure Attempt where
  config : RetentionConfig
  now : Int
  cut : Option Cut

/-- The stores after some attempts. -/
def after (w : Stores) (attempts : List Attempt) : Stores :=
  attempts.foldl (fun w attempt => (w.runOnce attempt.config attempt.now attempt.cut).1) w

/-- An object of the prefix has been removed. -/
def Lost (w out : Stores) (p : String × String) : Prop :=
  ∃ item ∈ w.bucket.rows, prefixOf item.key = some p ∧ item ∉ out.bucket.rows

/-- No committed record has lost an object. -/
def Converged (w out : Stores) : Prop :=
  ∀ id info, out.coordinator.getCheckpoint id = some info → info.state = .committed →
    ¬ Lost w out (info.runId, id)

/-- No object of the prefix is listed. -/
def Vanished (w : Stores) (p : String × String) : Prop :=
  ∀ item ∈ w.bucket.rows, prefixOf item.key ≠ some p

section
variable {w out : Stores} {s : Snapshot}

theorem mem_prefixes_snapshot {config : RetentionConfig} {now : Int} {p : String × String} :
    p ∈ (w.snapshot config now).prefixes ↔ ∃ item ∈ w.bucket.rows, prefixOf item.key = some p := by
  rw [Snapshot.mem_prefixes, snapshot_objects]

/-- A pass takes nothing from a prefix that has not expired. -/
theorem Within.kept_prefix (h : w.Within s out) {p : String × String} (hp : ¬ s.Expired p)
    {item : ListedObject} (hitem : item ∈ w.bucket.rows) (hkey : prefixOf item.key = some p) :
    item ∈ out.bucket.rows := by
  apply h.keptObjects item hitem
  intro h
  obtain ⟨q, hq, hexpired⟩ := h
  rw [hkey] at hq
  exact hp (Option.some.inj hq ▸ hexpired)

/-- A prefix that has not expired has lost after the pass what it had lost
before. -/
theorem Within.lost_iff {start : Stores} (h : w.Within s out) {p : String × String}
    (hp : ¬ s.Expired p) : Lost start out p ↔ Lost start w p := by
  refine exists_congr fun item => and_congr_right fun _ => and_congr_right fun hkey => ?_
  exact not_congr ⟨fun hout => h.objects item hout, fun hw => h.kept_prefix hp hw hkey⟩

/-- One attempt leaves a record alone whose prefix has vanished. -/
theorem stranded_step (config : RetentionConfig) (now : Int) (cut : Option Cut) {id : String}
    {info : CheckpointInfo} (hrecord : w.coordinator.getCheckpoint id = some info)
    (hgone : w.Vanished (info.runId, id)) :
    (w.runOnce config now cut).1.coordinator.getCheckpoint id = some info ∧
      (w.runOnce config now cut).1.Vanished (info.runId, id) := by
  have hwithin := w.within_runOnce config now cut
  refine ⟨hwithin.keptRecords id info hrecord fun hexpired => ?_,
    fun item hitem => hgone item (hwithin.objects item hitem)⟩
  obtain ⟨item, hitem, hkey⟩ := mem_prefixes_snapshot.mp hexpired.1
  exact hgone item hitem hkey

end

/-- A record whose prefix has vanished is never pruned. -/
theorem stranded_stays (w : Stores) (attempts : List Attempt) {id : String}
    {info : CheckpointInfo} (hrecord : w.coordinator.getCheckpoint id = some info)
    (hgone : w.Vanished (info.runId, id)) :
    (w.after attempts).coordinator.getCheckpoint id = some info ∧
      (w.after attempts).Vanished (info.runId, id) := by
  induction attempts generalizing w with
  | nil => exact ⟨hrecord, hgone⟩
  | cons attempt attempts ih =>
      obtain ⟨hrecord', hgone'⟩ :=
        stranded_step attempt.config attempt.now attempt.cut hrecord hgone
      exact ih _ hrecord' hgone'

/-- **When metadata catches up.**  After any attempts, a pass that is not cut short leaves
no committed record without its objects exactly when each such record that it finds has a
prefix that is still listed and expired, and the cutoff of the pass does not raise. -/
theorem converged_iff (w : Stores) (attempts : List Attempt) (config : RetentionConfig)
    (now : Int) :
    let before := w.after attempts
    Converged w (before.runOnce config now none).1 ↔
      ∀ id info, before.coordinator.getCheckpoint id = some info → info.state = .committed →
        Lost w before (info.runId, id) →
          (before.snapshot config now).Expired (info.runId, id) ∧
            (before.snapshot config now).cutoff?.isSome := by
  intro before
  cases hcutoff : (before.snapshot config now).cutoff? with
  | none =>
      rw [runOnce_of_overflow hcutoff]
      simp [Converged]
  | some t =>
      have hwithin := within_deleteChosen (before.snapshot_objects config now) none
      have hrecords := getCheckpoint_pruned before.coordinator (before.snapshot config now)
      rw [runOnce_of_cutoff hcutoff]
      constructor
      · intro h id info hrecord hstate hlost
        refine ⟨?_, rfl⟩
        by_contra hlive
        apply h id info ((hrecords id info).mpr ⟨hrecord, hlive⟩) hstate
        exact (hwithin.lost_iff hlive).mpr hlost
      · intro h id info hrecord hstate hlost
        obtain ⟨hbefore, hlive⟩ := (hrecords id info).mp hrecord
        exact hlive (h id info hbefore hstate ((hwithin.lost_iff hlive).mp hlost)).1

/-- A pass deletes all objects of a committed checkpoint and stops before its
record; the next pass completes and leaves the record. -/
theorem stranded_record :
    let before := restartedRun.after [{ config := keepOne, now := 5, cut := some (.pruning 0) }]
    ¬ Converged restartedRun (before.runOnce keepOne 6 none).1 := by
  intro before h
  refine h "c1"
    { checkpointId := "c1", runId := "a1", step := 20, state := .committed, createdAt := 1 }
    (by decide +kernel) rfl ?_
  exact ⟨{ key := "a1/c1/_manifest.json", lastModified := 2, size := some 10 },
    by decide +kernel, by decide +kernel, by decide +kernel⟩

end Stores

end CheckpointRuntime
