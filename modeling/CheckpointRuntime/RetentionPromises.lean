import CheckpointRuntime.RetentionPolicy

/-!
# What retention promises

Two promises that a pass keeps under a condition only.  A second pass finds
nothing to delete: a pass ranks the runs by all their objects, also by those
that it is about to delete, so a run that was last written by a stale orphan
looks older afterwards and may lose its place to a run that is kept for its
state.  And an orphan has a grace period: a run that is not retained goes as a
whole, with the uploads it has just received.  A pass whose cutoff raises keeps
both, since it deletes nothing.
-/

namespace CheckpointRuntime

open KeyedTable Grouping StableListing

namespace Snapshot

/-! ## What a run is left with -/

/-- The objects of a run that stand under prefixes with a manifest. -/
def manifestObjectsOfRun (s : Snapshot) (runId : String) : List ListedObject :=
  (s.objectsOfRun runId).filter
    (fun item => decide (∃ p ∈ prefixOf item.key, s.HasManifest p))

/-- When a retained run was last written, stale orphans aside: a run that was
written within the grace period has that object or a manifest as recent. -/
def standing (s : Snapshot) (runId : String) : Int :=
  if s.cutoff ≤ s.runLastWritten runId then s.runLastWritten runId
  else latest (s.manifestObjectsOfRun runId)

/-- The runs with an object that the policy spares, in the order of the first
such object. -/
def lastingRuns (s : Snapshot) : List String :=
  keys (fun item => (prefixOf item.key).map (·.1))
    (s.objects.filter (fun item => decide (¬ s.Doomed item)))

/-- A run that only its recency retains, and that too many others lead once the
stale orphans are gone. -/
structure Overtaken (s : Snapshot) (runId : String) : Prop where
  lasting : runId ∈ s.lastingRuns
  inactive : ¬ s.Active runId
  notNewest : ¬ s.NewestFailed runId
  led : s.config.keepRuns ≤ rank s.standing s.lastingRuns runId

/-- What the next pass decides on, when nothing else happens. -/
def next (s : Snapshot) : Snapshot :=
  { s with objects := s.objects.filter (fun item => decide (¬ s.Doomed item)) }

section
variable {s : Snapshot} {p : String × String} {runId : String}

theorem doomed_iff {item : ListedObject} (hkey : prefixOf item.key = some p) :
    s.Doomed item ↔ s.Expired p := by
  constructor
  · intro h
    obtain ⟨q, hq, hexpired⟩ := h
    rw [hkey] at hq
    exact Option.some.inj hq ▸ hexpired
  · exact fun h => ⟨p, hkey, h⟩

/-- A prefix that has not expired keeps all its objects. -/
theorem objectsOf_next (hp : ¬ s.Expired p) : s.next.objectsOf p = s.objectsOf p := by
  unfold objectsOf next rowsOf
  rw [List.filter_filter]
  apply List.filter_congr
  intro item _
  by_cases hkey : prefixOf item.key = some p
  · simp [hkey, doomed_iff hkey, hp]
  · simp [hkey]

theorem mem_prefixes_next : p ∈ s.next.prefixes ↔ p ∈ s.prefixes ∧ ¬ s.Expired p := by
  rw [mem_prefixes, mem_prefixes]
  constructor
  · intro h
    obtain ⟨item, hitem, hkey⟩ := h
    obtain ⟨hmem, hspared⟩ := List.mem_filter.mp hitem
    rw [decide_eq_true_eq, doomed_iff hkey] at hspared
    exact ⟨⟨item, hmem, hkey⟩, hspared⟩
  · intro h
    obtain ⟨⟨item, hitem, hkey⟩, hspared⟩ := h
    refine ⟨item, List.mem_filter.mpr ⟨hitem, ?_⟩, hkey⟩
    rwa [decide_eq_true_eq, doomed_iff hkey]

theorem hasManifest_next (hp : ¬ s.Expired p) : s.next.HasManifest p ↔ s.HasManifest p := by
  unfold HasManifest
  rw [objectsOf_next hp]

theorem mem_lastingRuns : runId ∈ s.lastingRuns ↔
    ∃ p ∈ s.prefixes, p.1 = runId ∧ ¬ s.Expired p := by
  unfold lastingRuns
  rw [mem_keys]
  constructor
  · intro h
    obtain ⟨item, hitem, hrun⟩ := h
    obtain ⟨p, hkey, rfl⟩ := Option.map_eq_some_iff.mp hrun
    have hp := mem_prefixes_next.mp (mem_prefixes.mpr ⟨item, hitem, hkey⟩)
    exact ⟨p, hp.1, rfl, hp.2⟩
  · intro h
    obtain ⟨p, hp, rfl, hspared⟩ := h
    obtain ⟨item, hitem, hkey⟩ := mem_prefixes.mp (mem_prefixes_next.mpr ⟨hp, hspared⟩)
    exact ⟨item, hitem, by rw [hkey]; rfl⟩

/-- Only a retained run is left with anything. -/
theorem retained_of_lasting (h : runId ∈ s.lastingRuns) : s.Retained runId := by
  obtain ⟨p, hp, rfl, hspared⟩ := mem_lastingRuns.mp h
  by_contra hgone
  exact hspared ⟨hp, Or.inl hgone⟩

/-! ## Inside a retained run -/

/-- Of the prefixes with a manifest the newest stays. -/
theorem exists_newest_manifest (hretained : s.Retained runId)
    (hne : s.manifestPrefixes runId ≠ []) :
    ∃ p ∈ s.manifestPrefixes runId, ¬ s.Expired p ∧
      ∀ q ∈ s.manifestPrefixes runId, s.lastWritten q ≤ s.lastWritten p := by
  have hnodup := s.nodup_manifestPrefixes runId
  cases hfirst : firstLargest s.lastWritten (s.manifestPrefixes runId) with
  | none => exact absurd ((firstLargest_eq_none_iff _).mp hfirst) hne
  | some p =>
      obtain ⟨hp, hleads⟩ := leads_of_firstLargest _ hfirst
      obtain ⟨hrun, hmanifest⟩ := mem_manifestPrefixes.mp hp
      refine ⟨p, hp, ?_, fun q hq => ?_⟩
      · intro h
        rcases h with ⟨_, hgone | ⟨_, hrank⟩ | ⟨hno, _⟩⟩
        · exact hgone (hrun ▸ hretained)
        · -- nothing leads the newest
          have hnone : rank s.lastWritten (s.manifestPrefixes p.1) p = 0 := by
            rw [hrun]
            apply List.countP_eq_zero.mpr
            intro q hq
            rw [decide_eq_true_eq]
            intro hlead
            by_cases hsame : q = p
            · exact Leads.irrefl _ hnodup p (hsame ▸ hlead)
            · exact (hleads q hq hsame).not_swap _ hnodup hlead
          have hpos := s.config.keepCommittedPerRun_pos
          omega
        · exact hno hmanifest
      · by_cases hsame : q = p
        · exact hsame ▸ le_refl _
        · rcases hleads q hq hsame with hlt | ⟨heq, _⟩
          · exact le_of_lt hlt
          · exact le_of_eq heq

theorem mem_objectsOfRun {item : ListedObject} :
    item ∈ s.objectsOfRun runId ↔ ∃ p, p.1 = runId ∧ item ∈ s.objectsOf p := by
  simp only [objectsOfRun, mem_rowsOf, Option.map_eq_some_iff, mem_objectsOf]
  constructor
  · intro h
    obtain ⟨hitem, p, hkey, hrun⟩ := h
    exact ⟨p, hrun, hitem, hkey⟩
  · intro h
    obtain ⟨p, hrun, hitem, hkey⟩ := h
    exact ⟨hitem, p, hkey, hrun⟩

/-- The objects that a run is left with. -/
theorem mem_objectsOfRun_next {item : ListedObject} :
    item ∈ s.next.objectsOfRun runId ↔
      ∃ p, p.1 = runId ∧ ¬ s.Expired p ∧ item ∈ s.objectsOf p := by
  rw [mem_objectsOfRun]
  refine exists_congr fun p => and_congr_right fun _ => ?_
  constructor
  · intro h
    have hspared := (mem_prefixes_next.mp (mem_prefixes_of_object h)).2
    exact ⟨hspared, objectsOf_next hspared ▸ h⟩
  · exact fun h => (objectsOf_next h.1).symm ▸ h.2

theorem mem_manifestObjectsOfRun {item : ListedObject} :
    item ∈ s.manifestObjectsOfRun runId ↔
      ∃ p ∈ s.manifestPrefixes runId, item ∈ s.objectsOf p := by
  simp only [manifestObjectsOfRun, List.mem_filter, decide_eq_true_eq, mem_objectsOfRun,
    mem_manifestPrefixes]
  constructor
  · intro h
    obtain ⟨⟨p, hrun, hitem⟩, q, hq, hmanifest⟩ := h
    obtain rfl : p = q := Option.some.inj ((mem_objectsOf.mp hitem).2.symm.trans hq)
    exact ⟨p, ⟨hrun, hmanifest⟩, hitem⟩
  · intro h
    obtain ⟨p, ⟨hrun, hmanifest⟩, hitem⟩ := h
    exact ⟨⟨p, hrun, hitem⟩, p, (mem_objectsOf.mp hitem).2, hmanifest⟩

/-- An object under a manifest is not newer than all that the run is left
with. -/
theorem exists_kept_newer (hretained : s.Retained runId) {item : ListedObject}
    (hitem : item ∈ s.manifestObjectsOfRun runId) :
    ∃ kept ∈ s.next.objectsOfRun runId, kept ∈ s.manifestObjectsOfRun runId ∧
      item.lastModified ≤ kept.lastModified := by
  obtain ⟨q, hq, hitem⟩ := mem_manifestObjectsOfRun.mp hitem
  obtain ⟨p, hp, hspared, hnewest⟩ :=
    exists_newest_manifest hretained (List.ne_nil_of_mem hq)
  obtain ⟨hrun, hmanifest⟩ := mem_manifestPrefixes.mp hp
  obtain ⟨kept, hkept, hlast⟩ := exists_latest (rowsOf_ne_nil hmanifest.mem_prefixes)
  refine ⟨kept, mem_objectsOfRun_next.mpr ⟨p, hrun, hspared, hkept⟩,
    mem_manifestObjectsOfRun.mpr ⟨p, hp, hkept⟩, ?_⟩
  calc item.lastModified ≤ s.lastWritten q := le_latest hitem
    _ ≤ s.lastWritten p := hnewest q hq
    _ = kept.lastModified := hlast.symm

/-- **Recency after a pass.**  A run that is left with something stands where it
stood without its stale orphans. -/
theorem runLastWritten_next (h : runId ∈ s.lastingRuns) :
    s.next.runLastWritten runId = s.standing runId := by
  have hretained := retained_of_lasting h
  obtain ⟨p, hp, hrun, hspared⟩ := mem_lastingRuns.mp h
  obtain ⟨item, hitem, hkey⟩ := mem_prefixes.mp hp
  have hobject : item ∈ s.objectsOf p := mem_objectsOf.mpr ⟨hitem, hkey⟩
  have hsub : ∀ item ∈ s.next.objectsOfRun runId, item ∈ s.objectsOfRun runId := by
    intro item hitem
    obtain ⟨p, hrun, _, hobject⟩ := mem_objectsOfRun_next.mp hitem
    exact mem_objectsOfRun.mpr ⟨p, hrun, hobject⟩
  unfold standing
  split
  · next hfresh =>
    -- the last write is under a manifest or is no stale orphan
    have hsome : s.objectsOfRun runId ≠ [] :=
      List.ne_nil_of_mem (mem_objectsOfRun.mpr ⟨p, hrun, hobject⟩)
    obtain ⟨last, hlast, hnewest⟩ := exists_latest hsome
    obtain ⟨q, hq, hunder⟩ := mem_objectsOfRun.mp hlast
    by_cases hmanifest : s.HasManifest q
    · obtain ⟨kept, hkept, _, hle⟩ := exists_kept_newer hretained
        (mem_manifestObjectsOfRun.mpr ⟨q, mem_manifestPrefixes.mpr ⟨hq, hmanifest⟩, hunder⟩)
      refine latest_eq_of_subset hsub hkept (le_antisymm (le_latest (hsub kept hkept)) ?_)
      exact hnewest ▸ hle
    · have hstays : ¬ s.Expired q := by
        intro h
        rcases h with ⟨_, hgone | hsuperseded | hstale⟩
        · exact hgone (hq ▸ hretained)
        · exact hmanifest hsuperseded.1
        · have hold := hstale.2 last hunder
          rw [hnewest] at hold
          exact absurd hfresh (not_le.mpr hold)
      exact latest_eq_of_subset hsub (mem_objectsOfRun_next.mpr ⟨q, hq, hstays, hunder⟩) hnewest
  · next hold =>
    -- every orphan of the run is stale
    have hmanifests : ∀ item ∈ s.next.objectsOfRun runId,
        item ∈ s.manifestObjectsOfRun runId := by
      intro item hitem
      obtain ⟨q, hq, hstays, hunder⟩ := mem_objectsOfRun_next.mp hitem
      by_cases hmanifest : s.HasManifest q
      · exact mem_manifestObjectsOfRun.mpr ⟨q, mem_manifestPrefixes.mpr ⟨hq, hmanifest⟩, hunder⟩
      · refine absurd ⟨mem_prefixes_of_object hunder, Or.inr (Or.inr ⟨hmanifest, ?_⟩)⟩ hstays
        intro other hother
        have hle : other.lastModified ≤ s.runLastWritten runId :=
          le_latest (mem_objectsOfRun.mpr ⟨q, hq, hother⟩)
        exact lt_of_le_of_lt hle (not_le.mp hold)
    have hmine := hmanifests item (mem_objectsOfRun_next.mpr ⟨p, hrun, hspared, hobject⟩)
    obtain ⟨last, hlast, hnewest⟩ := exists_latest (List.ne_nil_of_mem hmine)
    obtain ⟨kept, hkept, hunder, hle⟩ := exists_kept_newer hretained hlast
    refine latest_eq_of_subset hmanifests hkept (le_antisymm (le_latest hunder) ?_)
    exact hnewest ▸ hle

/-- What is left of a retained run is neither superseded nor stale. -/
theorem expired_next_iff :
    s.next.Expired p ↔ p ∈ s.next.prefixes ∧ ¬ s.next.Retained p.1 := by
  refine ⟨?_, fun h => ⟨h.1, Or.inl h.2⟩⟩
  intro h
  rcases h with ⟨hp, hgone | ⟨hmanifest, hrank⟩ | ⟨hno, hstale⟩⟩
  · exact ⟨hp, hgone⟩
  · -- no more manifests are left than may be kept
    have hnodup := s.next.nodup_manifestPrefixes p.1
    have hfew := s.length_kept_le p.1 hnodup fun q hq => by
      obtain ⟨hrun, hmanifest⟩ := mem_manifestPrefixes.mp hq
      have hspared := (mem_prefixes_next.mp hmanifest.mem_prefixes).2
      exact ⟨hrun, (hasManifest_next hspared).mp hmanifest, hspared⟩
    have hmem := mem_manifestPrefixes.mpr ⟨rfl, hmanifest⟩
    exact absurd hrank (Nat.not_le.mpr ((rank_lt_length _ hnodup hmem).trans_le hfew))
  · obtain ⟨hlisted, hspared⟩ := mem_prefixes_next.mp hp
    rw [hasManifest_next hspared] at hno
    rw [objectsOf_next hspared] at hstale
    exact absurd ⟨hlisted, Or.inr (Or.inr ⟨hno, hstale⟩)⟩ hspared

theorem retained_next_iff (h : runId ∈ s.lastingRuns) :
    s.next.Retained runId ↔ ¬ s.Overtaken runId := by
  have hrank : rank s.next.runLastWritten s.next.listedRuns runId =
      rank s.standing s.lastingRuns runId :=
    rank_congr h fun other hother => runLastWritten_next hother
  have hrecent : s.next.Recent runId ↔ rank s.standing s.lastingRuns runId < s.config.keepRuns :=
    ⟨fun hr => hrank ▸ hr.2, fun hr => ⟨h, hrank.symm ▸ hr⟩⟩
  constructor
  · intro hretained hover
    rcases hretained with hactive | hnewest | hin
    · exact hover.inactive hactive
    · exact hover.notNewest hnewest
    · exact absurd hover.led (Nat.not_le.mpr (hrecent.mp hin))
  · intro hnot
    by_contra hgone
    refine hnot ⟨h, fun ha => hgone (Or.inl ha), fun hn => hgone (Or.inr (Or.inl hn)), ?_⟩
    exact Nat.le_of_not_lt fun hlt => hgone (Or.inr (Or.inr (hrecent.mpr hlt)))

/-- A second pass finds something to delete when a run is overtaken. -/
theorem exists_expired_next_iff :
    (∃ p, s.next.Expired p) ↔ ∃ runId, s.Overtaken runId := by
  constructor
  · intro h
    obtain ⟨p, hexpired⟩ := h
    obtain ⟨hp, hgone⟩ := expired_next_iff.mp hexpired
    obtain ⟨hlisted, hspared⟩ := mem_prefixes_next.mp hp
    have hlasting := mem_lastingRuns.mpr ⟨p, hlisted, rfl, hspared⟩
    exact ⟨p.1, not_not.mp (mt (retained_next_iff hlasting).mpr hgone)⟩
  · intro h
    obtain ⟨runId, hover⟩ := h
    obtain ⟨p, hlisted, rfl, hspared⟩ := mem_lastingRuns.mp hover.lasting
    refine ⟨p, expired_next_iff.mpr ⟨mem_prefixes_next.mpr ⟨hlisted, hspared⟩, ?_⟩⟩
    exact fun hretained => (retained_next_iff hover.lasting).mp hretained hover

end

end Snapshot

/-! ## Two passes -/

namespace Stores

/-- A second pass at the same instant deletes no object and no record. -/
def SecondPassIdle (config : RetentionConfig) (now : Int) (w : Stores) : Prop :=
  let once := (w.runOnce config now none).1
  let twice := (once.runOnce config now none).1
  twice.bucket.rows = once.bucket.rows ∧
    ∀ id, twice.coordinator.getCheckpoint id = once.coordinator.getCheckpoint id

/-- What the next pass decides on. -/
theorem snapshot_deleteChosen (config : RetentionConfig) (now : Int) (w : Stores) :
    (w.deleteChosen (w.snapshot config now) none).1.snapshot config now =
      (w.snapshot config now).next := by
  let out := (w.deleteChosen (w.snapshot config now) none).1
  have hrows : out.bucket.rows = _ := w.rows_deleted (w.snapshot_objects config now)
  have hruns : out.coordinator.listRuns = w.coordinator.listRuns := by
    obtain ⟨_, hruns, _⟩ :=
      foldl_pruneRecord_frame w.coordinator (w.snapshot config now).toDelete
    exact congrArg (·.rows) hruns
  calc out.snapshot config now
      = { w.snapshot config now with
          objects := out.listObjects
          runs := out.coordinator.listRuns } := rfl
    _ = (w.snapshot config now).next := by
        rw [listObjects_eq, hrows, hruns, Snapshot.next, snapshot_objects]
        rfl

/-- A pass that finds nothing expired deletes nothing, and one that finds
something does. -/
theorem idle_iff {s : Snapshot} {w : Stores} (hs : s.objects = w.bucket.rows) :
    ((w.deleteChosen s none).1.bucket.rows = w.bucket.rows ∧
        ∀ id, (w.deleteChosen s none).1.coordinator.getCheckpoint id =
          w.coordinator.getCheckpoint id) ↔
      ¬ ∃ p, s.Expired p := by
  have hrows : (w.deleteChosen s none).1.bucket.rows = _ := w.rows_deleted hs
  constructor
  · intro h h'
    obtain ⟨hsame, _⟩ := h
    obtain ⟨p, hexpired⟩ := h'
    obtain ⟨item, hitem, hkey⟩ := Snapshot.mem_prefixes.mp hexpired.1
    have hleft : item ∈ (w.deleteChosen s none).1.bucket.rows := hsame ▸ hs ▸ hitem
    rw [hrows, List.mem_filter, decide_eq_true_eq] at hleft
    exact hleft.2 ⟨p, hkey, hexpired⟩
  · intro hnone
    refine ⟨?_, fun id => Option.ext fun info => ?_⟩
    · rw [hrows, List.filter_eq_self]
      intro item _
      rw [decide_eq_true_eq]
      intro h
      obtain ⟨p, _, hexpired⟩ := h
      exact hnone ⟨p, hexpired⟩
    · exact (getCheckpoint_pruned w.coordinator s id info).trans
        (and_iff_left fun hexpired => hnone ⟨_, hexpired⟩)

/-- **When retention is idempotent**: exactly when no run that only its recency
retains is overtaken by the time that the stale orphans are gone, or when both passes
raise. -/
theorem second_pass_idle_iff (config : RetentionConfig) (now : Int) (w : Stores) :
    w.SecondPassIdle config now ↔
      (∀ runId, ¬ (w.snapshot config now).Overtaken runId) ∨
        (w.snapshot config now).cutoff? = none := by
  unfold SecondPassIdle
  dsimp only
  cases hcutoff : (w.snapshot config now).cutoff? with
  | none =>
      rw [runOnce_of_overflow hcutoff, runOnce_of_overflow hcutoff]
      exact iff_of_true ⟨rfl, fun _ => rfl⟩ (Or.inr rfl)
  | some t =>
      -- both passes have the same cutoff
      have hcutoff' :
          ((w.deleteChosen (w.snapshot config now) none).1.snapshot config now).cutoff? = some t :=
        hcutoff
      rw [runOnce_of_cutoff hcutoff, runOnce_of_cutoff hcutoff', idle_iff (snapshot_objects _ _ _),
        snapshot_deleteChosen, Snapshot.exists_expired_next_iff, not_exists]
      exact (or_iff_left (by simp)).symm

/-- A finished run with a checkpoint and a later orphan, and a running one with
a checkpoint in between. -/
def orphanOnTop : Stores where
  bucket :=
    { rows := [{ key := "done/c1/_manifest.json", lastModified := 1 },
        { key := "done/c2/rank-0.bin", lastModified := 3 },
        { key := "live/c3/_manifest.json", lastModified := 2 }]
      distinct := by decide }
  coordinator :=
    { Coordinator.init .inMemoryKVStore with
      runs :=
        { rows := [{ runId := "live", name := "run", state := .running, createdAt := 1,
                     updatedAt := 2, config := soloRun }]
          distinct := by decide } }

/-- With room for one run, the first pass deletes the orphan and keeps the
checkpoint of the finished run; the second pass deletes the checkpoint. -/
theorem second_pass_not_idle :
    ¬ orphanOnTop.SecondPassIdle { keepRuns := 1, keepRuns_pos := Nat.one_pos } 4000000000 := by
  intro h
  exact absurd h.1 (by decide +kernel)

/-! ## The grace period -/

/-- A prefix without a manifest that was written within the grace period. -/
def YoungOrphan (s : Snapshot) (p : String × String) : Prop :=
  ¬ s.HasManifest p ∧ ∃ item ∈ s.objectsOf p, s.cutoff ≤ item.lastModified

/-- A young orphan expires with its run only. -/
theorem YoungOrphan.expired_iff {s : Snapshot} {p : String × String} (h : YoungOrphan s p) :
    s.Expired p ↔ ¬ s.Retained p.1 := by
  obtain ⟨hno, item, hitem, hyoung⟩ := h
  constructor
  · intro h
    rcases h with ⟨_, hgone | hsuperseded | hstale⟩
    · exact hgone
    · exact absurd hsuperseded.1 hno
    · exact absurd (hstale.2 item hitem) (not_lt.mpr hyoung)
  · exact fun hgone => ⟨Snapshot.mem_prefixes_of_object hitem, Or.inl hgone⟩

end Stores

end CheckpointRuntime
