import CheckpointRuntime.Retention

/-!
# The retention policy

What a pass deletes, stated for one prefix at a time: a prefix expires when its
run is not retained, when enough manifest prefixes of its run were written
after it, or when it has no manifest and only old objects.  The pass groups,
sorts and slices its way to the same set, removes exactly the objects under
expired prefixes and exactly the records that match them, unless its cutoff
raises.
-/

namespace CheckpointRuntime

open KeyedTable Grouping StableListing Chunking

namespace Snapshot

/-! ## The policy -/

/-- The checkpoint prefixes, in the order of the listing. -/
def prefixes (s : Snapshot) : List (String × String) :=
  keys (fun item => prefixOf item.key) s.objects

def objectsOf (s : Snapshot) (p : String × String) : List ListedObject :=
  rowsOf (fun item => prefixOf item.key) s.objects p

/-- The runs that have a prefix, in the order of the listing. -/
def listedRuns (s : Snapshot) : List String :=
  keys (fun item => (prefixOf item.key).map (·.1)) s.objects

def objectsOfRun (s : Snapshot) (runId : String) : List ListedObject :=
  rowsOf (fun item => (prefixOf item.key).map (·.1)) s.objects runId

def lastWritten (s : Snapshot) (p : String × String) : Int := latest (s.objectsOf p)

def runLastWritten (s : Snapshot) (runId : String) : Int := latest (s.objectsOfRun runId)

def HasManifest (s : Snapshot) (p : String × String) : Prop :=
  ∃ item ∈ s.objectsOf p, endsWithManifest item.key = true

instance (s : Snapshot) (p : String × String) : Decidable (s.HasManifest p) :=
  inferInstanceAs (Decidable (∃ item ∈ s.objectsOf p, endsWithManifest item.key = true))

/-- The prefixes of a run that have a manifest. -/
def manifestPrefixes (s : Snapshot) (runId : String) : List (String × String) :=
  s.prefixes.filter (fun p => decide (p.1 = runId ∧ s.HasManifest p))

def Active (s : Snapshot) (runId : String) : Prop :=
  ∃ run ∈ s.runs, run.runId = runId ∧ run.state ∈ activeStates

/-- No other failed run was updated later. -/
def NewestFailed (s : Snapshot) (runId : String) : Prop :=
  ∃ run ∈ s.runs, run.runId = runId ∧ run.state = .failed ∧
    ∀ other ∈ s.runs, other.state = .failed → other.updatedAt ≤ run.updatedAt

/-- Few runs were written more recently. -/
def Recent (s : Snapshot) (runId : String) : Prop :=
  runId ∈ s.listedRuns ∧ rank s.runLastWritten s.listedRuns runId < s.config.keepRuns

def Retained (s : Snapshot) (runId : String) : Prop :=
  s.Active runId ∨ s.NewestFailed runId ∨ s.Recent runId

/-- Enough manifest prefixes of the run were written more recently. -/
def Superseded (s : Snapshot) (p : String × String) : Prop :=
  s.HasManifest p ∧ s.config.keepCommittedPerRun ≤ rank s.lastWritten (s.manifestPrefixes p.1) p

/-- No manifest, and nothing written within the grace period. -/
def Stale (s : Snapshot) (p : String × String) : Prop :=
  ¬ s.HasManifest p ∧ ∀ item ∈ s.objectsOf p, item.lastModified < s.cutoff

/-- The prefixes that the policy deletes. -/
def Expired (s : Snapshot) (p : String × String) : Prop :=
  p ∈ s.prefixes ∧ (¬ s.Retained p.1 ∨ s.Superseded p ∨ s.Stale p)

/-- The objects that the policy deletes. -/
def Doomed (s : Snapshot) (item : ListedObject) : Prop :=
  ∃ p ∈ prefixOf item.key, s.Expired p

instance (s : Snapshot) (runId : String) : Decidable (s.Active runId) :=
  inferInstanceAs (Decidable (∃ run ∈ s.runs, _))

instance (s : Snapshot) (runId : String) : Decidable (s.NewestFailed runId) :=
  inferInstanceAs (Decidable (∃ run ∈ s.runs, _))

instance (s : Snapshot) (runId : String) : Decidable (s.Recent runId) :=
  inferInstanceAs (Decidable (_ ∧ _))

instance (s : Snapshot) (runId : String) : Decidable (s.Retained runId) :=
  inferInstanceAs (Decidable (_ ∨ _))

instance (s : Snapshot) (p : String × String) : Decidable (s.Superseded p) :=
  inferInstanceAs (Decidable (_ ∧ _))

instance (s : Snapshot) (p : String × String) : Decidable (s.Stale p) :=
  inferInstanceAs (Decidable (_ ∧ _))

instance (s : Snapshot) (p : String × String) : Decidable (s.Expired p) :=
  inferInstanceAs (Decidable (_ ∧ _))

instance (s : Snapshot) (item : ListedObject) : Decidable (s.Doomed item) :=
  inferInstanceAs (Decidable (∃ p ∈ prefixOf item.key, s.Expired p))

/-! ## Groups -/

theorem nodup_prefixes (s : Snapshot) : s.prefixes.Nodup := nodup_keys _ _

theorem nodup_listedRuns (s : Snapshot) : s.listedRuns.Nodup := nodup_keys _ _

theorem mem_objectsOf {s : Snapshot} {p : String × String} {item : ListedObject} :
    item ∈ s.objectsOf p ↔ item ∈ s.objects ∧ prefixOf item.key = some p :=
  mem_rowsOf

theorem mem_prefixes {s : Snapshot} {p : String × String} :
    p ∈ s.prefixes ↔ ∃ item ∈ s.objects, prefixOf item.key = some p :=
  mem_keys

/-- A prefix with a listed object is listed. -/
theorem mem_prefixes_of_object {s : Snapshot} {p : String × String} {item : ListedObject}
    (h : item ∈ s.objectsOf p) : p ∈ s.prefixes :=
  mem_prefixes.mpr ⟨item, mem_objectsOf.mp h⟩

theorem HasManifest.mem_prefixes {s : Snapshot} {p : String × String} (h : s.HasManifest p) :
    p ∈ s.prefixes := by
  obtain ⟨item, hitem, _⟩ := h
  exact mem_prefixes_of_object hitem

theorem mem_manifestPrefixes {s : Snapshot} {runId : String} {p : String × String} :
    p ∈ s.manifestPrefixes runId ↔ p.1 = runId ∧ s.HasManifest p := by
  rw [manifestPrefixes, List.mem_filter, decide_eq_true_eq]
  exact ⟨fun h => h.2, fun h => ⟨h.2.mem_prefixes, h⟩⟩

theorem nodup_manifestPrefixes (s : Snapshot) (runId : String) :
    (s.manifestPrefixes runId).Nodup :=
  s.nodup_prefixes.filter _

/-- The prefixes of a run. -/
def prefixesOf (s : Snapshot) (runId : String) : List (String × String) :=
  s.prefixes.filter (fun p => decide (p.1 = runId))

theorem mem_prefixesOf {s : Snapshot} {runId : String} {p : String × String} :
    p ∈ s.prefixesOf runId ↔ p ∈ s.prefixes ∧ p.1 = runId := by
  rw [prefixesOf, List.mem_filter, decide_eq_true_eq]

/-- A prefix with its objects, as the pass holds it under the run. -/
def entry (s : Snapshot) (p : String × String) : String × List ListedObject :=
  (p.2, s.objectsOf p)

theorem byRun_eq (s : Snapshot) :
    byRun s.objects = s.listedRuns.map fun runId => (runId, (s.prefixesOf runId).map s.entry) :=
  grouped_grouped _ _ _

/-- The newest write depends on which objects there are only. -/
theorem latest_congr {l l' : List ListedObject} (h : ∀ item, item ∈ l ↔ item ∈ l') :
    latest l = latest l' := by
  have hmap : ∀ t, t ∈ l.map (·.lastModified) ↔ t ∈ l'.map (·.lastModified) := by
    intro t
    simp only [List.mem_map, h]
  unfold latest
  cases hmax : (l.map (·.lastModified)).max? with
  | none =>
      have hnil := List.max?_eq_none_iff.mp hmax
      have hnil' : l'.map (·.lastModified) = [] := by
        apply List.eq_nil_iff_forall_not_mem.mpr
        intro t ht
        rw [hnil] at hmap
        exact absurd ((hmap t).mpr ht) (List.not_mem_nil)
      rw [hnil']
      rfl
  | some t =>
      rw [List.max?_eq_some_iff] at hmax
      have hmax' : (l'.map (·.lastModified)).max? = some t :=
        List.max?_eq_some_iff.mpr ⟨(hmap t).mp hmax.1, fun u hu => hmax.2 u ((hmap u).mpr hu)⟩
      rw [hmax']

/-- Every object of a nonempty group is older than a time when the newest is. -/
theorem latest_lt_iff {l : List ListedObject} (hne : l ≠ []) {t : Int} :
    latest l < t ↔ ∀ item ∈ l, item.lastModified < t := by
  unfold latest
  cases hmax : (l.map (·.lastModified)).max? with
  | none => exact absurd (List.map_eq_nil_iff.mp (List.max?_eq_none_iff.mp hmax)) hne
  | some newest =>
      obtain ⟨hmem, hle⟩ := List.max?_eq_some_iff.mp hmax
      rw [Option.getD_some]
      constructor
      · intro hlt item hitem
        exact lt_of_le_of_lt (hle _ (List.mem_map_of_mem hitem)) hlt
      · intro hall
        obtain ⟨item, hitem, rfl⟩ := List.mem_map.mp hmem
        exact hall item hitem

theorem le_latest {l : List ListedObject} {item : ListedObject} (h : item ∈ l) :
    item.lastModified ≤ latest l := by
  by_contra hgt
  exact lt_irrefl _ ((latest_lt_iff (List.ne_nil_of_mem h)).mp (not_le.mp hgt) item h)

/-- The newest write is one of the writes. -/
theorem exists_latest {l : List ListedObject} (hne : l ≠ []) :
    ∃ item ∈ l, item.lastModified = latest l := by
  by_contra hno
  have hlt : latest l < latest l := (latest_lt_iff hne).mpr fun item hitem =>
    lt_of_le_of_ne (le_latest hitem) fun heq => hno ⟨item, hitem, heq⟩
  exact lt_irrefl _ hlt

/-- Objects may go, as long as one that was written last stays. -/
theorem latest_eq_of_subset {l l' : List ListedObject} (hsub : ∀ item ∈ l', item ∈ l)
    {item : ListedObject} (hitem : item ∈ l') (hlast : item.lastModified = latest l) :
    latest l' = latest l := by
  obtain ⟨newest, hnewest, heq⟩ := exists_latest (List.ne_nil_of_mem hitem)
  refine le_antisymm ?_ ?_
  · rw [← heq]
    exact le_latest (hsub newest hnewest)
  · rw [← hlast]
    exact le_latest hitem

/-! ## Retained runs -/

theorem runRecency_eq (s : Snapshot) :
    s.runRecency = byKeyDown s.runLastWritten s.listedRuns := by
  unfold runRecency
  rw [byRun_eq, byKeyDown_map, List.map_map]
  have hkey : (fun runId => latest (((s.prefixesOf runId).map s.entry).flatMap (·.2))) =
      s.runLastWritten := by
    funext runId
    apply latest_congr
    intro item
    simp only [List.mem_flatMap, List.mem_map, exists_exists_and_eq_and, entry, mem_prefixesOf,
      mem_objectsOf, objectsOfRun, mem_rowsOf, Option.map_eq_some_iff]
    constructor
    · intro h
      obtain ⟨p, ⟨_, hrun⟩, hitem, hp⟩ := h
      exact ⟨hitem, p, hp, hrun⟩
    · intro h
      obtain ⟨hitem, p, hp, hrun⟩ := h
      exact ⟨p, ⟨mem_prefixes.mpr ⟨item, hitem, hp⟩, hrun⟩, hitem, hp⟩
  rw [hkey]
  exact List.map_id _

theorem mem_activeRunIds {s : Snapshot} {runId : String} :
    runId ∈ s.activeRunIds ↔ s.Active runId := by
  simp only [activeRunIds, List.mem_map, List.mem_filter, decide_eq_true_eq, Active]
  exact exists_congr fun run => ⟨fun h => ⟨h.1.1, h.2, h.1.2⟩, fun h => ⟨⟨h.1, h.2.2⟩, h.2.1⟩⟩

theorem mem_recoverableFailedRunIds {s : Snapshot} {runId : String} :
    runId ∈ s.recoverableFailedRunIds ↔ s.NewestFailed runId := by
  rw [recoverableFailedRunIds, List.mem_map]
  apply exists_congr
  intro run
  rw [newestFailedAt, failedRuns, mem_filter_max_iff]
  simp only [decide_eq_true_eq]
  exact ⟨fun h => ⟨h.1.1, h.2, h.1.2⟩, fun h => ⟨⟨h.1, h.2.2⟩, h.2.1⟩⟩

theorem mem_retainedRunIds {s : Snapshot} {runId : String} :
    runId ∈ s.retainedRunIds ↔ s.Retained runId := by
  rw [retainedRunIds, List.mem_append, List.mem_append, mem_activeRunIds,
    mem_recoverableFailedRunIds, runRecency_eq, mem_take_byKeyDown_iff _ s.nodup_listedRuns,
    or_assoc]
  rfl

/-! ## What is chosen -/

theorem isCommitted_entry (s : Snapshot) (p : String × String) :
    isCommitted (s.entry p) = decide (s.HasManifest p) := by
  rw [Bool.eq_iff_iff, decide_eq_true_eq, isCommitted, List.any_eq_true]
  rfl

/-- The prefixes of a retained run that the pass chooses. -/
def surplusPrefixes (s : Snapshot) (runId : String) : List (String × String) :=
  (byKeyDown s.lastWritten (s.manifestPrefixes runId)).drop s.config.keepCommittedPerRun ++
    ((s.prefixesOf runId).filter (fun p => decide (¬ s.HasManifest p))).filter
      (fun p => decide (s.lastWritten p < s.cutoff))

theorem surplus_eq (s : Snapshot) (runId : String) :
    s.surplus ((s.prefixesOf runId).map s.entry) = (s.surplusPrefixes runId).map s.entry := by
  have hcommitted : (s.prefixesOf runId).filter (fun p => decide (s.HasManifest p)) =
      s.manifestPrefixes runId := by
    simp only [prefixesOf, manifestPrefixes, List.filter_filter, Bool.decide_and, Bool.and_comm]
  unfold surplus surplusPrefixes
  rw [List.map_append, List.filter_map, List.filter_map, List.filter_map, byKeyDown_map,
    ← List.map_drop]
  simp only [Function.comp_def, isCommitted_entry, hcommitted, decide_not]
  rfl

theorem mem_surplusPrefixes {s : Snapshot} {runId : String} {p : String × String} :
    p ∈ s.surplusPrefixes runId ↔
      p ∈ s.prefixesOf runId ∧ (s.Superseded p ∨ s.Stale p) := by
  rw [surplusPrefixes, List.mem_append, mem_drop_byKeyDown_iff _ (s.nodup_manifestPrefixes runId)]
  simp only [List.mem_filter, decide_eq_true_eq, mem_manifestPrefixes, mem_prefixesOf]
  constructor
  · intro h
    rcases h with ⟨⟨rfl, hmanifest⟩, hrank⟩ | ⟨⟨⟨hp, hrun⟩, hno⟩, hold⟩
    · exact ⟨⟨hmanifest.mem_prefixes, rfl⟩, Or.inl ⟨hmanifest, hrank⟩⟩
    · exact ⟨⟨hp, hrun⟩, Or.inr ⟨hno, (latest_lt_iff (rowsOf_ne_nil hp)).mp hold⟩⟩
  · intro h
    obtain ⟨⟨hp, rfl⟩, ⟨hmanifest, hrank⟩ | ⟨hno, hold⟩⟩ := h
    · exact Or.inl ⟨⟨rfl, hmanifest⟩, hrank⟩
    · exact Or.inr ⟨⟨⟨hp, rfl⟩, hno⟩, (latest_lt_iff (rowsOf_ne_nil hp)).mpr hold⟩

theorem nodup_surplusPrefixes (s : Snapshot) (runId : String) :
    (s.surplusPrefixes runId).Nodup := by
  refine List.nodup_append.mpr ⟨?_, ?_, ?_⟩
  · exact (nodup_byKeyDown _ (s.nodup_manifestPrefixes runId)).sublist (List.drop_sublist _ _)
  · exact ((s.nodup_prefixes.filter _).filter _).filter _
  · -- a prefix has a manifest or has none
    intro p hp q hq hpq
    subst hpq
    have hmanifest := (mem_byKeyDown _).mp (List.mem_of_mem_drop hp)
    have hno := (List.mem_filter.mp (List.mem_filter.mp hq).1).2
    exact absurd (mem_manifestPrefixes.mp hmanifest).2 (of_decide_eq_true hno)

/-- The prefixes of a run that the pass chooses. -/
def doomedPrefixes (s : Snapshot) (runId : String) : List (String × String) :=
  if runId ∈ s.retainedRunIds then s.surplusPrefixes runId else s.prefixesOf runId

theorem mem_doomedPrefixes {s : Snapshot} {runId : String} {p : String × String} :
    p ∈ s.doomedPrefixes runId ↔ s.Expired p ∧ p.1 = runId := by
  unfold doomedPrefixes
  split
  · next hretained =>
    rw [mem_surplusPrefixes, mem_prefixesOf]
    have hyes := mem_retainedRunIds.mp hretained
    constructor
    · intro h
      obtain ⟨⟨hp, hrun⟩, hchosen⟩ := h
      exact ⟨⟨hp, Or.inr hchosen⟩, hrun⟩
    · intro h
      obtain ⟨⟨hp, hchosen⟩, rfl⟩ := h
      exact ⟨⟨hp, rfl⟩, hchosen.resolve_left (not_not.mpr hyes)⟩
  · next hgone =>
    rw [mem_prefixesOf]
    have hno := mt mem_retainedRunIds.mpr hgone
    constructor
    · intro h
      exact ⟨⟨h.1, Or.inl (h.2 ▸ hno)⟩, h.2⟩
    · exact fun h => ⟨h.1.1, h.2⟩

theorem nodup_doomedPrefixes (s : Snapshot) (runId : String) : (s.doomedPrefixes runId).Nodup := by
  unfold doomedPrefixes
  split
  · exact s.nodup_surplusPrefixes runId
  · exact s.nodup_prefixes.filter _

/-- All prefixes that the pass chooses, in its order. -/
def chosen (s : Snapshot) : List (String × String) := s.listedRuns.flatMap s.doomedPrefixes

/-- A prefix with its objects, as the pass has chosen it. -/
def listedPrefix (s : Snapshot) (p : String × String) : ListedPrefix where
  runId := p.1
  checkpointId := p.2
  objects := s.objectsOf p

theorem toDelete_eq (s : Snapshot) : s.toDelete = s.chosen.map s.listedPrefix := by
  unfold toDelete chosen
  rw [byRun_eq, List.flatMap_map, List.map_flatMap]
  apply List.flatMap_congr
  intro runId _
  have hdoomed : (if runId ∈ s.retainedRunIds then s.surplus ((s.prefixesOf runId).map s.entry)
      else (s.prefixesOf runId).map s.entry) = (s.doomedPrefixes runId).map s.entry := by
    unfold doomedPrefixes
    rw [surplus_eq]
    split <;> rfl
  dsimp only
  rw [hdoomed, List.map_map]
  apply List.map_congr_left
  intro p hp
  obtain ⟨_, rfl⟩ := mem_doomedPrefixes.mp hp
  rfl

theorem mem_chosen {s : Snapshot} {p : String × String} : p ∈ s.chosen ↔ s.Expired p := by
  simp only [chosen, List.mem_flatMap, mem_doomedPrefixes]
  constructor
  · exact fun ⟨_, _, h, _⟩ => h
  · intro h
    obtain ⟨item, hitem, hp⟩ := mem_prefixes.mp h.1
    exact ⟨p.1, mem_keys.mpr ⟨item, hitem, by rw [hp]; rfl⟩, h, rfl⟩

theorem nodup_chosen (s : Snapshot) : s.chosen.Nodup := by
  refine List.nodup_flatMap.mpr ⟨fun runId _ => s.nodup_doomedPrefixes runId, ?_⟩
  refine (nodup_keys _ _).imp fun {a b} hab => ?_
  intro p hpa hpb
  exact hab ((mem_doomedPrefixes.mp hpa).2.symm.trans (mem_doomedPrefixes.mp hpb).2)

/-- The pass chooses each expired prefix once. -/
theorem chosen_perm (s : Snapshot) :
    s.chosen.Perm (s.prefixes.filter (fun p => decide (s.Expired p))) := by
  apply (List.perm_ext_iff_of_nodup s.nodup_chosen (s.nodup_prefixes.filter _)).mpr
  intro p
  rw [mem_chosen, List.mem_filter, decide_eq_true_eq]
  exact ⟨fun h => ⟨h.1, h⟩, fun h => h.2⟩

theorem deleteItems_eq (s : Snapshot) : s.deleteItems = s.chosen.flatMap s.objectsOf := by
  rw [deleteItems, toDelete_eq, List.flatMap_map]
  rfl

theorem mem_deleteItems {s : Snapshot} {item : ListedObject} :
    item ∈ s.deleteItems ↔ item ∈ s.objects ∧ s.Doomed item := by
  simp only [deleteItems_eq, List.mem_flatMap, mem_chosen, mem_objectsOf, Doomed,
    Option.mem_def]
  exact ⟨fun ⟨p, hp, hitem, hkey⟩ => ⟨hitem, p, hkey, hp⟩,
    fun ⟨hitem, p, hkey, hp⟩ => ⟨p, hp, hitem, hkey⟩⟩

/-- The pass deletes each doomed object once. -/
theorem deleteItems_perm {s : Snapshot} (hs : s.objects.Nodup) :
    s.deleteItems.Perm (s.objects.filter (fun item => decide (s.Doomed item))) := by
  have hnodup : s.deleteItems.Nodup := by
    rw [deleteItems_eq]
    refine List.nodup_flatMap.mpr ⟨fun p _ => hs.filter _, s.nodup_chosen.imp fun {p q} hpq => ?_⟩
    intro item hp hq
    exact hpq (Option.some.inj ((mem_objectsOf.mp hp).2.symm.trans (mem_objectsOf.mp hq).2))
  apply (List.perm_ext_iff_of_nodup hnodup (hs.filter _)).mpr
  intro item
  rw [mem_deleteItems, List.mem_filter, decide_eq_true_eq]

/-- Every chosen object goes into one batch. -/
theorem flatten_batches (s : Snapshot) : s.batches.flatten = s.deleteItems :=
  flatten_pieces (by decide) _

/-- Few prefixes with a manifest are not expired. -/
theorem length_kept_le (s : Snapshot) (runId : String) {kept : List (String × String)}
    (hnodup : kept.Nodup)
    (hkept : ∀ p ∈ kept, p.1 = runId ∧ s.HasManifest p ∧ ¬ s.Expired p) :
    kept.length ≤ s.config.keepCommittedPerRun := by
  have hnodup' := s.nodup_manifestPrefixes runId
  have hsubset : kept ⊆ (byKeyDown s.lastWritten (s.manifestPrefixes runId)).take
      s.config.keepCommittedPerRun := by
    intro p hp
    obtain ⟨rfl, hmanifest, hno⟩ := hkept p hp
    rw [mem_take_byKeyDown_iff _ hnodup', mem_manifestPrefixes]
    refine ⟨⟨rfl, hmanifest⟩, Nat.lt_of_not_le fun hle => hno ?_⟩
    exact ⟨hmanifest.mem_prefixes, Or.inr (Or.inl ⟨hmanifest, hle⟩)⟩
  exact (List.subperm_of_subset hnodup hsubset).length_le.trans (List.length_take_le _ _)

end Snapshot

/-! ## The pass follows the policy -/

namespace Stores

/-- The objects and the records that a pass leaves, and what it says it did. -/
structure FollowsPolicy (w : Stores) (s : Snapshot) (out : Stores × Option RetentionResult) :
    Prop where
  objects : out.1.bucket.rows = w.bucket.rows.filter (fun item => decide (¬ s.Doomed item))
  records : ∀ id info, out.1.coordinator.getCheckpoint id = some info ↔
    w.coordinator.getCheckpoint id = some info ∧ ¬ s.Expired (info.runId, id)
  others : out.1.coordinator.store = w.coordinator.store ∧
    out.1.coordinator.runs = w.coordinator.runs ∧ out.1.coordinator.fsms = w.coordinator.fsms
  result : out.2 = some {
    checkpointsDeleted := (s.prefixes.filter (fun p => decide (s.Expired p))).length
    objectsDeleted := (w.bucket.rows.filter (fun item => decide (s.Doomed item))).length
    bytesFreed := ((w.bucket.rows.filter (fun item => decide (s.Doomed item))).map
      (fun item => item.size.getD 0)).sum }

/-- Every chosen key goes out once, in calls of at most a thousand keys. -/
structure DeletesOnce (w : Stores) (s : Snapshot) : Prop where
  keys : (s.batches.flatten.map (·.key)).Nodup
  chosen : s.batches.flatten.Perm (w.bucket.rows.filter (fun item => decide (s.Doomed item)))
  bounded : ∀ batch ∈ s.batches, 0 < batch.length ∧ batch.length ≤ 1000

@[simp] theorem snapshot_objects (w : Stores) (config : RetentionConfig) (now : Int) :
    (w.snapshot config now).objects = w.bucket.rows :=
  w.listObjects_eq

theorem nodup_bucket (w : Stores) : w.bucket.rows.Nodup := w.bucket.distinct.of_map _

/-- The objects that remain are those that are not doomed. -/
theorem rows_deleted (w : Stores) {s : Snapshot} (hs : s.objects = w.bucket.rows) :
    (s.batches.foldl deleteObjects w.bucket).rows =
      w.bucket.rows.filter (fun item => decide (¬ s.Doomed item)) := by
  rw [rows_foldl_deleteObjects, s.flatten_batches]
  apply List.filter_congr
  intro item hitem
  rw [decide_eq_decide, not_iff_not, List.mem_map]
  constructor
  · intro h
    obtain ⟨other, hother, hkey⟩ := h
    obtain ⟨hmem, hdoomed⟩ := Snapshot.mem_deleteItems.mp hother
    rwa [← w.bucket.eq_of_key_eq (hs ▸ hmem) hitem hkey]
  · exact fun h => ⟨item, Snapshot.mem_deleteItems.mpr ⟨hs ▸ hitem, h⟩, rfl⟩

/-- The records that remain are those that match no expired prefix. -/
theorem getCheckpoint_pruned (c : Coordinator) (s : Snapshot) (id : String)
    (info : CheckpointInfo) :
    (s.toDelete.foldl pruneRecord c).getCheckpoint id = some info ↔
      c.getCheckpoint id = some info ∧ ¬ s.Expired (info.runId, id) := by
  rw [getCheckpoint_foldl_pruneRecord, Snapshot.toDelete_eq]
  apply and_congr_right
  intro _
  rw [List.forall_mem_map]
  constructor
  · exact fun h hexpired => h _ (Snapshot.mem_chosen.mpr hexpired) ⟨rfl, rfl⟩
  · intro h p hp hboth
    obtain ⟨hid, hrun⟩ : p.2 = id ∧ p.1 = info.runId := hboth
    have hp' := Snapshot.mem_chosen.mp hp
    rw [show p = (info.runId, id) from Prod.ext hrun hid] at hp'
    exact h hp'

/-- What a pass is to compute: it deletes the objects under expired prefixes and the
records that match them, leaves everything else alone, sends each key once in bounded
batches, reports exact counts, and leaves every run with no more manifest prefixes than
it may keep. -/
structure ComputesPolicy (w : Stores) (config : RetentionConfig) (now : Int) : Prop where
  follows : w.FollowsPolicy (w.snapshot config now) (w.runOnce config now none)
  deletesOnce : w.DeletesOnce (w.snapshot config now)
  bounded : ∀ runId, (((w.runOnce config now none).1.snapshot config now).manifestPrefixes
    runId).length ≤ config.keepCommittedPerRun

/-- What the deletions of a pass leave, and what it says it did. -/
theorem followsPolicy_deleteChosen (w : Stores) {s : Snapshot} (hs : s.objects = w.bucket.rows) :
    w.FollowsPolicy s (w.deleteChosen s none) := by
  have hdoomed := s.deleteItems_perm (hs ▸ w.nodup_bucket)
  rw [hs] at hdoomed
  refine ⟨w.rows_deleted hs, fun id info => getCheckpoint_pruned _ s id info,
    foldl_pruneRecord_frame _ _, ?_⟩
  show some s.result = _
  rw [Snapshot.result, hdoomed.length_eq, (hdoomed.map _).sum_nat, s.toDelete_eq,
    List.length_map, s.chosen_perm.length_eq]

theorem deletesOnce (w : Stores) {s : Snapshot} (hs : s.objects = w.bucket.rows) :
    w.DeletesOnce s := by
  have hdoomed := s.deleteItems_perm (hs ▸ w.nodup_bucket)
  rw [hs] at hdoomed
  refine ⟨?_, ?_, ?_⟩
  · rw [s.flatten_batches, (hdoomed.map _).nodup_iff]
    exact w.bucket.distinct.sublist (List.filter_sublist.map _)
  · rwa [s.flatten_batches]
  · exact fun batch hbatch => length_of_mem_pieces (by decide) hbatch

/-- A run is left with few manifest prefixes. -/
theorem FollowsPolicy.length_manifestPrefixes_le {w : Stores} {s : Snapshot}
    (hs : s.objects = w.bucket.rows) {out : Stores × Option RetentionResult}
    (h : w.FollowsPolicy s out) (config : RetentionConfig) (now : Int) (runId : String) :
    ((out.1.snapshot config now).manifestPrefixes runId).length ≤
      s.config.keepCommittedPerRun := by
  apply s.length_kept_le runId ((out.1.snapshot config now).nodup_manifestPrefixes runId)
  intro p hp
  obtain ⟨hrun, item, hitem, hmanifest⟩ := Snapshot.mem_manifestPrefixes.mp hp
  obtain ⟨hmem, hkey⟩ := Snapshot.mem_objectsOf.mp hitem
  rw [snapshot_objects, h.objects, List.mem_filter, decide_eq_true_eq] at hmem
  refine ⟨hrun, ⟨item, Snapshot.mem_objectsOf.mpr ⟨hs ▸ hmem.1, hkey⟩, hmanifest⟩, ?_⟩
  exact fun hexpired => hmem.2 ⟨p, hkey, hexpired⟩

/-- **A pass computes exactly its policy**, over any bucket and any records, as long as
its cutoff is a `datetime`; otherwise it raises and leaves both stores alone. -/
theorem runOnce_policy (config : RetentionConfig) (now : Int) (w : Stores) :
    (w.ComputesPolicy config now ↔ (w.snapshot config now).cutoff?.isSome) ∧
      ((w.snapshot config now).cutoff? = none → w.runOnce config now none = (w, none)) := by
  have hs := w.snapshot_objects config now
  refine ⟨?_, fun hnone => runOnce_of_overflow hnone none⟩
  cases hcutoff : (w.snapshot config now).cutoff? with
  | none =>
      refine iff_of_false (fun h => ?_) (by decide)
      have hresult := h.follows.result
      rw [runOnce_of_overflow hcutoff] at hresult
      cases hresult
  | some t =>
      refine iff_of_true ?_ rfl
      have hfollows := w.followsPolicy_deleteChosen hs
      rw [← runOnce_of_cutoff hcutoff] at hfollows
      exact ⟨hfollows, w.deletesOnce hs, hfollows.length_manifestPrefixes_le hs config now⟩

/-- Two runs that the coordinator does not know, each with an upload. -/
def twoUploads : Stores where
  bucket :=
    { rows := [{ key := "first/c1/rank-0.bin", lastModified := 1 },
        { key := "second/c2/rank-0.bin", lastModified := 2 }]
      distinct := by decide }
  coordinator := Coordinator.init .inMemoryKVStore

/-- Room for one checkpoint and one run, and a grace period of 10^11 seconds. -/
def endlessGrace : RetentionConfig where
  keepCommittedPerRun := 1
  keepRuns := 1
  orphanGraceSeconds := 100000000000
  keepCommittedPerRun_pos := Nat.one_pos
  keepRuns_pos := Nat.one_pos

/-- The policy deletes the upload of the first run, the pass raises. -/
theorem policy_not_computed :
    (twoUploads.snapshot endlessGrace 3).Expired ("first", "c1") ∧
      ¬ twoUploads.ComputesPolicy endlessGrace 3 := by
  refine ⟨by decide +kernel, fun h => ?_⟩
  have hresult := h.follows.result
  rw [runOnce_of_overflow (by decide +kernel)] at hresult
  cases hresult

/-! ## Passes that are cut short -/

/-- What a pass may do to the stores, wherever it stops: it only removes, and
only what has expired. -/
structure Within (w : Stores) (s : Snapshot) (out : Stores) : Prop where
  objects : ∀ item ∈ out.bucket.rows, item ∈ w.bucket.rows
  keptObjects : ∀ item ∈ w.bucket.rows, ¬ s.Doomed item → item ∈ out.bucket.rows
  records : ∀ id info, out.coordinator.getCheckpoint id = some info →
    w.coordinator.getCheckpoint id = some info
  keptRecords : ∀ id info, w.coordinator.getCheckpoint id = some info →
    ¬ s.Expired (info.runId, id) → out.coordinator.getCheckpoint id = some info
  runs : out.coordinator.runs = w.coordinator.runs

theorem Within.refl (w : Stores) (s : Snapshot) : w.Within s w :=
  ⟨fun _ h => h, fun _ h _ => h, fun _ _ h => h, fun _ _ h _ => h, rfl⟩

/-- Deleting some of the chosen objects stays within the policy. -/
theorem mem_foldl_deleteObjects {w : Stores} {s : Snapshot} (hs : s.objects = w.bucket.rows)
    {calls : List (List ListedObject)} (hcalls : ∀ item ∈ calls.flatten, item ∈ s.deleteItems)
    {item : ListedObject} :
    (item ∈ (calls.foldl deleteObjects w.bucket).rows → item ∈ w.bucket.rows) ∧
      (item ∈ w.bucket.rows → ¬ s.Doomed item →
        item ∈ (calls.foldl deleteObjects w.bucket).rows) := by
  rw [rows_foldl_deleteObjects]
  refine ⟨fun h => (List.mem_filter.mp h).1, fun hitem hspared => ?_⟩
  refine List.mem_filter.mpr ⟨hitem, decide_eq_true fun hkey => hspared ?_⟩
  obtain ⟨other, hother, hsame⟩ := List.mem_map.mp hkey
  obtain ⟨hmem, hdoomed⟩ := Snapshot.mem_deleteItems.mp (hcalls other hother)
  rwa [← w.bucket.eq_of_key_eq (hs ▸ hmem) hitem hsame]

/-- Pruning some of the chosen records stays within the policy. -/
theorem getCheckpoint_foldl_of_subset {c : Coordinator} {s : Snapshot}
    {doomed : List ListedPrefix} (hdoomed : ∀ d ∈ doomed, d ∈ s.toDelete) {id : String}
    {info : CheckpointInfo} :
    ((doomed.foldl pruneRecord c).getCheckpoint id = some info →
        c.getCheckpoint id = some info) ∧
      (c.getCheckpoint id = some info → ¬ s.Expired (info.runId, id) →
        (doomed.foldl pruneRecord c).getCheckpoint id = some info) := by
  rw [getCheckpoint_foldl_pruneRecord]
  refine ⟨fun h => h.1, fun hinfo hspared => ⟨hinfo, fun d hd hboth => hspared ?_⟩⟩
  have hd' := hdoomed d hd
  rw [Snapshot.toDelete_eq] at hd'
  obtain ⟨p, hp, rfl⟩ := List.mem_map.mp hd'
  obtain ⟨hid, hrun⟩ : p.2 = id ∧ p.1 = info.runId := hboth
  rw [← hid, ← hrun]
  exact Snapshot.mem_chosen.mp hp

/-- What a pass leaves of its deletions, wherever it stops, is within the policy. -/
theorem within_deleteChosen {w : Stores} {s : Snapshot} (hs : s.objects = w.bucket.rows)
    (cut : Option Cut) : w.Within s (w.deleteChosen s cut).1 := by
  have hall := s.flatten_batches
  have hbatches : ∀ item ∈ s.batches.flatten,
      item ∈ s.deleteItems := fun item h => hall ▸ h
  cases cut with
  | none =>
      exact ⟨fun _ => (mem_foldl_deleteObjects hs hbatches).1,
        fun _ => (mem_foldl_deleteObjects hs hbatches).2,
        fun _ _ => (getCheckpoint_foldl_of_subset fun _ h => h).1,
        fun _ _ => (getCheckpoint_foldl_of_subset fun _ h => h).2,
        (foldl_pruneRecord_frame _ _).2.1⟩
  | some cut =>
      cases cut with
      | reading =>
          exact .refl w s
      | deleting done removed =>
          have hcalls : ∀ item ∈ (s.batches.take done ++
              [((s.batches[done]?).getD []).filter
                (fun item => decide (item.key ∈ removed))]).flatten,
              item ∈ s.deleteItems := by
            intro item hitem
            rw [List.flatten_append, List.flatten_singleton, List.mem_append] at hitem
            rw [← hall]
            rcases hitem with hwhole | htorn
            · obtain ⟨batch, hbatch, hmem⟩ := List.mem_flatten.mp hwhole
              exact List.mem_flatten.mpr ⟨batch, List.mem_of_mem_take hbatch, hmem⟩
            · have hbatch := (List.mem_filter.mp htorn).1
              cases hnext : s.batches[done]? with
              | none =>
                  rw [hnext] at hbatch
                  cases hbatch
              | some batch =>
                  rw [hnext] at hbatch
                  exact List.mem_flatten.mpr ⟨batch, List.mem_of_getElem? hnext, hbatch⟩
          have hfold := @mem_foldl_deleteObjects _ _ hs _ hcalls
          simp only [List.foldl_append, List.foldl_cons, List.foldl_nil] at hfold
          exact ⟨fun _ => hfold.1, fun _ => hfold.2, fun _ _ h => h,
            fun _ _ h _ => h, rfl⟩
      | pruning records =>
          have htake : ∀ d ∈ s.toDelete.take records,
              d ∈ s.toDelete := fun _ h => List.mem_of_mem_take h
          exact ⟨fun _ => (mem_foldl_deleteObjects hs hbatches).1,
            fun _ => (mem_foldl_deleteObjects hs hbatches).2,
            fun _ _ => (getCheckpoint_foldl_of_subset htake).1,
            fun _ _ => (getCheckpoint_foldl_of_subset htake).2, (foldl_pruneRecord_frame _ _).2.1⟩

/-- **A pass stays within its policy**, wherever it is cut short. -/
theorem within_runOnce (config : RetentionConfig) (now : Int) (cut : Option Cut) (w : Stores) :
    w.Within (w.snapshot config now) (w.runOnce config now cut).1 := by
  have hs := w.snapshot_objects config now
  cases hcutoff : (w.snapshot config now).cutoff? with
  | none =>
      rw [runOnce_of_overflow hcutoff]
      exact .refl w _
  | some t =>
      rw [runOnce_of_cutoff hcutoff]
      exact within_deleteChosen hs cut

end Stores

end CheckpointRuntime
