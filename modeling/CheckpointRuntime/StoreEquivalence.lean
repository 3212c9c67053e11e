import CheckpointRuntime.KeyValueStores
import CheckpointRuntime.Library.PartialRun
import CheckpointRuntime.Library.StableListing

/-!
# Does anybody notice which store there is?

The dictionary and etcd hold the same records under the same keys, whatever is
written and deleted.  Only a listing tells them apart: the dictionary answers
in the order of insertion, etcd in the order of keys.  A listing of checkpoints
is sorted by step afterwards, so there it is equal steps that matter.
-/

namespace CheckpointRuntime

open KeyedTable ByteKeys PartialRun StableListing

/-! ## Records and their keys -/

/-- The key that a worker is stored under. -/
def WorkerInfo.key (worker : WorkerInfo) : String := workerKey worker.runId worker.workerId

/-- The key that a record is written under. -/
def KVRecord.key : KVRecord → String
  | .run status => runKey status.runId
  | .checkpoint info => checkpointKey info.checkpointId
  | .worker info => info.key

namespace KVRecord

/-- A record is of a run exactly if it holds one. -/
theorem asRun_eq_some {record : KVRecord} {status : RunStatus} :
    record.asRun = some status ↔ record = .run status := by
  cases record <;> simp [asRun]

/-- A record is of a checkpoint exactly if it holds one. -/
theorem asCheckpoint_eq_some {record : KVRecord} {info : CheckpointInfo} :
    record.asCheckpoint = some info ↔ record = .checkpoint info := by
  cases record <;> simp [asCheckpoint]

/-- A record is of a worker exactly if it holds one. -/
theorem asWorker_eq_some {record : KVRecord} {info : WorkerInfo} :
    record.asWorker = some info ↔ record = .worker info := by
  cases record <;> simp [asWorker]

/-- The kind of a record can be read off its key. -/
theorem runsPrefix_isPrefix_iff (record : KVRecord) :
    runsPrefix.toList <+: record.key.toList ↔ record.asRun.isSome = true := by
  cases record <;>
    simp [key, WorkerInfo.key, runKey, checkpointKey, workerKey, workersPrefix, runsPrefix, asRun,
      String.toList_append, List.prefix_append_right_inj, List.cons_prefix_cons]

/-- The prefix of all checkpoints tells their records. -/
theorem checkpointsPrefix_isPrefix_iff (record : KVRecord) :
    checkpointsPrefix.toList <+: record.key.toList ↔ record.asCheckpoint.isSome = true := by
  cases record <;>
    simp [key, WorkerInfo.key, runKey, checkpointKey, workerKey, workersPrefix, checkpointsPrefix,
      asCheckpoint, String.toList_append, List.prefix_append_right_inj, List.cons_prefix_cons]

/-- Only workers are under the prefix of a run's workers. -/
theorem isSome_asWorker_of_listingPrefix {record : KVRecord} {runId : String}
    (h : (listingPrefix runId).toList <+: record.key.toList) : record.asWorker.isSome = true := by
  have hstart : workersPrefix.toList <+: record.key.toList := by
    refine List.IsPrefix.trans ?_ h
    unfold listingPrefix
    split
    · exact List.prefix_rfl
    · simp only [String.toList_append, List.append_assoc]
      exact List.prefix_append _ _
  revert hstart
  cases record <;>
    simp [key, WorkerInfo.key, runKey, checkpointKey, workerKey, workersPrefix, asWorker,
      String.toList_append, List.prefix_append_right_inj, List.cons_prefix_cons]

end KVRecord

/-! ## Twins -/

/-- An item of the dictionary as etcd has it. -/
def encodedItem (item : String × KVRecord) : Bytes × KVRecord := (encode item.1, item.2)

/-- Two coordinators with the same machines and the same records, each under its
own key. -/
structure Twins (c : StoreCoordinator InMemoryKVStore) (c' : StoreCoordinator EtcdKVStore) :
    Prop where
  fsms : c'.fsms = c.fsms
  kvs : c'.kv.kvs.rows = c.kv.data.rows.map encodedItem
  keyed : ∀ item ∈ c.kv.data.rows, item.2.key = item.1

/-- An operation of both: the same result, and twins again. -/
structure TwinResults (out : StoreCoordinator InMemoryKVStore × CoordinatorResult)
    (out' : StoreCoordinator EtcdKVStore × CoordinatorResult) : Prop where
  result : out.2 = out'.2
  twins : Twins out.1 out'.1

/-- Putting a row and encoding the keys of all rows commute. -/
theorem putRows_map_encodedItem (key : String) (value : KVRecord)
    (rows : List (String × KVRecord)) :
    putRows .atEnd Prod.fst (encode key, value) (rows.map encodedItem) =
      (putRows .atEnd Prod.fst (key, value) rows).map encodedItem := by
  have hmem : encode key ∈ (rows.map encodedItem).map Prod.fst ↔ key ∈ rows.map Prod.fst := by
    simp [encodedItem, encode_inj]
  unfold putRows
  by_cases hpresent : key ∈ rows.map Prod.fst
  · rw [if_pos (hmem.mpr hpresent), if_pos hpresent, List.map_map, List.map_map]
    apply List.map_congr_left
    intro item _
    by_cases hkey : item.1 = key <;> simp [encodedItem, encode_inj, hkey]
  · rw [if_neg (fun h => hpresent (hmem.mp h)), if_neg hpresent]
    show rows.map encodedItem ++ [(encode key, value)] = (rows ++ [(key, value)]).map encodedItem
    rw [List.map_append]
    rfl

namespace Twins

open KVStoreProtocol

variable {c : StoreCoordinator InMemoryKVStore} {c' : StoreCoordinator EtcdKVStore}

/-! ### What is read -/

/-- A range of one key finds what the dictionary has. -/
theorem get_eq (h : Twins c c') (key : String) : get c'.kv key = get c.kv key := by
  show ((c'.kv.kvs.rows.filter fun kv => decide (kv.1 = encode key)).insertionSort _).head?.map
    Prod.snd = (c.kv.data.find key).map Prod.snd
  have hfilter : (c'.kv.kvs.rows.filter fun kv => decide (kv.1 = encode key)) =
      (c.kv.data.find key).toList.map encodedItem := by
    rw [h.kvs, List.filter_map, ← c.kv.data.filter_key]
    refine congrArg _ (List.filter_congr fun item _ => ?_)
    simp [encodedItem, encode_inj]
  rw [hfilter]
  cases c.kv.data.find key <;> rfl

/-- A record that is read lies under its own key. -/
theorem keyed_get (h : Twins c c') {key : String} {value : KVRecord}
    (hget : get c.kv key = some value) : value.key = key := by
  obtain ⟨item, hfind, rfl⟩ := Option.map_eq_some_iff.mp hget
  rw [h.keyed item (c.kv.data.mem_of_find hfind), c.kv.data.key_of_find hfind]

/-- Both coordinators read the same run. -/
theorem getRun_eq (h : Twins c c') (runId : String) : c'.getRun runId = c.getRun runId :=
  congrArg (·.bind KVRecord.asRun) (h.get_eq _)

/-- Both coordinators read the same checkpoint. -/
theorem getCheckpoint_eq (h : Twins c c') (checkpointId : String) :
    c'.getCheckpoint checkpointId = c.getCheckpoint checkpointId :=
  congrArg (·.bind KVRecord.asCheckpoint) (h.get_eq _)

/-- Both coordinators read the same worker. -/
theorem getWorkerRecord_eq (h : Twins c c') (runId workerId : String) :
    c'.getWorkerRecord runId workerId = c.getWorkerRecord runId workerId :=
  congrArg (·.bind KVRecord.asWorker) (h.get_eq _)

/-- Both coordinators have the same state machine. -/
theorem machine_eq (h : Twins c c') (runId : String) (current : RunState) :
    c'.machine runId current = c.machine runId current := by
  rw [StoreCoordinator.machine, StoreCoordinator.machine, h.fsms]

/-! ### What is written -/

/-- Both write a record under its key. -/
theorem putRecord (h : Twins c c') {key : String} {value : KVRecord} (hkey : value.key = key) :
    Twins (c.putRecord key value) (c'.putRecord key value) where
  fsms := h.fsms
  kvs := by
    show putRows .atEnd Prod.fst (encode key, value) c'.kv.kvs.rows = _
    rw [h.kvs]
    exact putRows_map_encodedItem key value _
  keyed := by
    intro item hitem
    rcases (Table.mem_put ..).mp hitem with rfl | hold
    · exact hkey
    · exact h.keyed item hold.1

/-- Both write a run. -/
theorem persistRun (h : Twins c c') (status : RunStatus) :
    Twins (c.persistRun status) (c'.persistRun status) :=
  h.putRecord rfl

/-- Both remember a state machine. -/
theorem cacheFsm (h : Twins c c') (runId : String) (m : RunStateMachine) :
    Twins (c.cacheFsm runId m) (c'.cacheFsm runId m) where
  fsms := by
    show (fun r => if r = runId then some m else c'.fsms r) = _
    rw [h.fsms]
    rfl
  kvs := h.kvs
  keyed := h.keyed

/-- Both delete a checkpoint. -/
theorem deleteCheckpoint (h : Twins c c') (checkpointId : String) :
    Twins (c.deleteCheckpoint checkpointId) (c'.deleteCheckpoint checkpointId) where
  fsms := h.fsms
  kvs := by
    show c'.kv.kvs.rows.filter (fun kv => decide (kv.1 ≠ encode (checkpointKey checkpointId))) = _
    rw [h.kvs, List.filter_map]
    refine congrArg _ (List.filter_congr fun item _ => ?_)
    simp [encodedItem, encode_inj]
  keyed := fun item hitem => h.keyed item (List.mem_of_mem_filter hitem)

/-! ### Methods -/

/-- Both move a run, or refuse to. -/
theorem moveRun (h : Twins c c') (runId : String) (target : RunState)
    (edit : RunStatus → RunStatus) (now : Nat) :
    TwinResults (c.moveRun runId target edit now) (c'.moveRun runId target edit now) := by
  unfold StoreCoordinator.moveRun
  rw [h.getRun_eq]
  cases c.getRun runId with
  | none => exact ⟨rfl, h⟩
  | some status =>
      dsimp only
      rw [h.machine_eq]
      cases (c.machine runId status.state).transition target with
      | error error => exact ⟨rfl, h.cacheFsm _ _⟩
      | ok moved => exact ⟨rfl, (h.cacheFsm _ _).persistRun _⟩

/-- Both set the step of a run. -/
theorem updateRunStep (h : Twins c c') (runId : String) (step : Int) (now : Nat) :
    TwinResults (c.updateRunStep runId step now) (c'.updateRunStep runId step now) := by
  unfold StoreCoordinator.updateRunStep
  rw [h.getRun_eq]
  cases c.getRun runId with
  | none => exact ⟨rfl, h⟩
  | some status => exact ⟨rfl, h.persistRun _⟩

/-- Both create a checkpoint. -/
theorem createCheckpoint (h : Twins c c') (runId : String) (step : Int)
    (metadata : List (String × String)) (checkpointId : String) (now : Nat) :
    TwinResults (c.createCheckpoint runId step metadata checkpointId now)
      (c'.createCheckpoint runId step metadata checkpointId now) := by
  unfold StoreCoordinator.createCheckpoint
  rw [h.getRun_eq]
  cases c.getRun runId with
  | none => exact ⟨rfl, h⟩
  | some status =>
      refine ⟨rfl, Twins.persistRun ?_ _⟩
      exact h.putRecord rfl

/-- Both edit a checkpoint. -/
theorem editCheckpoint (h : Twins c c') (checkpointId : String)
    {edit : CheckpointInfo → CheckpointInfo}
    (hedit : ∀ info, (edit info).checkpointId = info.checkpointId) :
    TwinResults (c.editCheckpoint checkpointId edit) (c'.editCheckpoint checkpointId edit) := by
  unfold StoreCoordinator.editCheckpoint
  rw [h.getCheckpoint_eq]
  cases hfind : c.getCheckpoint checkpointId with
  | none => exact ⟨rfl, h⟩
  | some info =>
      obtain ⟨value, hget, hinfo⟩ := Option.bind_eq_some_iff.mp hfind
      obtain rfl := KVRecord.asCheckpoint_eq_some.mp hinfo
      have hkey : checkpointKey info.checkpointId = checkpointKey checkpointId := h.keyed_get hget
      exact ⟨rfl, h.putRecord (by rw [KVRecord.key, hedit, hkey])⟩

/-- Both edit a worker. -/
theorem editWorker (h : Twins c c') (runId workerId : String) {edit : WorkerInfo → WorkerInfo}
    (hedit : ∀ worker, (edit worker).key = worker.key) :
    TwinResults (c.editWorker runId workerId edit) (c'.editWorker runId workerId edit) := by
  unfold StoreCoordinator.editWorker
  rw [h.getWorkerRecord_eq]
  cases hfind : c.getWorkerRecord runId workerId with
  | none => exact ⟨rfl, h⟩
  | some worker =>
      obtain ⟨value, hget, hinfo⟩ := Option.bind_eq_some_iff.mp hfind
      obtain rfl := KVRecord.asWorker_eq_some.mp hinfo
      have hkey : worker.key = workerKey runId workerId := h.keyed_get hget
      exact ⟨rfl, h.putRecord (by rw [KVRecord.key, hedit, hkey])⟩

end Twins

/-! ## Listings -/

namespace KVRecord

/-- The checkpoint of a run. -/
def checkpointOf (runId : String) : KVRecord → Option CheckpointInfo
  | checkpoint info => if info.runId = runId then some info else none
  | _ => none

/-- The worker that a listing of a run asks for. -/
def workerUnder (runId : String) : KVRecord → Option WorkerInfo
  | worker info =>
      if (listingPrefix runId).toList.isPrefixOf info.key.toList then some info else none
  | _ => none

end KVRecord

/-- The records of a kind in the order of insertion. -/
def StoreCoordinator.inserted {α : Type} (c : StoreCoordinator InMemoryKVStore)
    (kind : KVRecord → Option α) : List α :=
  c.kv.data.rows.filterMap fun item => kind item.2

namespace Twins

open KVStoreProtocol

variable {c : StoreCoordinator InMemoryKVStore} {c' : StoreCoordinator EtcdKVStore}

/-- A range of a prefix answers with the items of the dictionary by key. -/
theorem getPrefix_eq (h : Twins c c') (start : String) :
    getPrefix c'.kv start = (byKey Prod.fst (c.kv.items start)).map encodedItem := by
  show (c'.kv.kvs.rows.filter fun kv => EtcdKVStore.inRange _ _ kv.1).insertionSort _ = _
  have hfilter : (c'.kv.kvs.rows.filter fun kv => EtcdKVStore.inRange (encode start)
      (some (prefixEnd (encode start))) kv.1) = (c.kv.items start).map encodedItem := by
    rw [h.kvs, List.filter_map]
    refine congrArg _ (List.filter_congr fun item _ => ?_)
    rw [Bool.eq_iff_iff, Function.comp_apply, inRange_prefixEnd_iff, List.isPrefixOf_iff_prefix]
    exact encodeChars_prefix_iff
  rw [hfilter]
  exact (List.map_insertionSort (fun a b => a.1 ≤ b.1) (fun a b => a.1 ≤ b.1) encodedItem
    (c.kv.items start) fun a _ b _ => encode_le_iff.symm).symm

variable {α : Type} {start : String} {read kind : KVRecord → Option α}

/-- The dictionary lists records of a kind in the order of insertion, if the
kind is what the prefix asks for. -/
theorem listing_memory (hkind : ∀ item ∈ c.kv.data.rows, kind item.2 =
      if start.toList.isPrefixOf item.1.toList then read item.2 else none) :
    ((getPrefix c.kv start).filterMap fun item => read item.2) = c.inserted kind := by
  show ((c.kv.items start).map encodedItem).filterMap _ = _
  rw [List.filterMap_map, InMemoryKVStore.items, List.filterMap_filter]
  exact List.filterMap_congr fun item hitem => (hkind item hitem).symm

/-- etcd lists them by key. -/
theorem listing_etcd (h : Twins c c') {key : α → String}
    (hkind : ∀ item ∈ c.kv.data.rows, kind item.2 =
      if start.toList.isPrefixOf item.1.toList then read item.2 else none)
    (hkey : ∀ record a, read record = some a → key a = record.key) :
    ((getPrefix c'.kv start).filterMap fun item => read item.2) =
      byKey key (c.inserted kind) := by
  rw [h.getPrefix_eq, List.filterMap_map]
  have hkeys : ∀ item ∈ c.kv.items start, ∀ a, read item.2 = some a → key a = item.1 := by
    intro item hitem a ha
    rw [hkey item.2 a ha, h.keyed item (List.mem_of_mem_filter hitem)]
  have hlisted : (c.kv.items start).filterMap (fun item => read item.2) = c.inserted kind := by
    rw [← listing_memory hkind]
    show _ = ((c.kv.items start).map encodedItem).filterMap _
    rw [List.filterMap_map]
    rfl
  rw [← hlisted]
  exact filterMap_byKey Prod.fst hkeys

/-- The records of a kind have distinct keys. -/
theorem nodup_inserted (h : Twins c c') {key : α → String}
    (hkey : ∀ record a, kind record = some a → key a = record.key) :
    ((c.inserted kind).map key).Nodup := by
  apply nodup_keys_filterMap c.kv.data.distinct
  intro item hitem a ha
  rw [hkey item.2 a ha, h.keyed item hitem]

/-! ### The three listings -/

/-- The prefix of all runs tells their records. -/
theorem kind_asRun (h : Twins c c') : ∀ item ∈ c.kv.data.rows, item.2.asRun =
    if runsPrefix.toList.isPrefixOf item.1.toList then item.2.asRun else none := by
  intro item hitem
  rw [← h.keyed item hitem]
  split
  · rfl
  · next hno =>
    rw [List.isPrefixOf_iff_prefix, KVRecord.runsPrefix_isPrefix_iff] at hno
    exact Option.not_isSome_iff_eq_none.mp hno

/-- A run is stored under the key of its id. -/
theorem key_of_asRun (record : KVRecord) (status : RunStatus) (h : record.asRun = some status) :
    runKey status.runId = record.key := by
  rw [KVRecord.asRun_eq_some.mp h, KVRecord.key]

/-- The prefix of all checkpoints tells the records of those of a run. -/
theorem kind_checkpointOf (h : Twins c c') (runId : String) : ∀ item ∈ c.kv.data.rows,
    item.2.checkpointOf runId = if checkpointsPrefix.toList.isPrefixOf item.1.toList
      then item.2.checkpointOf runId else none := by
  intro item hitem
  rw [← h.keyed item hitem]
  split
  · rfl
  · next hno =>
    rw [List.isPrefixOf_iff_prefix, KVRecord.checkpointsPrefix_isPrefix_iff] at hno
    cases hrecord : item.2 with
    | checkpoint info => exact absurd (by rw [hrecord]; rfl) hno
    | run _ => rfl
    | worker _ => rfl

/-- A record is of a checkpoint of the run exactly if it holds one. -/
theorem checkpointOf_eq_some {record : KVRecord} {runId : String} {info : CheckpointInfo} :
    record.checkpointOf runId = some info ↔ record = .checkpoint info ∧ info.runId = runId := by
  cases record <;> grind [KVRecord.checkpointOf]

/-- Whether a worker is under the prefix is told by its key. -/
theorem workerUnder_eq (runId : String) (record : KVRecord) : record.workerUnder runId =
    if (listingPrefix runId).toList.isPrefixOf record.key.toList then record.asWorker
    else none := by
  cases record with
  | worker info => rfl
  | run status =>
      split
      · next hlisted =>
        exact absurd (KVRecord.isSome_asWorker_of_listingPrefix
          (List.isPrefixOf_iff_prefix.mp hlisted)) (by simp [KVRecord.asWorker])
      · rfl
  | checkpoint info =>
      split
      · next hlisted =>
        exact absurd (KVRecord.isSome_asWorker_of_listingPrefix
          (List.isPrefixOf_iff_prefix.mp hlisted)) (by simp [KVRecord.asWorker])
      · rfl

/-- The prefix of a run tells the records of its workers. -/
theorem kind_workerUnder (h : Twins c c') (runId : String) : ∀ item ∈ c.kv.data.rows,
    item.2.workerUnder runId =
      if (listingPrefix runId).toList.isPrefixOf item.1.toList then item.2.asWorker else none := by
  intro item hitem
  rw [workerUnder_eq, h.keyed item hitem]

/-- A worker is stored under its key. -/
theorem key_of_asWorker (record : KVRecord) (worker : WorkerInfo)
    (h : record.asWorker = some worker) : worker.key = record.key := by
  rw [KVRecord.asWorker_eq_some.mp h, KVRecord.key]

/-- A checkpoint of a run is stored under the key of its id. -/
theorem key_of_checkpointOf (runId : String) (record : KVRecord) (info : CheckpointInfo)
    (h : record.checkpointOf runId = some info) : checkpointKey info.checkpointId = record.key := by
  rw [(checkpointOf_eq_some.mp h).1, KVRecord.key]

/-- The records of a run are filtered out of all checkpoints. -/
theorem filter_asCheckpoint {κ : Type} (runId : String) (items : List (κ × KVRecord)) :
    (items.filterMap fun item => item.2.asCheckpoint).filter
        (fun info => decide (info.runId = runId)) =
      items.filterMap fun item => item.2.checkpointOf runId := by
  rw [List.filter_filterMap]
  apply List.filterMap_congr
  intro item _
  cases item.2 with
  | checkpoint info =>
      by_cases hrun : info.runId = runId <;>
        simp [KVRecord.asCheckpoint, KVRecord.checkpointOf, hrun]
  | run _ => rfl
  | worker _ => rfl

/-- The listings of runs agree exactly if they were inserted in the order of their keys. -/
theorem listRuns_iff (h : Twins c c') : c.listRuns = c'.listRuns ↔
    (c.inserted KVRecord.asRun).Pairwise fun a b => runKey a.runId < runKey b.runId := by
  rw [StoreCoordinator.listRuns, StoreCoordinator.listRuns, listing_memory h.kind_asRun,
    h.listing_etcd h.kind_asRun key_of_asRun, eq_comm,
    byKey_eq_self_iff _ (h.nodup_inserted key_of_asRun)]

/-- The listings of workers agree exactly if they were inserted in the order of their keys. -/
theorem listWorkers_iff (h : Twins c c') (runId : String) :
    c.listWorkers runId = c'.listWorkers runId ↔
      (c.inserted (KVRecord.workerUnder runId)).Pairwise fun a b => a.key < b.key := by
  have hkey : ∀ (record : KVRecord) (worker : WorkerInfo),
      record.workerUnder runId = some worker → worker.key = record.key := by
    intro record worker hworker
    rw [workerUnder_eq] at hworker
    exact key_of_asWorker record worker (Option.ite_none_right_eq_some.mp hworker).2
  have hkind := h.kind_workerUnder runId
  rw [StoreCoordinator.listWorkers, StoreCoordinator.listWorkers, listing_memory hkind,
    h.listing_etcd hkind key_of_asWorker, eq_comm, byKey_eq_self_iff _ (h.nodup_inserted hkey)]

/-- The listings of checkpoints agree exactly if those of one step were inserted in the
order of their keys. -/
theorem listCheckpoints_iff (h : Twins c c') (runId : String) :
    c.listCheckpoints runId = c'.listCheckpoints runId ↔
      (c.inserted (KVRecord.checkpointOf runId)).Pairwise fun a b =>
        a.step = b.step → checkpointKey a.checkpointId < checkpointKey b.checkpointId := by
  rw [StoreCoordinator.listCheckpoints, StoreCoordinator.listCheckpoints, filter_asCheckpoint,
    filter_asCheckpoint, listing_memory (h.kind_checkpointOf runId),
    h.listing_etcd (h.kind_checkpointOf runId) (key_of_checkpointOf runId), eq_comm]
  exact byKey_byKey_eq_iff (fun info : CheckpointInfo => checkpointKey info.checkpointId) (·.step)
    (h.nodup_inserted (key_of_checkpointOf runId))

end Twins

/-! ## Operations -/

/-- What an operation lists was inserted in the order of its keys; for
checkpoints it is enough that equal steps were. -/
def StoreCoordinator.InsertedInOrder (c : StoreCoordinator InMemoryKVStore)
    (event : CoordinatorOp × Nat) : Prop :=
  match event.1 with
  | .listRuns => (c.inserted KVRecord.asRun).Pairwise fun a b => runKey a.runId < runKey b.runId
  | .listWorkers runId =>
      (c.inserted (KVRecord.workerUnder runId)).Pairwise fun a b => a.key < b.key
  | .listCheckpoints runId =>
      (c.inserted (KVRecord.checkpointOf runId)).Pairwise fun a b =>
        a.step = b.step → checkpointKey a.checkpointId < checkpointKey b.checkpointId
  | _ => True

namespace StoreCoordinator

/-- Whether the rows that an event lists were inserted in order can be computed. -/
instance (c : StoreCoordinator InMemoryKVStore) (event : CoordinatorOp × Nat) :
    Decidable (c.InsertedInOrder event) :=
  match event with
  | (.listRuns, _) => inferInstanceAs (Decidable (List.Pairwise _ _))
  | (.listWorkers _, _) => inferInstanceAs (Decidable (List.Pairwise _ _))
  | (.listCheckpoints _, _) => inferInstanceAs (Decidable (List.Pairwise _ _))
  | (.createRun .., _) | (.getRun .., _) | (.transitionRun .., _) | (.updateRunStep .., _)
  | (.setRunError .., _) | (.createCheckpoint .., _) | (.getCheckpoint .., _)
  | (.deleteCheckpoint .., _) | (.updateCheckpointState .., _)
  | (.updateCheckpointMetadata .., _) | (.registerWorker .., _) | (.heartbeat .., _)
  | (.markWorkerDead .., _) => isTrue trivial

variable {σ : Type} [KVStoreProtocol σ]

/-- Take one operation; none is ever refused. -/
def step (c : StoreCoordinator σ) (event : CoordinatorOp × Nat) : Option (StoreCoordinator σ) :=
  some (c.serve event.1 event.2).1

/-- What the operations of a run return and raise. -/
def results : StoreCoordinator σ → List (CoordinatorOp × Nat) → List CoordinatorResult
  | _, [] => []
  | c, event :: events =>
      (c.serve event.1 event.2).2 :: results (c.serve event.1 event.2).1 events

/-- A coordinator over an empty dictionary. -/
def inMemory : StoreCoordinator InMemoryKVStore where
  kv := { data := .empty }
  fsms := fun _ => none

/-- A coordinator over an empty etcd. -/
def overEtcd : StoreCoordinator EtcdKVStore where
  kv := { kvs := .empty }
  fsms := fun _ => none

end StoreCoordinator

namespace Twins

open StoreCoordinator

/-- Two coordinators that have just started are twins. -/
theorem init : Twins inMemory overEtcd where
  fsms := rfl
  kvs := rfl
  keyed := fun _ h => by cases h

variable {c : StoreCoordinator InMemoryKVStore} {c' : StoreCoordinator EtcdKVStore}

/-- **One operation.**  Both coordinators stay twins, and their results are the
same exactly when what is listed was inserted in order. -/
theorem serve (h : Twins c c') (op : CoordinatorOp) (now : Nat) :
    Twins (c.serve op now).1 (c'.serve op now).1 ∧
      ((c.serve op now).2 = (c'.serve op now).2 ↔ c.InsertedInOrder (op, now)) := by
  have halike : ∀ {out out'}, TwinResults out out' → Twins out.1 out'.1 ∧ (out.2 = out'.2 ↔ True) :=
    fun hout => ⟨hout.twins, iff_true_intro hout.result⟩
  cases op with
  | createRun config runId => exact halike ⟨rfl, (h.cacheFsm _ _).persistRun _⟩
  | getRun runId => exact halike ⟨congrArg _ (h.getRun_eq runId).symm, h⟩
  | listRuns => exact ⟨h, CoordinatorResult.runs.injEq .. ▸ h.listRuns_iff⟩
  | transitionRun runId target => exact halike (h.moveRun runId target id now)
  | updateRunStep runId step => exact halike (h.updateRunStep runId step now)
  | setRunError runId message => exact halike (h.moveRun runId .failed _ now)
  | createCheckpoint runId step metadata checkpointId =>
      exact halike (h.createCheckpoint runId step metadata checkpointId now)
  | getCheckpoint checkpointId =>
      exact halike ⟨congrArg _ (h.getCheckpoint_eq checkpointId).symm, h⟩
  | deleteCheckpoint checkpointId => exact halike ⟨rfl, h.deleteCheckpoint checkpointId⟩
  | listCheckpoints runId =>
      exact ⟨h, CoordinatorResult.checkpoints.injEq .. ▸ h.listCheckpoints_iff runId⟩
  | updateCheckpointState checkpointId state numShards totalBytes shardIds =>
      exact halike (h.editCheckpoint checkpointId fun _ => rfl)
  | updateCheckpointMetadata checkpointId metadata merge =>
      exact halike (h.editCheckpoint checkpointId fun _ => rfl)
  | registerWorker runId rank hostname workerId => exact halike ⟨rfl, h.putRecord rfl⟩
  | heartbeat runId workerId step => exact halike (h.editWorker runId workerId fun _ => rfl)
  | listWorkers runId => exact ⟨h, CoordinatorResult.workers.injEq .. ▸ h.listWorkers_iff runId⟩
  | markWorkerDead runId workerId status =>
      exact halike (h.editWorker runId workerId fun _ => rfl)

/-- **A run.** -/
theorem results_iff (h : Twins c c') (events : List (CoordinatorOp × Nat)) :
    results c events = results c' events ↔ Guarded step InsertedInOrder c events := by
  induction events generalizing c c' with
  | nil => exact iff_of_true rfl trivial
  | cons event events ih =>
      obtain ⟨htwins, hresult⟩ := h.serve event.1 event.2
      rw [results, results, List.cons.injEq, hresult, ih htwins]
      constructor
      · intro hboth next hnext
        obtain rfl := Option.some.inj hnext
        exact hboth
      · exact fun hall => hall _ rfl

end Twins

namespace StoreCoordinator

/-- **The fallback store behaves like etcd, exactly** when whatever is listed
was inserted in the order of its keys. -/
theorem stores_agree_iff (events : List (CoordinatorOp × Nat)) :
    results inMemory events = results overEtcd events ↔
      Guarded step InsertedInOrder inMemory events :=
  Twins.init.results_iff events

/-- Two checkpoints of one step, the later one with the smaller id. -/
def tiedEvents : List (CoordinatorOp × Nat) :=
  [(.createRun demoRun "00000000000000a1", 1),
    (.createCheckpoint "00000000000000a1" 10 [] "00000000000000c2", 2),
    (.createCheckpoint "00000000000000a1" 10 [] "00000000000000c1", 3),
    (.listCheckpoints "00000000000000a1", 4)]

/-- The dictionary lists the later one last, etcd first. -/
theorem fallback_orders_ties_differently :
    ¬ results inMemory tiedEvents = results overEtcd tiedEvents := by
  rw [stores_agree_iff]
  decide +kernel

end StoreCoordinator

end CheckpointRuntime
