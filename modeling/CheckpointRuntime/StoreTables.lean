import CheckpointRuntime.StoreEquivalence
import CheckpointRuntime.CoordinatorRestart
import CheckpointRuntime.Library.TableParts

/-!
# The tables of the coordinator are its store

`WorkerCoordinator` keeps runs, checkpoints and workers in a table each, and
the placement of new rows stands for the store.  `StoreCoordinator` keeps all
of them in one store, as the source does.  Key prefixes tell the kinds of
records apart, so whatever is asked of the one is answered by the other.
-/

namespace CheckpointRuntime

open KeyedTable StableListing

/-! ## The kinds of records -/

namespace KVRecord

/-- The key tells the kind. -/
theorem isSome_of_key_eq {record record' : KVRecord} (h : record.key = record'.key) :
    record.asRun.isSome = record'.asRun.isSome ∧
      record.asCheckpoint.isSome = record'.asCheckpoint.isSome ∧
      record.asWorker.isSome = record'.asWorker.isSome := by
  have hrun : record.asRun.isSome = record'.asRun.isSome := by
    rw [Bool.eq_iff_iff, ← runsPrefix_isPrefix_iff, ← runsPrefix_isPrefix_iff, h]
  have hcheckpoint : record.asCheckpoint.isSome = record'.asCheckpoint.isSome := by
    rw [Bool.eq_iff_iff, ← checkpointsPrefix_isPrefix_iff, ← checkpointsPrefix_isPrefix_iff, h]
  refine ⟨hrun, hcheckpoint, ?_⟩
  cases record <;> cases record' <;> simp_all [asRun, asCheckpoint, asWorker]

/-- Only a checkpoint is stored under the key of a checkpoint. -/
theorem key_ne_checkpointKey (record : KVRecord) (h : record.asCheckpoint = none)
    (checkpointId : String) : record.key ≠ checkpointKey checkpointId := by
  intro hkey
  have hstart : checkpointsPrefix.toList <+: record.key.toList := by
    rw [hkey]
    simp [checkpointKey, checkpointsPrefix, String.toList_append]
  rw [checkpointsPrefix_isPrefix_iff, h] at hstart
  cases hstart

end KVRecord

/-! ## One kind of records -/

/-- The rows as a store lists them. -/
def KVStore.order {α : Type} (store : KVStore) (key : α → String) (rows : List α) : List α :=
  match store with
  | .inMemoryKVStore => rows
  | .etcdKVStore => byKey key rows

/-- What the one store has or what the other has. -/
def KVStore.pick {α : Type} (store : KVStore) (dictionary etcd : α) : α :=
  match store with
  | .inMemoryKVStore => dictionary
  | .etcdKVStore => etcd

namespace KVStore

section
variable {α : Type} {store : KVStore} {key : α → String} {rows : List α}

/-- A store lists what it has. -/
theorem mem_order {a : α} : a ∈ store.order key rows ↔ a ∈ rows := by
  cases store with
  | inMemoryKVStore => exact Iff.rfl
  | etcdKVStore => exact mem_byKey key

/-- Listing some of the rows is filtering the listing. -/
theorem filter_order (p : α → Bool) :
    (store.order key rows).filter p = store.order key (rows.filter p) := by
  cases store with
  | inMemoryKVStore => rfl
  | etcdKVStore => exact filter_byKey key p rows

/-- A row is put where its store lists it. -/
theorem putRows_order (hkeys : (rows.map key).Nodup) (a : α) :
    putRows store.placement key a (store.order key rows) =
      store.order key (putRows .atEnd key a rows) := by
  cases store with
  | inMemoryKVStore => rfl
  | etcdKVStore => exact putRows_byKey hkeys a

end

end KVStore

namespace StoreCoordinator

section
variable {α : Type} {key : α → String} {kind : KVRecord → Option α}
  {c : StoreCoordinator InMemoryKVStore} {store : KVStore} {part : Table α key}

/-- All records are under their keys. -/
def Keyed (c : StoreCoordinator InMemoryKVStore) : Prop :=
  ∀ item ∈ c.kv.data.rows, item.2.key = item.1

/-- A table has the records of a kind, in the order of a store. -/
def HasPart (c : StoreCoordinator InMemoryKVStore) (store : KVStore) (kind : KVRecord → Option α)
    (part : Table α key) : Prop :=
  part.rows = store.order key (c.inserted kind)

/-- A kind of records: their keys are the keys they are stored under, and the key
tells the kind. -/
structure IsKind (kind : KVRecord → Option α) (key : α → String) : Prop where
  key : ∀ record a, kind record = some a → key a = record.key
  same : ∀ record record' : KVRecord, record.key = record'.key →
    (kind record).isSome = (kind record').isSome

/-- A table finds what the store has under the key, if it is of its kind. -/
theorem HasPart.find_eq (h : c.HasPart store kind part) (hkind : IsKind kind key) (hc : c.Keyed)
    (k : String) : part.find k = (KVStoreProtocol.get c.kv k).bind kind := by
  have hkeys : ∀ item ∈ c.kv.data.rows, ∀ a, kind item.2 = some a → key a = item.1 :=
    fun item hitem a ha => (hkind.key item.2 a ha).trans (hc item hitem)
  have hrows : ∀ a, a ∈ part.rows ↔ a ∈ c.kv.data.rows.filterMap fun item => kind item.2 :=
    fun a => by rw [show part.rows = _ from h, KVStore.mem_order]; rfl
  rw [c.kv.data.find_part part hkeys hrows]
  exact (Option.bind_map ..).symm

/-- Putting a record of the kind puts a row into its table. -/
theorem HasPart.put (h : c.HasPart store kind part) (hkind : IsKind kind key) (hc : c.Keyed)
    (value : KVRecord) {k : String} (hk : value.key = k) {a : α} (ha : kind value = some a) :
    (c.putRecord k value).HasPart store kind (part.put store.placement a) := by
  have hkeys : ∀ item ∈ c.kv.data.rows, ∀ x, kind item.2 = some x → key x = item.1 :=
    fun item hitem x hx => (hkind.key item.2 x hx).trans (hc item hitem)
  have hput : (c.putRecord k value).inserted kind = putRows .atEnd key a (c.inserted kind) := by
    refine filterMap_putRows_some ha ((hkind.key value a ha).trans hk) hkeys ?_
    intro item hitem hsame
    have hrecords : item.2.key = value.key := by rw [hc item hitem, hsame, hk]
    rw [hkind.same _ _ hrecords, ha]
    rfl
  show putRows store.placement key a part.rows = _
  rw [hput, show part.rows = _ from h, KVStore.putRows_order]
  exact nodup_keys_filterMap c.kv.data.distinct hkeys

/-- Putting a record of another kind leaves the table alone. -/
theorem HasPart.put_other (h : c.HasPart store kind part) (hkind : IsKind kind key)
    (hc : c.Keyed) (value : KVRecord) {k : String} (hk : value.key = k)
    (hvalue : kind value = none) : (c.putRecord k value).HasPart store kind part := by
  have hput : (c.putRecord k value).inserted kind = c.inserted kind := by
    refine filterMap_putRows_none hvalue ?_
    intro item hitem hsame
    have hrecords : item.2.key = value.key := by rw [hc item hitem, hsame, hk]
    rw [← Option.not_isSome_iff_eq_none, hkind.same _ _ hrecords, hvalue]
    nofun
  rw [HasPart, hput]
  exact h

end

/-- Runs are a kind of records. -/
theorem isKind_asRun : IsKind KVRecord.asRun fun status => runKey status.runId where
  key record status h := by rw [KVRecord.asRun_eq_some.mp h, KVRecord.key]
  same _ _ h := (KVRecord.isSome_of_key_eq h).1

/-- Checkpoints are a kind of records. -/
theorem isKind_asCheckpoint :
    IsKind KVRecord.asCheckpoint fun info => checkpointKey info.checkpointId where
  key record info h := by rw [KVRecord.asCheckpoint_eq_some.mp h, KVRecord.key]
  same _ _ h := (KVRecord.isSome_of_key_eq h).2.1

/-- Workers are a kind of records. -/
theorem isKind_asWorker :
    IsKind KVRecord.asWorker fun worker => workerKey worker.runId worker.workerId where
  key record worker h := by rw [KVRecord.asWorker_eq_some.mp h]; rfl
  same _ _ h := (KVRecord.isSome_of_key_eq h).2.2

/-! ## All kinds of records -/

/-- The same machines, and the same records in three tables. -/
structure Tables (c : StoreCoordinator InMemoryKVStore) (w : WorkerCoordinator) : Prop where
  keyed : c.Keyed
  fsms : w.fsms = c.fsms
  runs : c.HasPart w.store KVRecord.asRun w.runs
  checkpoints : c.HasPart w.store KVRecord.asCheckpoint w.checkpoints
  workers : c.HasPart w.store KVRecord.asWorker w.workers

/-- An empty store has empty tables. -/
theorem tables_init (store : KVStore) : Tables inMemory (.init store) where
  keyed := fun _ h => by cases h
  fsms := rfl
  runs := by cases store <;> rfl
  checkpoints := by cases store <;> rfl
  workers := by cases store <;> rfl

namespace Tables

variable {c : StoreCoordinator InMemoryKVStore} {w : WorkerCoordinator}

/-! ### What is read -/

/-- Runs are read from their table. -/
theorem getRun_eq (h : Tables c w) (runId : String) : w.getRun runId = c.getRun runId :=
  h.runs.find_eq isKind_asRun h.keyed _

/-- Checkpoints are read from their table. -/
theorem getCheckpoint_eq (h : Tables c w) (checkpointId : String) :
    w.getCheckpoint checkpointId = c.getCheckpoint checkpointId :=
  h.checkpoints.find_eq isKind_asCheckpoint h.keyed _

/-- Workers are read from their table. -/
theorem getWorkerRecord_eq (h : Tables c w) (runId workerId : String) :
    w.getWorkerRecord runId workerId = c.getWorkerRecord runId workerId :=
  h.workers.find_eq isKind_asWorker h.keyed _

/-- The state machine of a run is read from the same cache. -/
theorem machine_eq (h : Tables c w) (runId : String) (current : RunState) :
    w.machine runId current = c.machine runId current := by
  rw [Coordinator.machine, StoreCoordinator.machine, h.fsms]

/-! ### What is written -/

/-- A record that is put under its own key leaves all records under theirs. -/
theorem keyed_putRecord (h : Tables c w) {key : String} {value : KVRecord}
    (hkey : value.key = key) : (c.putRecord key value).Keyed := by
  intro item hitem
  rcases (Table.mem_put ..).mp hitem with rfl | hold
  · exact hkey
  · exact h.keyed item hold.1

/-- Writing a run. -/
theorem persistRun (h : Tables c w) (status : RunStatus) :
    Tables (c.persistRun status) { w with toCoordinator := w.persistRun status } where
  keyed := h.keyed_putRecord rfl
  fsms := h.fsms
  runs := h.runs.put isKind_asRun h.keyed (.run status) rfl rfl
  checkpoints := h.checkpoints.put_other isKind_asCheckpoint h.keyed (.run status) rfl rfl
  workers := h.workers.put_other isKind_asWorker h.keyed (.run status) rfl rfl

/-- Writing a checkpoint. -/
theorem putCheckpoint (h : Tables c w) {checkpointId : String} {info : CheckpointInfo}
    (hid : info.checkpointId = checkpointId) :
    Tables (c.putRecord (checkpointKey checkpointId) (.checkpoint info))
      { w with toCoordinator := w.putCheckpoint info } := by
  subst hid
  exact {
    keyed := h.keyed_putRecord rfl
    fsms := h.fsms
    runs := h.runs.put_other isKind_asRun h.keyed (.checkpoint info) rfl rfl
    checkpoints := h.checkpoints.put isKind_asCheckpoint h.keyed (.checkpoint info) rfl rfl
    workers := h.workers.put_other isKind_asWorker h.keyed (.checkpoint info) rfl rfl }

/-- Writing a worker. -/
theorem putWorker (h : Tables c w) {key : String} {worker : WorkerInfo} (hkey : worker.key = key) :
    Tables (c.putRecord key (.worker worker)) (w.putWorker worker) where
  keyed := h.keyed_putRecord hkey
  fsms := h.fsms
  runs := h.runs.put_other isKind_asRun h.keyed (.worker worker) hkey rfl
  checkpoints := h.checkpoints.put_other isKind_asCheckpoint h.keyed (.worker worker) hkey rfl
  workers := h.workers.put isKind_asWorker h.keyed (.worker worker) hkey rfl

/-- Caching a state machine writes no record. -/
theorem cacheFsm (h : Tables c w) (runId : String) (m : RunStateMachine) :
    Tables (c.cacheFsm runId m) { w with toCoordinator := w.cacheFsm runId m } where
  keyed := h.keyed
  fsms := by
    show (fun r => if r = runId then some m else w.fsms r) = _
    rw [h.fsms]
    rfl
  runs := h.runs
  checkpoints := h.checkpoints
  workers := h.workers

/-- Deleting a checkpoint. -/
theorem deleteCheckpoint (h : Tables c w) (checkpointId : String) :
    Tables (c.deleteCheckpoint checkpointId)
      { w with toCoordinator := w.deleteCheckpoint checkpointId } := by
  have herase : ∀ {α : Type} {key : α → String} {kind : KVRecord → Option α},
      IsKind kind key → (c.deleteCheckpoint checkpointId).inserted kind =
        (c.inserted kind).filter fun a => decide (key a ≠ checkpointKey checkpointId) :=
    fun hkind => filterMap_erase
      (fun item hitem a ha => (hkind.key item.2 a ha).trans (h.keyed item hitem)) _
  refine ⟨fun item hitem => h.keyed item (List.mem_of_mem_filter hitem), h.fsms, ?_, ?_, ?_⟩
  · rw [HasPart, herase isKind_asRun, List.filter_eq_self.mpr]
    · exact h.runs
    · exact fun status _ => decide_eq_true
        ((KVRecord.run status).key_ne_checkpointKey rfl checkpointId)
  · rw [HasPart, herase isKind_asCheckpoint, ← KVStore.filter_order]
    exact congrArg _ h.checkpoints
  · rw [HasPart, herase isKind_asWorker, List.filter_eq_self.mpr]
    · exact h.workers
    · exact fun worker _ => decide_eq_true
        ((KVRecord.worker worker).key_ne_checkpointKey rfl checkpointId)

end Tables

/-! ## Methods -/

/-- An operation of both: the same result, and the same records again. -/
structure TableResults (store : KVStore)
    (out : StoreCoordinator InMemoryKVStore × CoordinatorResult)
    (tables : WorkerCoordinator × CoordinatorResult) : Prop where
  result : tables.2 = out.2
  store : tables.1.store = store
  tables : Tables out.1 tables.1

namespace Tables

variable {c : StoreCoordinator InMemoryKVStore} {w : WorkerCoordinator}

/-- Moving a run. -/
theorem moveRun (h : Tables c w) (runId : String) (target : RunState)
    (edit : RunStatus → RunStatus) (now : Nat) :
    TableResults w.store (c.moveRun runId target edit now)
      (w.lift (w.moveRun runId target edit now) (.of .run)) := by
  unfold StoreCoordinator.moveRun Coordinator.moveRun
  rw [h.getRun_eq]
  cases c.getRun runId with
  | none => exact ⟨rfl, rfl, h⟩
  | some status =>
      dsimp only
      rw [h.machine_eq]
      cases (c.machine runId status.state).transition target with
      | error error => exact ⟨rfl, rfl, h.cacheFsm _ _⟩
      | ok moved => exact ⟨rfl, rfl, (h.cacheFsm _ _).persistRun _⟩

/-- Setting the step of a run. -/
theorem updateRunStep (h : Tables c w) (runId : String) (step : Int) (now : Nat) :
    TableResults w.store (c.updateRunStep runId step now)
      (w.lift (w.updateRunStep runId step now) (.of .run)) := by
  unfold StoreCoordinator.updateRunStep Coordinator.updateRunStep
  rw [h.getRun_eq]
  cases c.getRun runId with
  | none => exact ⟨rfl, rfl, h⟩
  | some status => exact ⟨rfl, rfl, h.persistRun _⟩

/-- Creating a checkpoint. -/
theorem createCheckpoint (h : Tables c w) (runId : String) (step : Int)
    (metadata : List (String × String)) (checkpointId : String) (now : Nat) :
    TableResults w.store (c.createCheckpoint runId step metadata checkpointId now)
      (w.lift (w.createCheckpointWith runId step metadata checkpointId now) (.of .checkpoint)) := by
  unfold StoreCoordinator.createCheckpoint Coordinator.createCheckpointWith
  rw [h.getRun_eq]
  cases c.getRun runId with
  | none => exact ⟨rfl, rfl, h⟩
  | some status =>
      let info : CheckpointInfo :=
        { checkpointId := checkpointId, runId := runId, step := step, createdAt := now,
          metadata := metadata }
      have hput : Tables (c.putRecord (checkpointKey checkpointId) (.checkpoint info))
          { w with toCoordinator := w.putCheckpoint info } := h.putCheckpoint rfl
      exact ⟨rfl, rfl, hput.persistRun _⟩

/-- Editing a checkpoint, as `update_checkpoint_state` does. -/
theorem editCheckpoint (h : Tables c w) (checkpointId : String)
    {edit : CheckpointInfo → CheckpointInfo}
    (hedit : ∀ info, (edit info).checkpointId = info.checkpointId) :
    TableResults w.store (c.editCheckpoint checkpointId edit)
      (w.lift (w.editCheckpoint checkpointId edit) (.of .checkpoint)) := by
  unfold StoreCoordinator.editCheckpoint Coordinator.editCheckpoint
  have hsame := h.getCheckpoint_eq checkpointId
  cases hfind : c.getCheckpoint checkpointId with
  | none =>
      rw [hfind] at hsame
      rw [hsame]
      exact ⟨rfl, rfl, h⟩
  | some info =>
      rw [hfind] at hsame
      rw [hsame]
      refine ⟨rfl, rfl, h.putCheckpoint ?_⟩
      rw [hedit]
      exact Coordinator.checkpointId_of_getCheckpoint hsame

/-- Editing a worker, as `heartbeat` and `mark_worker_dead` do. -/
theorem editWorker (h : Tables c w) (runId workerId : String) {edit : WorkerInfo → WorkerInfo}
    (hedit : ∀ worker, (edit worker).key = worker.key) :
    TableResults w.store (c.editWorker runId workerId edit)
      ((w.editWorker runId workerId edit).map id (.of .worker)) := by
  unfold StoreCoordinator.editWorker WorkerCoordinator.editWorker
  have hsame := h.getWorkerRecord_eq runId workerId
  cases hfind : c.getWorkerRecord runId workerId with
  | none =>
      rw [hfind] at hsame
      rw [hsame]
      exact ⟨rfl, rfl, h⟩
  | some worker =>
      rw [hfind] at hsame
      rw [hsame]
      refine ⟨rfl, rfl, h.putWorker ?_⟩
      rw [hedit]
      exact (WorkerCoordinator.mem_of_getWorkerRecord hsame).2

end Tables

/-! ## Listings -/

/-- The workers under the prefix of a run, in the order of insertion. -/
theorem filter_asWorker (c : StoreCoordinator InMemoryKVStore) (runId : String) :
    (c.inserted KVRecord.asWorker).filter (fun worker =>
      (listingPrefix runId).toList.isPrefixOf (workerKey worker.runId worker.workerId).toList) =
      c.inserted (KVRecord.workerUnder runId) := by
  rw [inserted, inserted, List.filter_filterMap]
  apply List.filterMap_congr
  intro item _
  cases item.2 with
  | worker info => rfl
  | run _ => rfl
  | checkpoint _ => rfl

/-- The checkpoints of a run, in the order of insertion. -/
theorem filter_inserted_asCheckpoint (c : StoreCoordinator InMemoryKVStore) (runId : String) :
    (c.inserted KVRecord.asCheckpoint).filter (fun info => decide (info.runId = runId)) =
      c.inserted (KVRecord.checkpointOf runId) := by
  rw [inserted, inserted]
  exact Twins.filter_asCheckpoint runId _

namespace Tables

variable {c : StoreCoordinator InMemoryKVStore} {c' : StoreCoordinator EtcdKVStore}
  {w : WorkerCoordinator}

/-- Runs are listed as the store lists them. -/
theorem listRuns_eq (h : Tables c w) (ht : Twins c c') :
    w.listRuns = w.store.pick c.listRuns c'.listRuns := by
  rw [Coordinator.listRuns, show w.runs.rows = _ from h.runs]
  cases w.store with
  | inMemoryKVStore => exact (Twins.listing_memory ht.kind_asRun).symm
  | etcdKVStore => exact (ht.listing_etcd ht.kind_asRun Twins.key_of_asRun).symm

/-- Workers are listed as the store lists them. -/
theorem listWorkers_eq (h : Tables c w) (ht : Twins c c') (runId : String) :
    w.listWorkers runId = w.store.pick (c.listWorkers runId) (c'.listWorkers runId) := by
  rw [WorkerCoordinator.listWorkers, show w.workers.rows = _ from h.workers,
    KVStore.filter_order, filter_asWorker]
  cases w.store with
  | inMemoryKVStore => exact (Twins.listing_memory (ht.kind_workerUnder runId)).symm
  | etcdKVStore =>
      exact (ht.listing_etcd (ht.kind_workerUnder runId) Twins.key_of_asWorker).symm

/-- Checkpoints are listed as the store lists them. -/
theorem listCheckpoints_eq (h : Tables c w) (ht : Twins c c') (runId : String) :
    w.listCheckpoints runId =
      w.store.pick (c.listCheckpoints runId) (c'.listCheckpoints runId) := by
  rw [Coordinator.listCheckpoints, show w.checkpoints.rows = _ from h.checkpoints,
    KVStore.filter_order, filter_inserted_asCheckpoint, StoreCoordinator.listCheckpoints,
    StoreCoordinator.listCheckpoints, Twins.filter_asCheckpoint, Twins.filter_asCheckpoint]
  cases w.store with
  | inMemoryKVStore =>
      exact congrArg _ (Twins.listing_memory (ht.kind_checkpointOf runId)).symm
  | etcdKVStore =>
      exact congrArg _ (ht.listing_etcd (ht.kind_checkpointOf runId)
        (Twins.key_of_checkpointOf runId)).symm

/-- **One operation** answers what it answers over the store. -/
theorem serve (h : Tables c w) (ht : Twins c c') (op : CoordinatorOp) (now : Nat) :
    Tables (c.serve op now).1 (w.serve op now).1 ∧ (w.serve op now).1.store = w.store ∧
      (w.serve op now).2 = w.store.pick (c.serve op now).2 (c'.serve op now).2 := by
  have hsame : ∀ {out : WorkerCoordinator × CoordinatorResult},
      TableResults w.store (c.serve op now) out →
      ((c.serve op now).2 = (c'.serve op now).2 ↔ True) →
      Tables (c.serve op now).1 out.1 ∧ out.1.store = w.store ∧
        out.2 = w.store.pick (c.serve op now).2 (c'.serve op now).2 := by
    intro out hout htwins
    refine ⟨hout.tables, hout.store, ?_⟩
    rw [← of_iff_true htwins, hout.result]
    cases w.store <;> rfl
  have hpick : ∀ {α : Type} (f : α → CoordinatorResult) {a b b' : α}, a = w.store.pick b b' →
      f a = w.store.pick (f b) (f b') := by
    intro α f a b b' hab
    rw [hab]
    cases w.store <;> rfl
  have htwins := (ht.serve op now).2
  cases op with
  | createRun config runId => exact hsame ⟨rfl, rfl, (h.cacheFsm _ _).persistRun _⟩ htwins
  | getRun runId => exact hsame ⟨congrArg _ (h.getRun_eq runId), rfl, h⟩ htwins
  | listRuns => exact ⟨h, rfl, hpick .runs (h.listRuns_eq ht)⟩
  | transitionRun runId target => exact hsame (h.moveRun runId target id now) htwins
  | updateRunStep runId step => exact hsame (h.updateRunStep runId step now) htwins
  | setRunError runId message => exact hsame (h.moveRun runId .failed _ now) htwins
  | createCheckpoint runId step metadata checkpointId =>
      exact hsame (h.createCheckpoint runId step metadata checkpointId now) htwins
  | getCheckpoint checkpointId =>
      exact hsame ⟨congrArg _ (h.getCheckpoint_eq checkpointId), rfl, h⟩ htwins
  | deleteCheckpoint checkpointId => exact hsame ⟨rfl, rfl, h.deleteCheckpoint checkpointId⟩ htwins
  | listCheckpoints runId => exact ⟨h, rfl, hpick .checkpoints (h.listCheckpoints_eq ht runId)⟩
  | updateCheckpointState checkpointId state numShards totalBytes shardIds =>
      exact hsame (h.editCheckpoint checkpointId fun _ => rfl) htwins
  | updateCheckpointMetadata checkpointId metadata merge =>
      exact hsame (h.editCheckpoint checkpointId fun _ => rfl) htwins
  | registerWorker runId rank hostname workerId =>
      exact hsame ⟨rfl, rfl, h.putWorker rfl⟩ htwins
  | heartbeat runId workerId step =>
      exact hsame (h.editWorker runId workerId fun _ => rfl) htwins
  | listWorkers runId => exact ⟨h, rfl, hpick .workers (h.listWorkers_eq ht runId)⟩
  | markWorkerDead runId workerId status =>
      exact hsame (h.editWorker runId workerId fun _ => rfl) htwins

/-- A run of operations. -/
theorem results_eq (h : Tables c w) (ht : Twins c c') (events : List (CoordinatorOp × Nat)) :
    w.results (events.map fun event => .op event.1 event.2) =
      w.store.pick (results c events) (results c' events) := by
  induction events generalizing c c' w with
  | nil => cases w.store <;> rfl
  | cons event events ih =>
      obtain ⟨htables, hstore, hresult⟩ := h.serve ht event.1 event.2
      have hrest := ih htables (ht.serve event.1 event.2).1
      rw [hstore] at hrest
      rw [List.map_cons, WorkerCoordinator.results, hresult, hrest, results, results]
      cases w.store <;> rfl

end Tables

/-- **The tables are the store.**  A coordinator with three tables answers every
run of operations as the coordinator over the dictionary or over etcd does. -/
theorem tables_eq_store (store : KVStore) (events : List (CoordinatorOp × Nat)) :
    (WorkerCoordinator.init store).results (events.map fun event => .op event.1 event.2) =
      store.pick (results inMemory events) (results overEtcd events) :=
  (tables_init store).results_eq Twins.init events

end StoreCoordinator

end CheckpointRuntime
