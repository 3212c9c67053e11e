import CheckpointRuntime.Coordinator

/-!
# Worker records

The worker half of `coordinator.py`: a record for every worker that was ever
registered, under a key that joins the ids of its run and of the worker.  A
record is never deleted.
-/

namespace CheckpointRuntime

open KeyedTable

/-- The statuses of a worker. -/
inductive WorkerStatus
  | active
  | superseded
  | deregistered
  | dead
deriving DecidableEq, Repr

def WorkerStatus.value : WorkerStatus → String
  | .active => "ACTIVE"
  | .superseded => "SUPERSEDED"
  | .deregistered => "DEREGISTERED"
  | .dead => "DEAD"

/-- A worker that may not come back: its heartbeats are to be refused. -/
def WorkerStatus.fenced : WorkerStatus → Bool
  | .superseded | .deregistered => true
  | .active | .dead => false

/-- Information about a registered worker in a training run. -/
structure WorkerInfo where
  workerId : String
  runId : String
  rank : Int
  hostname : String := ""
  status : WorkerStatus := .active
  lastHeartbeat : Option Nat := none
  currentStep : Int := 0
deriving DecidableEq, Repr

/-- The prefix of the keys of all worker records. -/
def workersPrefix : String := keyPrefix ++ "/workers/"

/-- The key of a worker record. -/
def workerKey (runId workerId : String) : String :=
  workersPrefix ++ runId ++ "/" ++ workerId

/-- The prefix that a listing asks for; an empty run id asks for all. -/
def listingPrefix (runId : String) : String :=
  if runId = "" then workersPrefix else workersPrefix ++ runId ++ "/"

/-- `uuid4().hex[:12]` yields twelve hex digits. -/
def isWorkerId (id : String) : Bool :=
  decide (id.toList.length = 12) &&
    id.toList.all (fun ch => ch.isDigit || (decide ('a' ≤ ch) && decide (ch ≤ 'f')))

theorem slash_notMem_of_isWorkerId {id : String} (h : isWorkerId id = true) :
    '/' ∉ id.toList := by
  intro hmem
  rw [isWorkerId, Bool.and_eq_true, List.all_eq_true] at h
  exact absurd (h.2 '/' hmem) (by decide)

/-- The parts of a joined key can be told apart at its last slash. -/
theorem append_slash_inj {a b c d : List Char} (hb : '/' ∉ b) (hd : '/' ∉ d) :
    a ++ '/' :: b = c ++ '/' :: d ↔ a = c ∧ b = d := by
  constructor
  · intro h
    rcases List.append_eq_append_iff.mp h with ⟨mid, hc, hmid⟩ | ⟨mid, ha, hmid⟩
    · cases mid with
      | nil =>
          rw [List.append_nil] at hc
          exact ⟨hc.symm, (List.cons.inj hmid).2⟩
      | cons ch mid =>
          obtain ⟨_, rfl⟩ := List.cons.inj hmid
          exact absurd (List.mem_append_right _ List.mem_cons_self) hb
    · cases mid with
      | nil =>
          rw [List.append_nil] at ha
          exact ⟨ha, (List.cons.inj hmid).2.symm⟩
      | cons ch mid =>
          obtain ⟨_, rfl⟩ := List.cons.inj hmid
          exact absurd (List.mem_append_right _ List.mem_cons_self) hd
  · intro h
    rw [h.1, h.2]

theorem workerKey_inj {runId runId' id id' : String} (hid : '/' ∉ id.toList)
    (hid' : '/' ∉ id'.toList) :
    workerKey runId id = workerKey runId' id' ↔ runId = runId' ∧ id = id' := by
  have hkey : ∀ r w : String, (workerKey r w).toList =
      (workersPrefix ++ r).toList ++ '/' :: w.toList := by
    intro r w
    simp [workerKey, String.toList_append]
  rw [← String.toList_inj, hkey, hkey, append_slash_inj hid hid', String.toList_inj,
    String.toList_inj, String.append_right_inj]

/-- A listing compares the ids of the runs, each with a slash after it. -/
theorem listingPrefix_isPrefix_workerKey_iff {runId runId' id : String} (hne : runId ≠ "") :
    (listingPrefix runId).toList <+: (workerKey runId' id).toList ↔
      runId.toList ++ ['/'] <+: runId'.toList ++ '/' :: id.toList := by
  have hkey : (workerKey runId' id).toList =
      workersPrefix.toList ++ (runId'.toList ++ '/' :: id.toList) := by
    simp [workerKey, String.toList_append]
  have hlisting : (listingPrefix runId).toList =
      workersPrefix.toList ++ (runId.toList ++ ['/']) := by
    simp [listingPrefix, hne, String.toList_append]
  rw [hkey, hlisting, List.prefix_append_right_inj]

/-- Of the keys of a run whose id has no slash a listing of another such run
finds none. -/
theorem listingPrefix_isPrefix_iff {runId runId' id : String} (hne : runId ≠ "")
    (hrun : '/' ∉ runId.toList) (hrun' : '/' ∉ runId'.toList) :
    (listingPrefix runId).toList <+: (workerKey runId' id).toList ↔ runId' = runId := by
  rw [listingPrefix_isPrefix_workerKey_iff hne]
  constructor
  · intro h
    obtain ⟨rest, hrest⟩ := h
    rw [List.append_assoc] at hrest
    rcases List.append_eq_append_iff.mp hrest with ⟨mid, hlong, hmid⟩ | ⟨mid, hlong, hmid⟩
    · cases mid with
      | nil => exact String.toList_inj.mp (by simpa using hlong)
      | cons ch mid =>
          obtain ⟨rfl, _⟩ := List.cons.inj hmid
          exact absurd (hlong ▸ List.mem_append_right _ List.mem_cons_self) hrun'
    · cases mid with
      | nil => exact String.toList_inj.mp (by simpa using hlong.symm)
      | cons ch mid =>
          obtain ⟨rfl, _⟩ := List.cons.inj hmid
          exact absurd (hlong ▸ List.mem_append_right _ List.mem_cons_self) hrun
  · intro h
    rw [h]
    exact ⟨id.toList, by simp⟩

abbrev WorkerTable := Table WorkerInfo (fun worker => workerKey worker.runId worker.workerId)

/-- The coordinator with its worker records. -/
structure WorkerCoordinator extends Coordinator where
  workers : WorkerTable

namespace WorkerCoordinator

/-- A coordinator over an empty store. -/
def init (store : KVStore) : WorkerCoordinator where
  toCoordinator := .init store
  workers := .empty

def getWorkerRecord (c : WorkerCoordinator) (runId workerId : String) : Option WorkerInfo :=
  c.workers.find (workerKey runId workerId)

def putWorker (c : WorkerCoordinator) (worker : WorkerInfo) : WorkerCoordinator :=
  { c with workers := c.workers.put c.store.placement worker }

def registerWorker (c : WorkerCoordinator) (runId : String) (rank : Int) (hostname : String)
    (workerId : String) (now : Nat) : WorkerCoordinator × WorkerInfo :=
  let worker : WorkerInfo :=
    { workerId := workerId, runId := runId, rank := rank, hostname := hostname,
      status := .active, lastHeartbeat := some now }
  (c.putWorker worker, worker)

/-- The common body of `heartbeat` and `mark_worker_dead`: read a record, edit
it and write it back. -/
def editWorker (c : WorkerCoordinator) (runId workerId : String)
    (edit : WorkerInfo → WorkerInfo) :
    WorkerCoordinator × Except CoordinatorError WorkerInfo :=
  match c.getWorkerRecord runId workerId with
  | none =>
      (c, .error (.keyError
        ("Worker " ++ pyRepr workerId ++ " not found for run " ++ pyRepr runId)))
  | some worker => (c.putWorker (edit worker), .ok (edit worker))

def heartbeat (c : WorkerCoordinator) (runId workerId : String) (step : Int) (now : Nat) :
    WorkerCoordinator × Except CoordinatorError WorkerInfo :=
  c.editWorker runId workerId fun worker =>
    { worker with lastHeartbeat := some now, currentStep := step, status := .active }

def markWorkerDead (c : WorkerCoordinator) (runId workerId : String) (status : WorkerStatus) :
    WorkerCoordinator × Except CoordinatorError WorkerInfo :=
  c.editWorker runId workerId fun worker => { worker with status := status }

/-- The workers whose keys have the prefix of a run, in the order of the store. -/
def listWorkers (c : WorkerCoordinator) (runId : String) : List WorkerInfo :=
  c.workers.rows.filter fun worker =>
    (listingPrefix runId).toList.isPrefixOf (workerKey worker.runId worker.workerId).toList

section
variable (c : WorkerCoordinator) (runId workerId : String)

theorem mem_listWorkers {worker : WorkerInfo} :
    worker ∈ c.listWorkers runId ↔ worker ∈ c.workers.rows ∧
      (listingPrefix runId).toList <+: (workerKey worker.runId worker.workerId).toList := by
  rw [listWorkers, List.mem_filter, List.isPrefixOf_iff_prefix]

/-- The listing without a run has every record. -/
theorem listWorkers_all : c.listWorkers "" = c.workers.rows := by
  rw [listWorkers, List.filter_eq_self]
  intro worker _
  rw [List.isPrefixOf_iff_prefix]
  simp [listingPrefix, workerKey, String.toList_append]

theorem getWorkerRecord_putWorker (worker : WorkerInfo) :
    (c.putWorker worker).getWorkerRecord runId workerId =
      if workerKey runId workerId = workerKey worker.runId worker.workerId then some worker
      else c.getWorkerRecord runId workerId :=
  Table.find_put ..

theorem getWorkerRecord_putWorker_of_id {worker : WorkerInfo} (hid : '/' ∉ workerId.toList)
    (hworker : '/' ∉ worker.workerId.toList) :
    (c.putWorker worker).getWorkerRecord runId workerId =
      if runId = worker.runId ∧ workerId = worker.workerId then some worker
      else c.getWorkerRecord runId workerId := by
  simp only [getWorkerRecord_putWorker, workerKey_inj hid hworker]

theorem mem_of_getWorkerRecord {c : WorkerCoordinator} {runId workerId : String}
    {worker : WorkerInfo} (h : c.getWorkerRecord runId workerId = some worker) :
    worker ∈ c.workers.rows ∧
      workerKey worker.runId worker.workerId = workerKey runId workerId :=
  ⟨c.workers.mem_of_find h, c.workers.key_of_find h⟩

/-- An edit that keeps the ids is found under the key that was edited. -/
theorem getWorkerRecord_editWorker {edit : WorkerInfo → WorkerInfo}
    (hedit : ∀ worker, (edit worker).runId = worker.runId ∧
      (edit worker).workerId = worker.workerId) (runId' workerId' : String) :
    (c.editWorker runId workerId edit).1.getWorkerRecord runId' workerId' =
      if workerKey runId' workerId' = workerKey runId workerId
      then (c.getWorkerRecord runId workerId).map edit
      else c.getWorkerRecord runId' workerId' := by
  unfold editWorker
  cases hfind : c.getWorkerRecord runId workerId with
  | none =>
      dsimp only
      split
      · next hkey =>
        rw [getWorkerRecord, hkey]
        exact hfind
      · rfl
  | some worker =>
      have hkey := (mem_of_getWorkerRecord hfind).2
      dsimp only
      rw [getWorkerRecord_putWorker, (hedit worker).1, (hedit worker).2, hkey, Option.map_some]

/-- An edit that keeps the ids adds no record. -/
theorem mem_editWorker {edit : WorkerInfo → WorkerInfo}
    (hedit : ∀ worker, (edit worker).runId = worker.runId ∧
      (edit worker).workerId = worker.workerId) {worker : WorkerInfo}
    (h : worker ∈ (c.editWorker runId workerId edit).1.workers.rows) :
    ∃ old ∈ c.workers.rows, old.workerId = worker.workerId := by
  unfold editWorker at h
  split at h
  · exact ⟨worker, h, rfl⟩
  · next old hfind =>
    rcases (Table.mem_put ..).mp h with hnew | hold
    · exact ⟨old, (mem_of_getWorkerRecord hfind).1, by rw [hnew, (hedit old).2]⟩
    · exact ⟨worker, hold.1, rfl⟩

theorem toCoordinator_editWorker (edit : WorkerInfo → WorkerInfo) :
    (c.editWorker runId workerId edit).1.toCoordinator = c.toCoordinator := by
  unfold editWorker
  split <;> rfl

end

end WorkerCoordinator

end CheckpointRuntime
