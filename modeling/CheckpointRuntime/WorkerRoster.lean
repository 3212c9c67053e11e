import CheckpointRuntime.WorkerManager

/-!
# The roster of workers

What the managers and the store say about a worker, side by side: its record,
its status in the index, its lease, and whether the set of its run has it.  On
the roster every operation but a registration changes each worker by itself;
`Shows` connects it to the managers, and `shows_serve` says that it stays
connected.
-/

namespace CheckpointRuntime

open KeyedTable PartialRun

/-- A worker that was registered. -/
structure Member where
  record : WorkerInfo
  status : WorkerStatus
  lease : Option WorkerLease
  listed : Bool

namespace Member

/-- The worker has a lease that is alive. -/
def alive (m : Member) : Bool := m.lease.any (·.isAlive)

/-- The worker as the index has it: its record with its own status. -/
def indexed (m : Member) : WorkerInfo := { m.record with status := m.status }

/-- A worker that has just been registered. -/
def new (runId : String) (rank : Int) (hostname workerId : String) (now : Nat) : Member where
  record :=
    { workerId := workerId, runId := runId, rank := rank, hostname := hostname,
      status := .active, lastHeartbeat := some now }
  status := .active
  lease := some { workerId := workerId, runId := runId, lastHeartbeat := now }
  listed := true

/-- Another worker registers with a rank in a run. -/
def superseded (runId : String) (rank : Int) (m : Member) : Member :=
  if m.record.runId = runId ∧ m.listed = true ∧ m.record.rank = rank ∧ m.status = .active then
    { m with record := { m.record with status := .superseded }, status := .superseded,
             lease := none }
  else
    m

/-- What `deregister_worker` does to a member. -/
def deregistered (m : Member) : Member where
  record := { m.record with status := .deregistered }
  status := .deregistered
  lease := none
  listed := false

/-- A heartbeat, which only an active worker gets accepted. -/
def heard (step : Int) (now : Nat) (m : Member) : Member :=
  if m.status = .active then
    { m with
      record := { m.record with lastHeartbeat := some now, currentStep := step, status := .active }
      lease := m.lease.map fun lease => lease.touch step now }
  else
    m

/-- The lease of the worker has expired. -/
def died (m : Member) : Member :=
  { m with
    record := { m.record with status := .dead }
    status := .dead
    lease := m.lease.map fun lease => { lease with isAlive := false } }

/-- A listing of a run has the worker. -/
def inListing (runId : String) (m : Member) : Bool :=
  (listingPrefix runId).toList.isPrefixOf (workerKey m.record.runId m.record.workerId).toList

/-- The group of a run is restarted. -/
def restarted (runId : String) (m : Member) : Member :=
  if m.inListing runId then
    { m with
      record :=
        if m.record.status = .active ∧ m.record.runId = runId
        then { m.record with status := .dead } else m.record
      status := .dead
      lease := none }
  else
    m

/-- The managers are replaced by fresh ones. -/
def rehydrated (now : Nat) (m : Member) : Member where
  record := m.record
  status := m.record.status
  lease :=
    if m.record.status = .active then
      some { workerId := m.record.workerId, runId := m.record.runId, lastHeartbeat := now }
    else
      none
  listed := true

/-- The two records are of one registration. -/
def SameOrigin (m m' : Member) : Prop :=
  m'.record.workerId = m.record.workerId ∧ m'.record.runId = m.record.runId ∧
    m'.record.rank = m.record.rank

end Member

/-- All workers that were ever registered, and the next automatic ranks. -/
structure Roster where
  members : String → Option Member
  nextRank : String → Int

namespace Roster

/-- Change each worker by itself. -/
def update (r : Roster) (f : String → Member → Member) : Roster :=
  { r with members := fun id => (r.members id).map (f id) }

/-- Change one worker. -/
def edit (r : Roster) (workerId : String) (f : Member → Member) : Roster :=
  r.update fun id m => if id = workerId then f m else m

/-- A new member. -/
def add (r : Roster) (workerId : String) (m : Member) : Roster :=
  { r with members := fun id => if id = workerId then some m else r.members id }

/-- Set the next rank of a run. -/
def setNextRank (r : Roster) (runId : String) (next : Int) : Roster :=
  { r with nextRank := fun id => if id = runId then next else r.nextRank id }

/-- What an operation does to the roster. -/
def serve (r : Roster) (op : WorkerOp) (now : Nat) : Roster :=
  match op with
  | .register runId hostname none workerId =>
      let rank := r.nextRank runId
      (r.setNextRank runId (rank + 1)).add workerId (.new runId rank hostname workerId now)
  | .register runId hostname (some rank) workerId =>
      ((r.setNextRank runId (max (r.nextRank runId) (rank + 1))).update
        fun _ => .superseded runId rank).add workerId (.new runId rank hostname workerId now)
  | .heartbeat workerId step => r.edit workerId (.heard step now)
  | .deregister workerId => r.edit workerId .deregistered
  | .workerFailure workerId => r.edit workerId .died
  | .restartGroup runId => r.update fun _ => .restarted runId

/-- Rosters with the same members and next ranks are equal. -/
theorem ext_members {r r' : Roster} (hmembers : ∀ id, r.members id = r'.members id)
    (hnext : r.nextRank = r'.nextRank) : r = r' := by
  obtain ⟨members, nextRank⟩ := r
  obtain ⟨members', nextRank'⟩ := r'
  obtain rfl : members = members' := funext hmembers
  obtain rfl : nextRank = nextRank' := hnext
  rfl

/-- Two updates of all members are one. -/
theorem update_update (r : Roster) (f g : String → Member → Member) :
    (r.update f).update g = r.update fun id m => g id (f id m) := by
  refine ext_members ?_ rfl
  intro id
  simp [update, Function.comp_def]

/-- Updates that agree on the members there are. -/
theorem update_congr {r : Roster} {f g : String → Member → Member}
    (h : ∀ id m, r.members id = some m → f id m = g id m) : r.update f = r.update g := by
  refine ext_members ?_ rfl
  intro id
  cases hm : r.members id with
  | none => simp [update, hm]
  | some m => simp [update, hm, h id m hm]

/-- Two edits of a member are one. -/
theorem edit_edit (r : Roster) (workerId : String) (f g : Member → Member) :
    (r.edit workerId f).edit workerId g = r.edit workerId fun m => g (f m) := by
  unfold edit
  rw [update_update]
  apply update_congr
  intro id m _
  by_cases h : id = workerId <;> simp [h]

/-- Edits that agree on the member, if there is one. -/
theorem edit_congr {r : Roster} {workerId : String} {f g : Member → Member}
    (h : ∀ m, r.members workerId = some m → f m = g m) :
    r.edit workerId f = r.edit workerId g := by
  apply update_congr
  intro id m hm
  split
  · next hid => exact h m (hid ▸ hm)
  · rfl

/-- An update changes every member. -/
theorem members_update (r : Roster) (f : String → Member → Member) (id : String) :
    (r.update f).members id = (r.members id).map (f id) := rfl

/-- An edit changes one member. -/
theorem members_edit (r : Roster) (workerId id : String) (f : Member → Member) :
    (r.edit workerId f).members id =
      if id = workerId then (r.members workerId).map f else r.members id := by
  split
  · next h =>
    rw [h]
    simp [edit, update]
  · next h =>
    cases hm : r.members id <;> simp [edit, update, hm, h]

/-- An edit that changes nothing. -/
theorem edit_id {r : Roster} {workerId : String} {f : Member → Member}
    (h : ∀ m, r.members workerId = some m → f m = m) : r.edit workerId f = r := by
  refine ext_members ?_ rfl
  intro id
  rw [members_edit]
  split
  · next hid =>
    rw [hid]
    cases hm : r.members workerId with
    | none => rfl
    | some m => rw [Option.map_some, h m hm]
  · rfl

/-- The member after its edit. -/
theorem members_edit_self {r : Roster} {workerId : String} {m : Member}
    (hm : r.members workerId = some m) (f : Member → Member) :
    (r.edit workerId f).members workerId = some (f m) := by
  rw [members_edit, if_pos rfl, hm, Option.map_some]

end Roster

namespace WorkerPlane

/-! ## What the parts of an operation change -/

section
variable (s : WorkerPlane) (id : String)

/-- Setting a worker of the index. -/
theorem getWorker_setWorker (worker : WorkerInfo) :
    (s.setWorker worker).getWorker id =
      if id = worker.workerId then some worker else s.getWorker id :=
  Table.find_put ..

/-- Setting the status of a worker in the index. -/
theorem getWorker_setStatus (workerId : String) (status : WorkerStatus) :
    (s.setStatus workerId status).getWorker id =
      if id = workerId then (s.getWorker workerId).map fun w => { w with status := status }
      else s.getWorker id := by
  unfold setStatus
  cases hfind : s.getWorker workerId with
  | none =>
      dsimp only
      split
      · next h => rw [h, hfind, Option.map_none]
      · rfl
  | some worker =>
      have hid : worker.workerId = workerId := s.manager.workers.key_of_find hfind
      dsimp only
      rw [getWorker_setWorker, Option.map_some, hid]

/-- Setting a lease. -/
theorem getLease_setLease (lease : WorkerLease) :
    (s.setLease lease).getLease id =
      if id = lease.workerId then some lease else s.getLease id :=
  Table.find_put ..

/-- Dropping a lease. -/
theorem getLease_unregister (workerId : String) :
    (s.unregister workerId).getLease id = if id = workerId then none else s.getLease id :=
  Table.find_erase ..

/-- A heartbeat touches one lease. -/
theorem getLease_recordHeartbeat (workerId : String) (step : Int) (now : Nat) :
    (s.recordHeartbeat workerId step now).getLease id =
      if id = workerId then (s.getLease workerId).map fun lease => lease.touch step now
      else s.getLease id := by
  unfold recordHeartbeat
  cases hfind : s.getLease workerId with
  | none =>
      dsimp only
      split
      · next h => rw [h, hfind, Option.map_none]
      · rfl
  | some lease =>
      have hkey := s.heartbeats.leases.key_of_find hfind
      have hid : (lease.touch step now).workerId = workerId := hkey
      dsimp only
      rw [getLease_setLease, Option.map_some, hid]

/-- A heartbeat touches neither records nor index. -/
theorem recordHeartbeat_other (workerId : String) (step : Int) (now : Nat) :
    (s.recordHeartbeat workerId step now).coordinator = s.coordinator ∧
      (s.recordHeartbeat workerId step now).manager = s.manager := by
  unfold recordHeartbeat
  split <;> exact ⟨rfl, rfl⟩

/-- A status in the index is none in the records. -/
@[simp] theorem coordinator_setStatus (workerId : String) (status : WorkerStatus) :
    (s.setStatus workerId status).coordinator = s.coordinator := by
  unfold setStatus
  split <;> rfl

/-- A status in the index is none in the leases. -/
@[simp] theorem heartbeats_setStatus (workerId : String) (status : WorkerStatus) :
    (s.setStatus workerId status).heartbeats = s.heartbeats := by
  unfold setStatus
  split <;> rfl

/-- A status moves no worker to another set. -/
@[simp] theorem runWorkers_setStatus (workerId : String) (status : WorkerStatus) :
    (s.setStatus workerId status).manager.runWorkers = s.manager.runWorkers := by
  unfold setStatus
  split <;> rfl

/-- A status leaves the rank counters alone. -/
@[simp] theorem rankCounters_setStatus (workerId : String) (status : WorkerStatus) :
    (s.setStatus workerId status).manager.rankCounters = s.manager.rankCounters := by
  unfold setStatus
  split <;> rfl

/-- A status leaves every lease alone. -/
@[simp] theorem getLease_setStatus (workerId : String) (status : WorkerStatus) :
    (s.setStatus workerId status).getLease id = s.getLease id := by
  rw [getLease, heartbeats_setStatus]
  rfl

/-- Marking a worker dead keeps its ids. -/
theorem markWorkerDead_keeps_ids (status : WorkerStatus) (worker : WorkerInfo) :
    ({ worker with status := status } : WorkerInfo).runId = worker.runId ∧
      ({ worker with status := status } : WorkerInfo).workerId = worker.workerId :=
  ⟨rfl, rfl⟩

/-- Marking a record changes the record under one key. -/
theorem getWorkerRecord_markWorkerDead {runId workerId : String} (hworkerId : '/' ∉ workerId.toList)
    (status : WorkerStatus) (runId' : String) (hid : '/' ∉ id.toList) :
    (s.markWorkerDead runId workerId status).coordinator.getWorkerRecord runId' id =
      if runId' = runId ∧ id = workerId then
        (s.coordinator.getWorkerRecord runId workerId).map fun w => { w with status := status }
      else s.coordinator.getWorkerRecord runId' id := by
  have hedit := s.coordinator.getWorkerRecord_editWorker runId workerId
    (markWorkerDead_keeps_ids status) runId' id
  simp only [workerKey_inj hid hworkerId] at hedit
  exact hedit

/-- Marking a worker dead adds no record. -/
theorem mem_markWorkerDead {runId workerId : String} {status : WorkerStatus} {worker : WorkerInfo}
    (h : worker ∈ (s.markWorkerDead runId workerId status).coordinator.workers.rows) :
    ∃ old ∈ s.coordinator.workers.rows, old.workerId = worker.workerId :=
  s.coordinator.mem_editWorker runId workerId (markWorkerDead_keeps_ids status) h

end

end WorkerPlane

/-- What the managers hold is what the roster says. -/
structure Shows (s : WorkerPlane) (r : Roster) : Prop where
  ids : ∀ id m, r.members id = some m → m.record.workerId = id ∧ '/' ∉ id.toList
  index : ∀ id, s.getWorker id = (r.members id).map (·.indexed)
  records : ∀ runId id, '/' ∉ id.toList → s.coordinator.getWorkerRecord runId id =
    (r.members id).bind fun m => if m.record.runId = runId then some m.record else none
  recordIds : ∀ worker ∈ s.coordinator.workers.rows, '/' ∉ worker.workerId.toList
  leases : ∀ id, s.getLease id = (r.members id).bind (·.lease)
  leaseRuns : ∀ id m lease, r.members id = some m → m.lease = some lease →
    lease.runId = m.record.runId
  sets : ∀ runId id, id ∈ s.manager.runWorkers runId ↔
    ∃ m, r.members id = some m ∧ m.record.runId = runId ∧ m.listed = true
  nodup : ∀ runId, (s.manager.runWorkers runId).Nodup
  ranks : s.manager.rankCounters = r.nextRank

namespace Shows

open WorkerPlane

section
variable {s : WorkerPlane} {r : Roster}

/-- A record of the store is the record of its worker. -/
theorem member_of_mem (h : Shows s r) {worker : WorkerInfo}
    (hworker : worker ∈ s.coordinator.workers.rows) :
    ∃ m, r.members worker.workerId = some m ∧ m.record = worker := by
  have hfound : s.coordinator.getWorkerRecord worker.runId worker.workerId = some worker :=
    s.coordinator.workers.find_of_mem hworker
  rw [h.records _ _ (h.recordIds worker hworker)] at hfound
  obtain ⟨m, hm, hrecord⟩ := Option.bind_eq_some_iff.mp hfound
  exact ⟨m, hm, (Option.ite_none_right_eq_some.mp hrecord).2 |> Option.some.inj⟩

/-- The record of a member is stored. -/
theorem mem_of_member (h : Shows s r) {id : String} {m : Member} (hm : r.members id = some m) :
    m.record ∈ s.coordinator.workers.rows := by
  obtain ⟨_, hslash⟩ := h.ids id m hm
  have hfound := h.records m.record.runId id hslash
  rw [hm, Option.bind_some, if_pos rfl] at hfound
  exact (WorkerCoordinator.mem_of_getWorkerRecord hfound).1

/-- The index has a member as the roster says. -/
theorem getWorker_member (h : Shows s r) {id : String} {m : Member} (hm : r.members id = some m) :
    s.getWorker id = some m.indexed := by
  rw [h.index, hm, Option.map_some]

/-- The lease of a member is as the roster says. -/
theorem getLease_member (h : Shows s r) {id : String} {m : Member} (hm : r.members id = some m) :
    s.getLease id = m.lease := by
  rw [h.leases, hm, Option.bind_some]

/-- If an operation changes one worker only, it is enough to look at that
worker. -/
theorem edit {s' : WorkerPlane} {workerId : String} {f : Member → Member} {m m' : Member}
    (h : Shows s r) (hm : r.members workerId = some m) (hf : f m = m')
    (horigin : m.SameOrigin m')
    (hindex : ∀ id, s'.getWorker id = if id = workerId then some m'.indexed else s.getWorker id)
    (hrecords : ∀ runId id, '/' ∉ id.toList → s'.coordinator.getWorkerRecord runId id =
      if id = workerId then if m.record.runId = runId then some m'.record else none
      else s.coordinator.getWorkerRecord runId id)
    (hrecordIds : ∀ worker ∈ s'.coordinator.workers.rows,
      ∃ old ∈ s.coordinator.workers.rows, old.workerId = worker.workerId)
    (hleases : ∀ id, s'.getLease id = if id = workerId then m'.lease else s.getLease id)
    (hleaseRun : ∀ lease, m'.lease = some lease → lease.runId = m.record.runId)
    (hsets : ∀ runId id, id ∈ s'.manager.runWorkers runId ↔
      if id = workerId then m.record.runId = runId ∧ m'.listed = true
      else id ∈ s.manager.runWorkers runId)
    (hnodup : ∀ runId, (s'.manager.runWorkers runId).Nodup)
    (hranks : s'.manager.rankCounters = s.manager.rankCounters) :
    Shows s' (r.edit workerId f) := by
  obtain ⟨hworkerId, hrunId, _⟩ := horigin
  have hmembers : ∀ id, (r.edit workerId f).members id =
      if id = workerId then some m' else r.members id := by
    intro id
    rw [Roster.members_edit, hm, Option.map_some, hf]
  have hcases : ∀ id found, (r.edit workerId f).members id = some found →
      (id = workerId ∧ found = m') ∨ (id ≠ workerId ∧ r.members id = some found) := by
    intro id found hfound
    rw [hmembers] at hfound
    split at hfound
    · next hid => exact Or.inl ⟨hid, (Option.some.inj hfound).symm⟩
    · next hid => exact Or.inr ⟨hid, hfound⟩
  constructor
  · intro id found hfound
    rcases hcases id found hfound with ⟨rfl, rfl⟩ | ⟨_, hold⟩
    · exact ⟨hworkerId.trans (h.ids id m hm).1, (h.ids id m hm).2⟩
    · exact h.ids id found hold
  · intro id
    rw [hindex, hmembers]
    split
    · rfl
    · exact h.index id
  · intro runId id hid
    rw [hrecords runId id hid, hmembers]
    split
    · rw [Option.bind_some, hrunId]
    · exact h.records runId id hid
  · intro worker hworker
    obtain ⟨old, hold, hid⟩ := hrecordIds worker hworker
    exact hid ▸ h.recordIds old hold
  · intro id
    rw [hleases, hmembers]
    split
    · rfl
    · exact h.leases id
  · intro id found lease hfound hlease
    rcases hcases id found hfound with ⟨_, rfl⟩ | ⟨_, hold⟩
    · exact (hleaseRun lease hlease).trans hrunId.symm
    · exact h.leaseRuns id found lease hold hlease
  · intro runId id
    rw [hsets, hmembers]
    split
    · constructor
      · exact fun hin => ⟨m', rfl, hrunId.trans hin.1, hin.2⟩
      · intro hin
        obtain ⟨found, hfound, hrun, hlisted⟩ := hin
        obtain rfl := Option.some.inj hfound
        exact ⟨hrunId.symm.trans hrun, hlisted⟩
    · exact h.sets runId id
  · exact hnodup
  · exact hranks.trans h.ranks

/-! What an operation leaves alone, in the form that `edit` asks for. -/

/-- An edit that keeps the entry in the index. -/
theorem worker_same (h : Shows s r) {workerId : String} {m m' : Member}
    (hm : r.members workerId = some m) (hsame : m'.indexed = m.indexed) (id : String) :
    s.getWorker id = if id = workerId then some m'.indexed else s.getWorker id := by
  split
  · next hid => rw [hid, h.getWorker_member hm, hsame]
  · rfl

/-- An edit that keeps the record. -/
theorem record_same (h : Shows s r) {workerId : String} {m m' : Member}
    (hm : r.members workerId = some m) (hsame : m'.record = m.record) (runId id : String)
    (hid : '/' ∉ id.toList) : s.coordinator.getWorkerRecord runId id =
      if id = workerId then if m.record.runId = runId then some m'.record else none
      else s.coordinator.getWorkerRecord runId id := by
  split
  · next heq => rw [h.records runId id hid, heq, hm, hsame, Option.bind_some]
  · rfl

/-- An edit that keeps the lease. -/
theorem lease_same (h : Shows s r) {workerId : String} {m m' : Member}
    (hm : r.members workerId = some m) (hsame : m'.lease = m.lease) (id : String) :
    s.getLease id = if id = workerId then m'.lease else s.getLease id := by
  split
  · next hid => rw [hid, h.getLease_member hm, hsame]
  · rfl

/-- An edit that keeps the sets of the runs. -/
theorem sets_same (h : Shows s r) {workerId : String} {m m' : Member}
    (hm : r.members workerId = some m) (hsame : m'.listed = m.listed) (runId id : String) :
    id ∈ s.manager.runWorkers runId ↔
      if id = workerId then m.record.runId = runId ∧ m'.listed = true
      else id ∈ s.manager.runWorkers runId := by
  split
  · next hid =>
    rw [hid, h.sets, hm, hsame]
    simp
  · exact Iff.rfl

/-! The parts of an operation. -/

/-- `_workers[worker_id]` gets another status. -/
theorem setStatus (h : Shows s r) {workerId : String} {m : Member}
    (hm : r.members workerId = some m) (status : WorkerStatus) :
    Shows (s.setStatus workerId status)
      (r.edit workerId fun m => { m with status := status }) := by
  refine h.edit hm rfl ⟨rfl, rfl, rfl⟩ ?_ ?_ ?_ ?_ ?_ ?_ ?_ ?_
  · intro id
    rw [getWorker_setStatus, h.getWorker_member hm]
    rfl
  · rw [coordinator_setStatus]
    exact h.record_same hm rfl
  · rw [coordinator_setStatus]
    exact fun worker hworker => ⟨worker, hworker, rfl⟩
  · simp only [getLease_setStatus]
    exact h.lease_same hm rfl
  · exact fun lease => h.leaseRuns workerId m lease hm
  · rw [runWorkers_setStatus]
    exact h.sets_same hm rfl
  · rw [runWorkers_setStatus]
    exact h.nodup
  · rw [rankCounters_setStatus]

/-- `mark_worker_dead` of a member. -/
theorem markWorkerDead (h : Shows s r) {workerId : String} {m : Member}
    (hm : r.members workerId = some m) {runId : String} (hrun : m.record.runId = runId)
    (status : WorkerStatus) :
    Shows (s.markWorkerDead runId workerId status)
      (r.edit workerId fun m => { m with record := { m.record with status := status } }) := by
  obtain ⟨_, hslash⟩ := h.ids workerId m hm
  refine h.edit hm rfl ⟨rfl, rfl, rfl⟩ (h.worker_same hm rfl) ?_
    (fun _ => s.mem_markWorkerDead) (h.lease_same hm rfl)
    (fun lease => h.leaseRuns workerId m lease hm) (h.sets_same hm rfl) h.nodup rfl
  intro runId' id hid
  rw [getWorkerRecord_markWorkerDead s id hslash status runId' hid, h.records _ _ hslash, hm]
  by_cases hworker : id = workerId
  · by_cases hrun' : runId' = runId
    · simp [hworker, hrun, hrun']
    · have hother : m.record.runId ≠ runId' := fun heq => hrun' (heq.symm.trans hrun)
      simp [hworker, hrun', hother, h.records runId' workerId hslash, hm]
  · simp [hworker]

/-- `unregister` of a member. -/
theorem unregister (h : Shows s r) {workerId : String} {m : Member}
    (hm : r.members workerId = some m) :
    Shows (s.unregister workerId) (r.edit workerId fun m => { m with lease := none }) := by
  refine h.edit hm rfl ⟨rfl, rfl, rfl⟩ (h.worker_same hm rfl) (h.record_same hm rfl)
    (fun worker hworker => ⟨worker, hworker, rfl⟩) ?_ ?_ (h.sets_same hm rfl) h.nodup rfl
  · exact fun id => s.getLease_unregister id workerId
  · intro lease hlease
    cases hlease

/-- A member gets a lease. -/
theorem setLease (h : Shows s r) {lease : WorkerLease} {m : Member}
    (hm : r.members lease.workerId = some m) (hrun : lease.runId = m.record.runId) :
    Shows (s.setLease lease) (r.edit lease.workerId fun m => { m with lease := some lease }) := by
  refine h.edit hm rfl ⟨rfl, rfl, rfl⟩ (h.worker_same hm rfl) (h.record_same hm rfl)
    (fun worker hworker => ⟨worker, hworker, rfl⟩) ?_ ?_ (h.sets_same hm rfl) h.nodup rfl
  · exact fun id => s.getLease_setLease id lease
  · intro found hfound
    obtain rfl := Option.some.inj hfound
    exact hrun

/-- A member leaves the set of its run. -/
theorem discardFromRun (h : Shows s r) {workerId : String} {m : Member}
    (hm : r.members workerId = some m) {runId : String} (hrun : m.record.runId = runId) :
    Shows (s.discardFromRun runId workerId)
      (r.edit workerId fun m => { m with listed := false }) := by
  refine h.edit hm rfl ⟨rfl, rfl, rfl⟩ (h.worker_same hm rfl) (h.record_same hm rfl)
    (fun worker hworker => ⟨worker, hworker, rfl⟩) (h.lease_same hm rfl)
    (fun lease => h.leaseRuns workerId m lease hm) ?_ ?_ rfl
  · intro runId' id
    have hother : runId' ≠ runId → id = workerId → id ∉ s.manager.runWorkers runId' := by
      intro hne hid hin
      obtain ⟨found, hfound, hrun', _⟩ := (h.sets runId' id).mp hin
      rw [hid, hm] at hfound
      obtain rfl := Option.some.inj hfound
      exact hne (hrun'.symm.trans hrun)
    by_cases hsame : runId' = runId
    · simp [WorkerPlane.discardFromRun, hsame, (h.nodup runId).mem_erase_iff]
    · simp only [WorkerPlane.discardFromRun, if_neg hsame, Bool.false_eq_true, and_false]
      split
      · next hid => exact iff_of_false (hother hsame hid) not_false
      · exact Iff.rfl
  · intro runId'
    simp only [WorkerPlane.discardFromRun]
    split
    · exact (h.nodup runId').erase _
    · exact h.nodup runId'

/-! The operations on one worker. -/

/-- A worker that is retired: the index and its record are marked, and its
lease goes. -/
theorem retire (h : Shows s r) {workerId : String} {m : Member}
    (hm : r.members workerId = some m) {runId : String} (hrun : m.record.runId = runId)
    (status : WorkerStatus) :
    Shows (((s.setStatus workerId status).markWorkerDead runId workerId status).unregister
        workerId)
      (r.edit workerId fun m =>
        { m with record := { m.record with status := status }, status := status,
                 lease := none }) := by
  have hstatus := h.setStatus hm status
  have hmarked := hstatus.markWorkerDead (Roster.members_edit_self hm _) hrun status
  have hgone := hmarked.unregister (Roster.members_edit_self (Roster.members_edit_self hm _) _)
  rw [Roster.edit_edit, Roster.edit_edit] at hgone
  exact hgone

/-- A member is superseded by a new worker of its rank. -/
theorem supersede (h : Shows s r) {runId workerId : String}
    (hmem : workerId ∈ s.manager.runWorkers runId) (rank : Int) :
    Shows (WorkerPlane.supersede runId rank s workerId)
      (r.edit workerId (.superseded runId rank)) := by
  obtain ⟨m, hm, hrun, hlisted⟩ := (h.sets runId workerId).mp hmem
  have hworker := h.getWorker_member hm
  simp only [WorkerPlane.supersede, hworker]
  split
  · next hcond =>
    have hcond' : m.record.rank = rank ∧ m.status = .active := hcond
    have hretired := h.retire hm hrun .superseded
    rwa [Roster.edit_congr] at hretired
    intro m' hm'
    obtain rfl := Option.some.inj (hm.symm.trans hm')
    exact (if_pos ⟨hrun, hlisted, hcond'⟩).symm
  · next hcond =>
    rw [Roster.edit_id]
    · exact h
    · intro m' hm'
      obtain rfl := Option.some.inj (hm.symm.trans hm')
      exact if_neg fun hall => hcond hall.2.2

/-- Removing the lease of a worker that nobody knows changes nothing. -/
theorem unregister_missing (h : Shows s r) {workerId : String} (hm : r.members workerId = none) :
    Shows (s.unregister workerId) r := by
  refine { h with leases := ?_ }
  intro id
  rw [getLease_unregister]
  split
  · next hid => rw [hid, hm, Option.bind_none]
  · exact h.leases id

/-- `deregister_worker`. -/
theorem deregisterWorker (h : Shows s r) (workerId : String) :
    Shows (s.deregisterWorker workerId) (r.edit workerId .deregistered) := by
  cases hm : r.members workerId with
  | none =>
      have hworker : s.getWorker workerId = none := by rw [h.index, hm, Option.map_none]
      rw [Roster.edit_id (by simp [hm])]
      simp only [WorkerPlane.deregisterWorker, hworker]
      exact h.unregister_missing hm
  | some m =>
      have hworker := h.getWorker_member hm
      have hretired := h.retire hm rfl .deregistered
      have hdiscarded := hretired.discardFromRun (Roster.members_edit_self hm _) rfl
      rw [Roster.edit_edit] at hdiscarded
      simp only [WorkerPlane.deregisterWorker, hworker]
      exact hdiscarded

/-- A worker is declared dead. -/
theorem declareDead (h : Shows s r) {lease : WorkerLease}
    (hlease : s.getLease lease.workerId = some lease) :
    Shows (s.declareDead lease) (r.edit lease.workerId .died) := by
  rw [h.leases] at hlease
  obtain ⟨m, hm, hleaseOf⟩ := Option.bind_eq_some_iff.mp hlease
  have hrun := h.leaseRuns _ m lease hm hleaseOf
  have hdead : Shows (s.setLease { lease with isAlive := false }) (r.edit lease.workerId fun m =>
      { m with lease := some { lease with isAlive := false } }) := h.setLease hm hrun
  have hm' := Roster.members_edit_self hm fun m =>
    { m with lease := some { lease with isAlive := false } }
  have hmarked := hdead.markWorkerDead hm' hrun.symm .dead
  have hstatus := hmarked.setStatus (Roster.members_edit_self hm' _) .dead
  rw [Roster.edit_edit, Roster.edit_edit] at hstatus
  rwa [Roster.edit_congr] at hstatus
  intro m' hm'
  obtain rfl := Option.some.inj (hm.symm.trans hm')
  simp [Member.died, hleaseOf]

/-- A worker of a run that is restarted. -/
theorem restartWorker (h : Shows s r) {runId : String} {worker : WorkerInfo} {m : Member}
    (hm : r.members worker.workerId = some m) (hrecord : m.record = worker)
    (hlisted : m.inListing runId = true) :
    Shows (WorkerPlane.restartWorker runId s worker)
      (r.edit worker.workerId (.restarted runId)) := by
  obtain ⟨_, hslash⟩ := h.ids _ m hm
  let f : Member → Member := fun m =>
    { m with
      record := if m.record.status = .active ∧ m.record.runId = runId
        then { m.record with status := .dead } else m.record }
  -- only an active record of this very run is marked
  have hmarked : Shows (if worker.status = .active
      then s.markWorkerDead runId worker.workerId .dead else s) (r.edit worker.workerId f) := by
    have hsame : ¬ (worker.status = .active ∧ worker.runId = runId) →
        r.edit worker.workerId f = r := by
      intro hno
      apply Roster.edit_id
      intro m' hm'
      obtain rfl := Option.some.inj (hm.symm.trans hm')
      simp only [f, hrecord, if_neg hno]
      rw [← hrecord]
    by_cases hactive : worker.status = .active
    · rw [if_pos hactive]
      by_cases hrun : worker.runId = runId
      · have hdead := h.markWorkerDead hm (hrecord ▸ hrun) .dead
        rwa [Roster.edit_congr] at hdead
        intro m' hm'
        obtain rfl := Option.some.inj (hm.symm.trans hm')
        simp [f, hrecord, hactive, hrun]
      · have hmissing : s.coordinator.getWorkerRecord runId worker.workerId = none := by
          rw [h.records _ _ hslash, hm, Option.bind_some, hrecord, if_neg hrun]
        have hstay : s.markWorkerDead runId worker.workerId .dead = s := by
          simp only [WorkerPlane.markWorkerDead, WorkerCoordinator.markWorkerDead,
            WorkerCoordinator.editWorker, hmissing]
        rw [hstay, hsame fun hall => hrun hall.2]
        exact h
    · rw [if_neg hactive, hsame fun hall => hactive hall.1]
      exact h
  have hm' := Roster.members_edit_self hm f
  have hstatus := hmarked.setStatus hm' .dead
  have hgone := hstatus.unregister (Roster.members_edit_self hm' _)
  rw [Roster.edit_edit, Roster.edit_edit] at hgone
  rwa [Roster.edit_congr] at hgone
  intro m' hm'
  obtain rfl := Option.some.inj (hm.symm.trans hm')
  exact (if_pos hlisted).symm

/-- A record that is written to the store and to the index, and the lease
touched. -/
theorem hear (h : Shows s r) {workerId : String} {m : Member}
    (hm : r.members workerId = some m) (updated : WorkerInfo)
    (horigin : updated.workerId = m.record.workerId ∧ updated.runId = m.record.runId ∧
      updated.rank = m.record.rank) (hstatus : updated.status = m.status) {t : WorkerPlane}
    (hworkers : t.coordinator.workers = (s.coordinator.putWorker updated).workers)
    (hmanager : t.manager = (s.setWorker updated).manager)
    (hheartbeats : t.heartbeats = s.heartbeats) (step : Int) (now : Nat) {f : Member → Member}
    (hf : f m = { m with record := updated,
                         lease := m.lease.map fun lease => lease.touch step now }) :
    Shows (t.recordHeartbeat workerId step now) (r.edit workerId f) := by
  obtain ⟨hid, hslash⟩ := h.ids workerId m hm
  obtain ⟨hcoordinator, hother⟩ := t.recordHeartbeat_other workerId step now
  have hupdated : updated.workerId = workerId := horigin.1.trans hid
  refine h.edit hm hf horigin ?_ ?_ ?_ ?_ ?_ ?_ ?_ ?_
  · intro id
    have hindexed : { updated with status := m.status } = updated := by rw [← hstatus]
    rw [getWorker, hother, hmanager, Member.indexed, hindexed, ← hupdated]
    exact s.getWorker_setWorker id updated
  · intro runId id hslash'
    have hslashNew : '/' ∉ updated.workerId.toList := hupdated ▸ hslash
    have hput := s.coordinator.getWorkerRecord_putWorker_of_id runId id hslash' hslashNew
    rw [hcoordinator, WorkerCoordinator.getWorkerRecord, hworkers]
    apply hput.trans
    rw [hupdated, horigin.2.1]
    by_cases hworker : id = workerId
    · by_cases hrun : runId = m.record.runId
      · simp [hworker, hrun]
      · have hrun' : m.record.runId ≠ runId := fun heq => hrun heq.symm
        simp [hworker, hrun, hrun', h.records runId workerId hslash, hm]
    · simp [hworker]
  · intro worker hworker
    rw [hcoordinator, hworkers] at hworker
    rcases (Table.mem_put ..).mp hworker with hnew | hold
    · exact ⟨m.record, h.mem_of_member hm, by rw [hnew, horigin.1]⟩
    · exact ⟨worker, hold.1, rfl⟩
  · intro id
    have hleases : ∀ id, t.getLease id = s.getLease id := by
      intro id
      rw [getLease, hheartbeats]
      rfl
    rw [getLease_recordHeartbeat, hleases, hleases, h.getLease_member hm]
  · intro lease hlease
    obtain ⟨old, hold, rfl⟩ := Option.map_eq_some_iff.mp hlease
    exact h.leaseRuns workerId m old hm hold
  · rw [hother, hmanager]
    exact h.sets_same hm rfl
  · rw [hother, hmanager]
    exact h.nodup
  · rw [hother, hmanager]
    rfl

/-- A heartbeat. -/
theorem heartbeat (h : Shows s r) (workerId : String) (step : Int) (now : Nat) :
    Shows (s.workerHeartbeat workerId step now).1 (r.edit workerId (.heard step now)) := by
  cases hm : r.members workerId with
  | none =>
      have hworker : s.getWorker workerId = none := by rw [h.index, hm, Option.map_none]
      rw [Roster.edit_id (by simp [hm])]
      simp only [workerHeartbeat, updateWorkerHeartbeat, hworker]
      exact h
  | some m =>
      have hworker := h.getWorker_member hm
      by_cases hactive : m.status = .active
      · obtain ⟨hid, hslash⟩ := h.ids workerId m hm
        let updated : WorkerInfo :=
          { m.record with lastHeartbeat := some now, currentStep := step, status := .active }
        have hrecord : s.coordinator.getWorkerRecord m.record.runId workerId = some m.record := by
          rw [h.records _ _ hslash, hm, Option.bind_some, if_pos rfl]
        have hheard : s.coordinator.heartbeat m.indexed.runId workerId step now =
            (s.coordinator.putWorker updated, .ok updated) := by
          have hrun : m.indexed.runId = m.record.runId := rfl
          rw [WorkerCoordinator.heartbeat, WorkerCoordinator.editWorker, hrun, hrecord]
        have hindexed : m.indexed.status = .active := hactive
        simp only [workerHeartbeat, updateWorkerHeartbeat, hworker, hindexed, hheard,
          WorkerStatus.fenced, ne_eq, not_true_eq_false, if_false, Bool.false_eq_true]
        refine h.hear hm updated ⟨rfl, rfl, rfl⟩ hactive.symm ?_ ?_ ?_ step now (if_pos hactive)
        all_goals rfl
      · have hrefused : (s.workerHeartbeat workerId step now).1 = s := by
          have hindexed : m.indexed.status ≠ .active := hactive
          simp only [workerHeartbeat, updateWorkerHeartbeat, hworker, if_pos hindexed]
          split <;> rfl
        rw [hrefused, Roster.edit_id]
        · exact h
        · intro m' hm'
          obtain rfl := Option.some.inj (hm.symm.trans hm')
          exact if_neg hactive

/-- A new worker registers. -/
theorem enroll (h : Shows s r) {workerId : String} (hid : isWorkerId workerId = true)
    (hfresh : r.members workerId = none) (runId hostname : String) (rank : Int) (now : Nat) :
    Shows (s.enroll runId rank hostname workerId now).1
      (r.add workerId (.new runId rank hostname workerId now)) := by
  have hslash := slash_notMem_of_isWorkerId hid
  have hmembers : ∀ id, (r.add workerId (.new runId rank hostname workerId now)).members id =
      if id = workerId then some (.new runId rank hostname workerId now) else r.members id :=
    fun _ => rfl
  constructor
  · intro id m hm
    rw [hmembers] at hm
    split at hm
    · next heq =>
      obtain rfl := Option.some.inj hm
      exact ⟨heq.symm, heq ▸ hslash⟩
    · exact h.ids id m hm
  · intro id
    rw [hmembers]
    apply (s.getWorker_setWorker id _).trans
    by_cases heq : id = workerId
    · simp only [heq, if_true]
      rfl
    · simp only [heq, if_false]
      exact h.index id
  · intro runId' id hid'
    rw [hmembers]
    apply (s.coordinator.getWorkerRecord_putWorker_of_id runId' id hid' hslash).trans
    by_cases heq : id = workerId
    · by_cases hrun : runId' = runId
      · simp [heq, hrun, Member.new]
      · have hrun' : runId ≠ runId' := fun hsame => hrun hsame.symm
        simp [heq, hrun, hrun', Member.new, h.records runId' workerId hslash, hfresh]
    · simp only [heq, and_false, if_false]
      exact h.records runId' id hid'
  · intro worker hworker
    rcases (Table.mem_put ..).mp hworker with hnew | hold
    · rw [hnew]
      exact hslash
    · exact h.recordIds worker hold.1
  · intro id
    rw [hmembers]
    apply (s.getLease_setLease id _).trans
    by_cases heq : id = workerId
    · simp only [heq, if_true]
      rfl
    · simp only [heq, if_false]
      exact h.leases id
  · intro id m lease hm hlease
    rw [hmembers] at hm
    split at hm
    · obtain rfl := Option.some.inj hm
      obtain rfl := Option.some.inj hlease
      rfl
    · exact h.leaseRuns id m lease hm hlease
  · intro runId' id
    rw [hmembers]
    have hold : workerId ∉ s.manager.runWorkers runId' := by
      intro hin
      obtain ⟨m, hm, _⟩ := (h.sets runId' workerId).mp hin
      rw [hfresh] at hm
      cases hm
    show id ∈ (if runId' = runId then (s.manager.runWorkers runId').insert workerId
      else s.manager.runWorkers runId') ↔ _
    by_cases heq : id = workerId
    · by_cases hrun : runId' = runId
      · simp [heq, hrun, Member.new]
      · have hrun' : runId ≠ runId' := fun hsame => hrun hsame.symm
        simp [heq, hrun, hrun', Member.new, hold]
    · rw [if_neg heq, ← h.sets]
      split <;> simp [heq]
  · intro runId'
    show (if runId' = runId then (s.manager.runWorkers runId').insert workerId
      else s.manager.runWorkers runId').Nodup
    split
    · exact (h.nodup runId').insert
    · exact h.nodup runId'
  · exact h.ranks

end

end Shows

end CheckpointRuntime
