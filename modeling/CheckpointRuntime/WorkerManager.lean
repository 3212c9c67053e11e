import CheckpointRuntime.WorkerRecords
import CheckpointRuntime.RestHandlers
import CheckpointRuntime.Library.PartialRun

/-!
# Worker and heartbeat managers

`worker_manager.py`, `heartbeat.py` and the worker-group restart of `rest.py`,
wired as in `lifespan`.  The status of a worker is held three times: in its
record, in the index of the worker manager and, as far as it is alive, in its
lease.  Whether a group restart goes through depends on things outside these
managers, so the events say which ones do.
-/

namespace CheckpointRuntime

open KeyedTable PartialRun

/-- Tracks heartbeat state for a single worker. -/
structure WorkerLease where
  workerId : String
  runId : String
  lastHeartbeat : Nat
  lastStep : Int := 0
  isAlive : Bool := true
deriving DecidableEq, Repr

/-- Record a heartbeat. -/
def WorkerLease.touch (lease : WorkerLease) (step : Int) (now : Nat) : WorkerLease :=
  { lease with lastHeartbeat := now, lastStep := step, isAlive := true }

/-- The leases in the order in which they were made. -/
structure HeartbeatManager where
  deadThreshold : Nat
  leases : Table WorkerLease (·.workerId)

/-- The index of workers, the ids of each run, and the next automatic ranks.
The order of the ids of a run has no meaning. -/
structure WorkerManager where
  workers : Table WorkerInfo (·.workerId)
  runWorkers : String → List String
  rankCounters : String → Int

/-- The managers and the coordinator that they share. -/
structure WorkerPlane where
  coordinator : WorkerCoordinator
  heartbeats : HeartbeatManager
  manager : WorkerManager

/-- A heartbeat passes its step on to the run, where it only grows; a failure
to write it is dropped. -/
def Coordinator.propagateStep (c : Coordinator) (runId : String) (step : Int) (now : Nat) :
    Coordinator :=
  match c.getRun runId with
  | none => c
  | some status =>
      if 0 < step ∧ status.currentStep < step then (c.updateRunStep runId step now).1 else c

theorem ControlPlane.heartbeatStep_coordinator (cp : ControlPlane) (runId : String) (step : Int)
    (now : Nat) : (cp.heartbeatStep runId step now).coordinator =
      cp.coordinator.propagateStep runId step now := by
  unfold heartbeatStep Coordinator.propagateStep
  cases cp.coordinator.getRun runId with
  | none => rfl
  | some status =>
      dsimp only
      split <;> rfl

namespace WorkerPlane

/-! ## What the operations are made of -/

def getWorker (s : WorkerPlane) (workerId : String) : Option WorkerInfo :=
  s.manager.workers.find workerId

def getLease (s : WorkerPlane) (workerId : String) : Option WorkerLease :=
  s.heartbeats.leases.find workerId

/-- `_workers[worker_id] = worker`. -/
def setWorker (s : WorkerPlane) (worker : WorkerInfo) : WorkerPlane :=
  { s with manager := { s.manager with workers := s.manager.workers.put .atEnd worker } }

/-- `worker.status = status` on the object in the index, if there is one. -/
def setStatus (s : WorkerPlane) (workerId : String) (status : WorkerStatus) : WorkerPlane :=
  match s.getWorker workerId with
  | none => s
  | some worker => s.setWorker { worker with status := status }

/-- `_run_workers.setdefault(run_id, set()).add(worker_id)`. -/
def addToRun (s : WorkerPlane) (runId workerId : String) : WorkerPlane :=
  { s with
    manager := { s.manager with
      runWorkers := fun r =>
        if r = runId then (s.manager.runWorkers r).insert workerId
        else s.manager.runWorkers r } }

/-- `_run_workers.get(run_id).discard(worker_id)`. -/
def discardFromRun (s : WorkerPlane) (runId workerId : String) : WorkerPlane :=
  { s with
    manager := { s.manager with
      runWorkers := fun r =>
        if r = runId then (s.manager.runWorkers r).erase workerId
        else s.manager.runWorkers r } }

def setRankCounter (s : WorkerPlane) (runId : String) (next : Int) : WorkerPlane :=
  { s with
    manager := { s.manager with
      rankCounters := fun r => if r = runId then next else s.manager.rankCounters r } }

def setLease (s : WorkerPlane) (lease : WorkerLease) : WorkerPlane :=
  { s with heartbeats := { s.heartbeats with leases := s.heartbeats.leases.put .atEnd lease } }

/-- `HeartbeatManager.register`. -/
def makeLease (s : WorkerPlane) (workerId runId : String) (now : Nat) : WorkerPlane :=
  s.setLease { workerId := workerId, runId := runId, lastHeartbeat := now }

/-- `HeartbeatManager.unregister`.  A scan that still holds the lease finds it
dead, which here means that it does not find it. -/
def unregister (s : WorkerPlane) (workerId : String) : WorkerPlane :=
  { s with heartbeats := { s.heartbeats with leases := s.heartbeats.leases.erase workerId } }

/-- `HeartbeatManager.record_heartbeat`. -/
def recordHeartbeat (s : WorkerPlane) (workerId : String) (step : Int) (now : Nat) :
    WorkerPlane :=
  match s.getLease workerId with
  | none => s
  | some lease => s.setLease (lease.touch step now)

/-- `Coordinator.mark_worker_dead` with its `KeyError` suppressed. -/
def markWorkerDead (s : WorkerPlane) (runId workerId : String) (status : WorkerStatus) :
    WorkerPlane :=
  { s with coordinator := (s.coordinator.markWorkerDead runId workerId status).1 }

/-! ## Registration -/

/-- Retire an earlier registration of a rank. -/
def supersede (runId : String) (rank : Int) (s : WorkerPlane) (oldWorkerId : String) :
    WorkerPlane :=
  match s.getWorker oldWorkerId with
  | none => s
  | some oldWorker =>
      if oldWorker.rank = rank ∧ oldWorker.status = .active then
        ((s.setStatus oldWorkerId .superseded).markWorkerDead runId oldWorkerId
          .superseded).unregister oldWorkerId
      else
        s

/-- The second half of `register_worker`: a worker with a rank. -/
def enroll (s : WorkerPlane) (runId : String) (rank : Int) (hostname workerId : String)
    (now : Nat) : WorkerPlane × WorkerInfo :=
  let (coordinator, worker) := s.coordinator.registerWorker runId rank hostname workerId now
  let s := { s with coordinator := coordinator }
  (((s.setWorker worker).addToRun runId workerId).makeLease workerId runId now, worker)

/-- `_next_rank`. -/
def nextRank (s : WorkerPlane) (runId : String) : WorkerPlane × Int :=
  let rank := s.manager.rankCounters runId
  (s.setRankCounter runId (rank + 1), rank)

/-- Register a new worker for a training run. -/
def registerWorker (s : WorkerPlane) (runId hostname : String) (rank : Option Int)
    (workerId : String) (now : Nat) : WorkerPlane × WorkerInfo :=
  match rank with
  | none =>
      let (s, rank) := s.nextRank runId
      s.enroll runId rank hostname workerId now
  | some rank =>
      let s := s.setRankCounter runId (max (s.manager.rankCounters runId) (rank + 1))
      let s := (s.manager.runWorkers runId).foldl (supersede runId rank) s
      s.enroll runId rank hostname workerId now

/-- Remove a worker from tracking and heartbeat monitoring. -/
def deregisterWorker (s : WorkerPlane) (workerId : String) : WorkerPlane :=
  match s.getWorker workerId with
  | none => s.unregister workerId
  | some worker =>
      (((s.setStatus workerId .deregistered).discardFromRun worker.runId workerId).markWorkerDead
        worker.runId workerId .deregistered).unregister workerId

/-! ## Heartbeats -/

/-- Process a heartbeat from a worker. -/
def updateWorkerHeartbeat (s : WorkerPlane) (workerId : String) (step : Int) (now : Nat) :
    WorkerPlane × Option WorkerInfo :=
  match s.getWorker workerId with
  | none => (s, none)
  | some worker =>
      if worker.status ≠ .active then
        (s, none)
      else
        let (coordinator, heard) := s.coordinator.heartbeat worker.runId workerId step now
        let s := { s with coordinator := coordinator }
        match heard with
        | .error _ => (s, none)
        | .ok updated =>
            let s := s.setWorker updated
            let propagated := s.coordinator.toCoordinator.propagateStep worker.runId step now
            let s := { s with
              coordinator := { s.coordinator with toCoordinator := propagated } }
            (s.recordHeartbeat workerId step now, some updated)

/-- `POST /api/workers/{worker_id}/heartbeat`. -/
def workerHeartbeat (s : WorkerPlane) (workerId : String) (step : Int) (now : Nat) :
    WorkerPlane × Except HttpException Unit :=
  let heard := s.updateWorkerHeartbeat workerId step now
  let answered :=
    match heard.2 with
    | none => (heard.1, .error (ControlPlane.notFound "Worker" workerId))
    | some _ => (heard.1, .ok ())
  match s.getWorker workerId with
  | some known =>
      if known.status.fenced then
        (s, .error ⟨409, "Worker " ++ pyRepr workerId ++ " is no longer active (status=" ++
          known.status.value ++ ")"⟩)
      else
        answered
  | none => answered

/-! ## Queries -/

/-- Return all tracked workers for a given run. -/
def getRunWorkers (s : WorkerPlane) (runId : String) : List WorkerInfo :=
  (s.manager.runWorkers runId).filterMap s.getWorker

def activeWorkerCount (s : WorkerPlane) (runId : String) : Nat :=
  (s.getRunWorkers runId).countP fun worker => decide (worker.status = .active)

/-! ## Failures and restarts -/

/-- Take one worker of a listing down before its group is restarted. -/
def restartWorker (runId : String) (s : WorkerPlane) (worker : WorkerInfo) : WorkerPlane :=
  let s := if worker.status = .active then s.markWorkerDead runId worker.workerId .dead else s
  (s.setStatus worker.workerId .dead).unregister worker.workerId

/-- `_schedule_worker_group_restart`, once it is allowed to restart. -/
def restartGroup (s : WorkerPlane) (runId : String) : WorkerPlane :=
  (s.coordinator.listWorkers runId).foldl (restartWorker runId) s

/-- Declare the worker of a lease dead: its record is marked, and the callback
of the worker manager marks it in the index. -/
def declareDead (s : WorkerPlane) (lease : WorkerLease) : WorkerPlane :=
  ((s.setLease { lease with isAlive := false }).markWorkerDead lease.runId lease.workerId
    .dead).setStatus lease.workerId .dead

/-- One lease of a scan.  The recovery manager's callback runs last; it may
restart the group of the run. -/
def checkWorker (clock : String → Nat) (restarts : String → Bool) (s : WorkerPlane)
    (workerId : String) : WorkerPlane :=
  match s.getLease workerId with
  | none => s
  | some lease =>
      if lease.isAlive ∧ lease.lastHeartbeat + s.heartbeats.deadThreshold < clock workerId then
        if restarts workerId then (s.declareDead lease).restartGroup lease.runId
        else s.declareDead lease
      else
        s

/-- `_check_workers`: the clock is read anew for each lease of the snapshot. -/
def checkWorkers (s : WorkerPlane) (clock : String → Nat) (restarts : String → Bool) :
    WorkerPlane :=
  (s.heartbeats.leases.rows.map (·.workerId)).foldl (checkWorker clock restarts) s

/-- Restore one persisted worker. -/
def rehydrateWorker (now : Nat) (s : WorkerPlane) (worker : WorkerInfo) : WorkerPlane :=
  let s := (s.setWorker worker).addToRun worker.runId worker.workerId
  let s := s.setRankCounter worker.runId
    (max (s.manager.rankCounters worker.runId) (worker.rank + 1))
  if worker.status = .active then s.makeLease worker.workerId worker.runId now else s

/-- Managers that know nothing yet. -/
def blank (coordinator : WorkerCoordinator) (deadThreshold : Nat) : WorkerPlane where
  coordinator := coordinator
  heartbeats := { deadThreshold := deadThreshold, leases := .empty }
  manager := { workers := .empty, runWorkers := fun _ => [], rankCounters := fun _ => 0 }

/-- Fresh managers, rehydrated from a coordinator. -/
def rehydrate (coordinator : WorkerCoordinator) (deadThreshold now : Nat) : WorkerPlane :=
  (coordinator.listWorkers "").foldl (rehydrateWorker now) (blank coordinator deadThreshold)

/-- Replace both managers by fresh ones over the same coordinator. -/
def replaceManagers (s : WorkerPlane) (now : Nat) : WorkerPlane :=
  rehydrate s.coordinator s.heartbeats.deadThreshold now

/-- A control plane that has just started over an empty store. -/
def init (store : KVStore) (deadThreshold : Nat) : WorkerPlane :=
  blank (.init store) deadThreshold

end WorkerPlane

/-- The operations of the worker manager.  A failure callback comes for a
worker whose lease is alive. -/
inductive WorkerOp
  | register (runId hostname : String) (rank : Option Int) (workerId : String)
  | heartbeat (workerId : String) (step : Int)
  | deregister (workerId : String)
  | workerFailure (workerId : String)
  | restartGroup (runId : String)

/-- What may happen to a control plane: an operation, a scan of the leases, a
restart of the process, or anything that changes runs and checkpoints only. -/
inductive WorkerEvent
  | op (op : WorkerOp)
  | checkWorkers (clock : String → Nat) (restarts : String → Bool)
  | restart
  | other (coordinator : Coordinator)

namespace WorkerPlane

/-- An id that `uuid4` may hand out next.  Records are never deleted, so they
know the ids that it has handed out. -/
def freshWorkerId (s : WorkerPlane) (workerId : String) : Bool :=
  isWorkerId workerId &&
    decide (workerId ∉ s.coordinator.workers.rows.map (·.workerId))

/-- Serve an operation, if it can occur. -/
def serve (s : WorkerPlane) (event : WorkerOp × Nat) : Option WorkerPlane :=
  match event.1 with
  | .register runId hostname rank workerId =>
      if s.freshWorkerId workerId then
        some (s.registerWorker runId hostname rank workerId event.2).1
      else
        none
  | .heartbeat workerId step => some (s.workerHeartbeat workerId step event.2).1
  | .deregister workerId => some (s.deregisterWorker workerId)
  | .workerFailure workerId =>
      match s.getLease workerId with
      | none => none
      | some lease => if lease.isAlive then some (s.declareDead lease) else none
  | .restartGroup runId => some (s.restartGroup runId)

/-- A failure is reported of a worker with a lease that is alive. -/
theorem serve_workerFailure_eq_some {s s' : WorkerPlane} {workerId : String} {now : Nat}
    (h : s.serve (.workerFailure workerId, now) = some s') :
    ∃ lease, s.getLease workerId = some lease ∧ lease.isAlive = true ∧
      s.declareDead lease = s' := by
  unfold serve at h
  dsimp only at h
  split at h
  · cases h
  · next lease hlease =>
    obtain ⟨halive, hsome⟩ := Option.ite_none_right_eq_some.mp h
    exact ⟨lease, hlease, halive, Option.some.inj hsome⟩

/-- Let one thing happen, if it can.  A new process has a new coordinator over
the same store. -/
def step (s : WorkerPlane) (event : WorkerEvent × Nat) : Option WorkerPlane :=
  match event.1 with
  | .op op => s.serve (op, event.2)
  | .checkWorkers clock restarts => some (s.checkWorkers clock restarts)
  | .restart =>
      let coordinator := { s.coordinator with fsms := fun _ => none }
      some (rehydrate coordinator s.heartbeats.deadThreshold event.2)
  | .other coordinator =>
      let changed := { coordinator with store := s.coordinator.store }
      some { s with coordinator := { s.coordinator with toCoordinator := changed } }

end WorkerPlane

end CheckpointRuntime
