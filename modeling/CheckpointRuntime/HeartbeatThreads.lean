import CheckpointRuntime.WorkerFences
import CheckpointRuntime.WorkerLiveness
import CheckpointRuntime.TrainingHarness

/-!
# Heartbeat threads

The `HeartbeatThread` of `train.py` against the worker managers.  A thread sends
heartbeats for the worker that its process registered; when the control plane
answers 404 it registers again and goes on under the new id, and every other
failure is only logged.  The two requests are apart, and each may be lost on its
way or on its way back.

A training cluster is the control plane with all threads.  Its control plane may
do what `WorkerEvent` says, and it may forget everything, as one over the
in-memory store does when its process is replaced.
-/

namespace CheckpointRuntime

open PartialRun WorkerPlane

/-- A thread of one training process. -/
structure HeartbeatThread where
  workerId : String
  runId : String
  hostname : String
  rank : Int
  step : Int := 0
  /-- The last heartbeat was answered 404, and the thread is to register again. -/
  forgotten : Bool := false
  stopped : Bool := false

namespace HeartbeatThread

/-- The run and the rank of a thread. -/
def place (t : HeartbeatThread) : String × Int := (t.runId, t.rank)

/-- What the thread makes of the answer: only a 404 has it register again. -/
def heard (t : HeartbeatThread) : Except ClientError Unit → HeartbeatThread
  | .ok _ => t
  | .error e => if e.statusCode = some 404 then { t with forgotten := true } else t

/-- What the thread makes of its registration: a failure is only logged. -/
def registered (t : HeartbeatThread) :
    Except ClientError WorkerInfo → HeartbeatThread
  | .ok worker => { t with workerId := worker.workerId, forgotten := false }
  | .error _ => { t with forgotten := false }

/-- An answer changes neither the worker of a thread nor its rank. -/
theorem heard_same (t : HeartbeatThread) (answer : Except ClientError Unit) :
    (t.heard answer).workerId = t.workerId ∧ (t.heard answer).runId = t.runId ∧
      (t.heard answer).rank = t.rank ∧ (t.heard answer).stopped = t.stopped := by
  unfold heard
  split
  · exact ⟨rfl, rfl, rfl, rfl⟩
  · split <;> exact ⟨rfl, rfl, rfl, rfl⟩

end HeartbeatThread

/-- The control plane, the threads in the order in which they were started, and
the worker ids that were handed out. -/
structure TrainingCluster where
  plane : WorkerPlane
  threads : List HeartbeatThread
  issued : List String

/-- What may happen next.  Threads are named by their position. -/
inductive ClusterEvent
  | launch (runId hostname : String) (rank : Int) (workerId : String) (fault : Fault)
  | updateStep (thread : Nat) (step : Int)
  | sendHeartbeat (thread : Nat) (fault : Fault)
  | registerAgain (thread : Nat) (workerId : String) (fault : Fault)
  | stop (thread : Nat)
  | control (event : WorkerEvent)
  | forget

namespace TrainingCluster

/-- A cluster that has just started over an empty store. -/
def init (store : KVStore) (deadThreshold : Nat) : TrainingCluster where
  plane := .init store deadThreshold
  threads := []
  issued := []

/-- The thread at a position, if it has not been stopped. -/
def running (c : TrainingCluster) (thread : Nat) : Option HeartbeatThread :=
  (c.threads[thread]?).filter fun t => !t.stopped

/-- An id that `uuid4` may hand out next. -/
def fresh (c : TrainingCluster) (workerId : String) : Bool :=
  isWorkerId workerId && decide (workerId ∉ c.issued)

/-- `register_worker` of the client. -/
def register (c : TrainingCluster) (runId hostname : String) (rank : Int) (workerId : String)
    (fault : Fault) (now : Nat) : Option (TrainingCluster × Except ClientError WorkerInfo) :=
  if fault = .refused then
    some (c, .error .transport)
  else if c.fresh workerId then
    let (plane, worker) := c.plane.registerWorker runId hostname (some rank) workerId now
    some ({ c with plane := plane, issued := workerId :: c.issued },
      clientAnswer fault (.ok worker))
  else
    none

/-- `_send_heartbeat` up to its answer. -/
def heartbeat (c : TrainingCluster) (t : HeartbeatThread) (fault : Fault) (now : Nat) :
    WorkerPlane × Except ClientError Unit :=
  if fault = .refused then
    (c.plane, .error .transport)
  else
    let (plane, answer) := c.plane.workerHeartbeat t.workerId t.step now
    (plane, clientAnswer fault answer)

def setThread (c : TrainingCluster) (thread : Nat) (t : HeartbeatThread) : TrainingCluster :=
  { c with threads := c.threads.set thread t }

/-- The ids that an event of the control plane hands out. -/
def handedOut : WorkerEvent → List String
  | .op (.register _ _ _ workerId) => [workerId]
  | _ => []

/-- Let one thing happen, if it can. -/
def step (c : TrainingCluster) (event : ClusterEvent × Nat) : Option TrainingCluster :=
  let now := event.2
  match event.1 with
  | .launch runId hostname rank workerId fault => do
      let (c, answer) ← c.register runId hostname rank workerId fault now
      match answer with
      | .ok worker =>
          some { c with
            threads := c.threads ++ [{ workerId := worker.workerId, runId := runId,
                                       hostname := hostname, rank := rank }] }
      | .error _ => some c
  | .updateStep thread step => do
      let t ← c.running thread
      some (c.setThread thread { t with step := step })
  | .sendHeartbeat thread fault => do
      let t ← c.running thread
      if t.forgotten then
        none
      else
        let (plane, answer) := c.heartbeat t fault now
        some ({ c with plane := plane }.setThread thread (t.heard answer))
  | .registerAgain thread workerId fault => do
      let t ← c.running thread
      if t.forgotten then
        let (c, answer) ← c.register t.runId t.hostname t.rank workerId fault now
        some (c.setThread thread (t.registered answer))
      else
        none
  | .stop thread => do
      let t ← c.running thread
      some (c.setThread thread { t with stopped := true })
  | .control event =>
      if ∀ id ∈ handedOut event, c.fresh id = true then
        (c.plane.step (event, now)).map fun plane =>
          { c with plane := plane, issued := handedOut event ++ c.issued }
      else
        none
  | .forget =>
      some { c with
        plane := .init c.plane.coordinator.store c.plane.heartbeats.deadThreshold }

end TrainingCluster

end CheckpointRuntime
