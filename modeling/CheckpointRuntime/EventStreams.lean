import CheckpointRuntime.SystemRecords
import CheckpointRuntime.Library.Broadcast

/-!
# Event streams

The server-sent events of `rest.py`.  A handler that has changed a run
publishes an event in the segment that changed it; only `trigger_checkpoint`
publishes later, after it has awaited the health check of the data plane.
`_publish_event` is the `publish` of a hub whose queues hold 256 events, and an
`EventStreams` is the interleaved system together with that hub.
-/

namespace CheckpointRuntime

open Coordinator ControlPlane PartialRun Broadcast

/-- The event types that the handlers publish. -/
inductive StreamEventType
  | runCreated
  | runStarted
  | runCancelled
  | runCompleted
  | checkpointStarted
  | checkpointCommitted
  | runResumed
  | runFailed
deriving DecidableEq, Repr

/-- The name of an event type on the wire. -/
def StreamEventType.value : StreamEventType → String
  | .runCreated => "run_created"
  | .runStarted => "run_started"
  | .runCancelled => "run_cancelled"
  | .runCompleted => "run_completed"
  | .checkpointStarted => "checkpoint_started"
  | .checkpointCommitted => "checkpoint_committed"
  | .runResumed => "run_resumed"
  | .runFailed => "run_failed"

/-- The record that an event carries as JSON. -/
inductive EventData
  | run (status : RunStatus)
  | checkpoint (info : CheckpointInfo)

/-- What `_publish_event` puts into a queue. -/
structure StreamEvent where
  event : StreamEventType
  data : EventData

/-- An event with the run that it is published for. -/
abbrev Publication := String × StreamEvent

/-! ## What the handlers publish -/

/-- A handler that answers a run publishes it; one that raises does not. -/
def announce (runId : String) (event : StreamEventType) :
    Except HttpException RunStatus → Option Publication
  | .ok status => some (runId, ⟨event, .run status⟩)
  | .error _ => none

/-- What an atomic request publishes before it answers. -/
def AtomicRequest.publication (cp : ControlPlane) (now : Nat) :
    AtomicRequest → Option Publication
  | .createRun config runId =>
      let status := (cp.createRun config runId now).2
      announce status.runId .runCreated (.ok status)
  | .start runId => announce runId .runStarted (cp.startRun runId now).2
  | .cancel runId => announce runId .runCancelled (cp.cancelRun runId now).2
  | .complete runId => announce runId .runCompleted (cp.completeRun runId now).2
  | .resume runId => announce runId .runResumed (cp.resumeRun runId now).2
  | .fail runId reason => announce runId .runFailed (cp.failRun runId reason now).2
  | .checkpoint .. | .heartbeat .. | .workerFailure .. => none

/-- What `commit_run` publishes once the data plane has answered. -/
def commitPublication (cp : ControlPlane) (call : CommitCall)
    (reply : Except String CommitResponse) (now : Nat) : Option Publication :=
  match (cp.commitRunFinish call reply now).2 with
  | .answer result => announce call.runId .checkpointCommitted result
  | .abort .. => none

namespace System

/-- What a step of the system publishes. -/
def publication (s : System) (event : Event) (now : Nat) : Option Publication :=
  match event with
  | .request request => request.publication s.server.cp now
  | _ =>
      (s.commitAnswer event).bind fun (call, reply) =>
        commitPublication s.server.cp call reply now

/-- Besides the requests, only the ends of commits publish. -/
theorem publication_of_ne_request (s : System) {event : Event}
    (h : ∀ request, event ≠ .request request) (now : Nat) :
    s.publication event now = (s.commitAnswer event).bind fun (call, reply) =>
      commitPublication s.server.cp call reply now := by
  cases event with
  | request request => exact absurd rfl (h request)
  | _ => rfl

/-- The checkpoint that a step has triggered, which is still to be announced. -/
def triggered (s : System) (now : Nat) : Event → Option (String × CheckpointInfo)
  | .request (.checkpoint runId step checkpointId) =>
      match (s.server.cp.triggerCheckpoint runId step checkpointId now).2 with
      | .ok info => some (runId, info)
      | .error _ => none
  | _ => none

end System

/-- The size of a subscriber's queue. -/
def queueSize : Nat := 256

/-- The system, the `trigger_checkpoint` handlers that await the health check,
by position, and the subscribers. -/
structure EventStreams where
  system : System
  starting : List (Option (String × CheckpointInfo))
  hub : Hub String StreamEvent

/-- What may happen next. -/
inductive StreamOp
  | system (event : Event)
  | healthAnswered (handler : Nat)
  | runEvents (runId : String)
  | send (subscriber : Nat)
  | disconnect (subscriber : Nat)

namespace EventStreams

/-- Everything has just started. -/
def init (store : KVStore) (autoRecover hasSupervisor : Bool) : EventStreams where
  system := .init store autoRecover hasSupervisor
  starting := []
  hub := []

def announceStart (runId : String) (info : CheckpointInfo) : Publication :=
  (runId, ⟨.checkpointStarted, .checkpoint info⟩)

/-- What a step publishes.  Without a data plane there is no health check to
wait for. -/
def publication (s : EventStreams) (op : StreamOp × Nat) : Option Publication :=
  match op.1 with
  | .system event =>
      if s.system.server.cp.dpConnected then
        s.system.publication event op.2
      else
        (s.system.publication event op.2).or
          ((s.system.triggered op.2 event).map fun (runId, info) => announceStart runId info)
  | .healthAnswered handler =>
      match s.starting[handler]? with
      | some (some (runId, info)) => some (announceStart runId info)
      | _ => none
  | _ => none

/-- What a step asks of the hub.  `run_events` answers 404 for an unknown run. -/
def hubOp (s : EventStreams) (op : StreamOp × Nat) : Option (Op String StreamEvent) :=
  match op.1 with
  | .runEvents runId =>
      match s.system.server.cp.coordinator.getRun runId with
      | none => none
      | some _ => some (.subscribe runId)
  | .send subscriber => some (.take subscriber)
  | .disconnect subscriber => some (.close subscriber)
  | _ => (s.publication op).map fun (runId, event) => .publish runId event

/-- The handlers that await the health check once the system has taken a step. -/
def awaitHealth (s : EventStreams) (event : Event) (now : Nat) :
    List (Option (String × CheckpointInfo)) :=
  if s.system.server.cp.dpConnected then
    s.starting ++ ((s.system.triggered now event).map some).toList
  else
    s.starting

/-- The step without its effect on the hub. -/
def advance (sha256 : Bytes → String) (s : EventStreams) (op : StreamOp × Nat) :
    Option EventStreams :=
  match op.1 with
  | .system event =>
      (s.system.step sha256 (event, op.2)).map fun system =>
        { s with system := system, starting := s.awaitHealth event op.2 }
  | .healthAnswered handler =>
      match s.starting[handler]? with
      | some (some _) => some { s with starting := s.starting.set handler none }
      | _ => none
  | .runEvents _ | .send _ | .disconnect _ => some s

/-- Let one thing happen, if it can. -/
def step (sha256 : Bytes → String) (s : EventStreams) (op : StreamOp × Nat) :
    Option EventStreams := do
  let next ← s.advance sha256 op
  match s.hubOp op with
  | none => some next
  | some hubOp => (Broadcast.step queueSize s.hub hubOp).map fun hub => { next with hub := hub }

variable {sha256 : Bytes → String} {s s' : EventStreams} {op : StreamOp × Nat}

/-- What a step does to the hub is what it asks of the hub. -/
theorem hub_of_step (h : s.step sha256 op = some s') :
    run (Broadcast.step queueSize) s.hub (s.hubOp op).toList = some s'.hub := by
  obtain ⟨next, hnext, h⟩ := Option.bind_eq_some_iff.mp h
  have hkept : next.hub = s.hub := by
    obtain ⟨op, now⟩ := op
    cases op with
    | system event =>
        obtain ⟨system, _, rfl⟩ := Option.map_eq_some_iff.mp hnext
        rfl
    | healthAnswered handler =>
        simp only [advance] at hnext
        split at hnext
        · obtain rfl := Option.some.inj hnext
          rfl
        · cases hnext
    | runEvents runId | send subscriber | disconnect subscriber =>
        obtain rfl := Option.some.inj hnext
        rfl
  split at h
  · next hnone =>
    obtain rfl := Option.some.inj h
    rw [hnone, hkept]
    rfl
  · next hubOp hsome =>
    obtain ⟨hub, hhub, rfl⟩ := Option.map_eq_some_iff.mp h
    rw [hsome, Option.toList_some, run_cons, hhub]
    rfl

/-- A step that succeeds advances, whatever the hub does. -/
theorem advance_of_step (h : s.step sha256 op = some s') :
    ∃ next, s.advance sha256 op = some next ∧ s'.system = next.system ∧
      s'.starting = next.starting := by
  obtain ⟨next, hnext, h⟩ := Option.bind_eq_some_iff.mp h
  refine ⟨next, hnext, ?_⟩
  split at h
  · obtain rfl := Option.some.inj h
    exact ⟨rfl, rfl⟩
  · obtain ⟨hub, _, rfl⟩ := Option.map_eq_some_iff.mp h
    exact ⟨rfl, rfl⟩

/-! ## Delivery -/

/-- What a run asks of the hub, in order. -/
def hubOps (sha256 : Bytes → String) : EventStreams → List (StreamOp × Nat) →
    List (Op String StreamEvent)
  | _, [] => []
  | s, op :: ops =>
      match s.step sha256 op with
      | none => []
      | some next => (s.hubOp op).toList ++ hubOps sha256 next ops

/-- Everything that is published during a run, in order. -/
def publications (sha256 : Bytes → String) : EventStreams → List (StreamOp × Nat) →
    List Publication
  | _, [] => []
  | s, op :: ops =>
      match s.step sha256 op with
      | none => []
      | some next => (s.publication op).toList ++ publications sha256 next ops

/-- The events that are published for one run of the control plane. -/
def feed (runId : String) (publications : List Publication) : List StreamEvent :=
  publications.filterMap fun (r, event) => if r = runId then some event else none

theorem feed_append (runId : String) (ps qs : List Publication) :
    feed runId (ps ++ qs) = feed runId ps ++ feed runId qs :=
  List.filterMap_append

/-- The messages that a step has the hub publish are its publication. -/
theorem published_hubOp (s : EventStreams) (op : StreamOp × Nat) (runId : String) :
    published runId (s.hubOp op).toList = feed runId (s.publication op).toList := by
  obtain ⟨op, now⟩ := op
  have hmapped : ∀ publication : Option Publication,
      published runId (publication.map fun (r, event) =>
        (Op.publish r event : Op String StreamEvent)).toList = feed runId publication.toList := by
    intro publication
    cases publication with
    | none => rfl
    | some p => rfl
  cases op with
  | system event => exact hmapped _
  | healthAnswered handler => exact hmapped _
  | runEvents other =>
      simp only [hubOp]
      split <;> rfl
  | send subscriber | disconnect subscriber => rfl

theorem published_hubOps (runId : String) (s : EventStreams) (ops : List (StreamOp × Nat)) :
    published runId (s.hubOps sha256 ops) = feed runId (s.publications sha256 ops) := by
  induction ops generalizing s with
  | nil => rfl
  | cons op ops ih =>
      simp only [hubOps, publications]
      cases s.step sha256 op with
      | none => rfl
      | some next =>
          dsimp only
          rw [feed_append, ← ih next, ← published_hubOp, published, published, published,
            List.filterMap_append]

/-- A run of the whole is a run of the hub. -/
theorem hub_of_run {ops : List (StreamOp × Nat)}
    (h : run (step sha256) s ops = some s') :
    run (Broadcast.step queueSize) s.hub (s.hubOps sha256 ops) = some s'.hub := by
  induction ops generalizing s with
  | nil =>
      obtain rfl := Option.some.inj h
      rfl
  | cons op ops ih =>
      obtain ⟨next, hnext, hrest⟩ := run_cons_some _ h
      simp only [hubOps, hnext]
      rw [run_append, hub_of_step hnext]
      exact ih hrest

/-- The queue of the subscriber has room for what the step publishes for it. -/
def RoomAt (subscriber : Nat) (s : EventStreams) (op : StreamOp × Nat) : Prop :=
  ∀ hubOp, s.hubOp op = some hubOp → HasRoom queueSize subscriber s.hub hubOp

/-- The hub has room along a run exactly when each step finds room. -/
theorem guarded_hubOps {subscriber : Nat} {ops : List (StreamOp × Nat)}
    (h : run (step sha256) s ops = some s') :
    Guarded (Broadcast.step queueSize) (HasRoom queueSize subscriber) s.hub
        (s.hubOps sha256 ops) ↔
      Guarded (step sha256) (RoomAt subscriber) s ops := by
  induction ops generalizing s with
  | nil => exact Iff.rfl
  | cons op ops ih =>
      obtain ⟨next, hnext, hrest⟩ := run_cons_some _ h
      simp only [hubOps, hnext]
      rw [guarded_append _ (hub_of_step hnext), ih hrest]
      have hfirst : Guarded (Broadcast.step queueSize) (HasRoom queueSize subscriber) s.hub
          (s.hubOp op).toList ↔ RoomAt subscriber s op := by
        have hhub := hub_of_step hnext
        cases hop : s.hubOp op with
        | none => simp [RoomAt, hop, Guarded]
        | some hubOp =>
            rw [hop] at hhub
            obtain ⟨hub, hsome, _⟩ := run_cons_some _ hhub
            simp [RoomAt, hop, Guarded, hsome]
      rw [hfirst]
      constructor
      · intro hboth other hother
        obtain rfl := Option.some.inj (hnext.symm.trans hother)
        exact hboth
      · exact fun hall => hall next hnext

/-- **Delivery.**  From any state of the server on, a subscriber receives, or
has waiting, a sublist of the events published for its run, in the order of
publication; it misses none of them exactly when its connection is open and its
queue has room whenever one is published.  No queue holds more than 256. -/
theorem events_delivered {store : KVStore} {autoRecover hasSupervisor : Bool}
    {before after : List (StreamOp × Nat)} {mid last : EventStreams} {subscriber : Nat}
    {queue : Subscriber String StreamEvent}
    (hbefore : run (step sha256) (init store autoRecover hasSupervisor) before = some mid)
    (hafter : run (step sha256) mid after = some last)
    (hqueue : mid.hub[subscriber]? = some queue) :
    ∃ queue' kept, last.hub[subscriber]? = some queue' ∧ queue'.topic = queue.topic ∧
      queue'.waiting.length ≤ queueSize ∧ queue'.given = queue.given ++ kept ∧
      kept.Sublist (feed queue.topic (mid.publications sha256 after)) ∧
      (kept = feed queue.topic (mid.publications sha256 after) ↔
        Guarded (step sha256) (RoomAt subscriber) mid after) := by
  have hhub := hub_of_run hafter
  obtain ⟨queue', kept, hqueue', htopic, _, hgiven, hsublist, hall⟩ := kept_of_run hqueue hhub
  rw [published_hubOps] at hsublist hall
  rw [guarded_hubOps hafter] at hall
  have hmid := waiting_le_of_run (by intro _ h; cases h) (hub_of_run hbefore)
  have hlast := waiting_le_of_run hmid hhub
  exact ⟨queue', kept, hqueue', htopic, hlast queue' (List.mem_of_getElem? hqueue'), hgiven,
    hsublist, hall⟩

/-- Somebody watches a run that has been started. -/
def watchOps : List (StreamOp × Nat) :=
  [(.system (.request (.createRun soloRun "00000000000000a1")), 1),
    (.system (.request (.start "00000000000000a1")), 2),
    (.runEvents "00000000000000a1", 3)]

/-- The run is cancelled, and the event is sent. -/
def cancelOps : List (StreamOp × Nat) :=
  [(.system (.request (.cancel "00000000000000a1")), 4), (.send 0, 5)]

/-- A subscriber is sent the end of its run, and nothing from before it came. -/
theorem events_delivered_cancel : ∃ mid queue', run (step fun _ => "")
      (init .inMemoryKVStore true true) watchOps = some mid ∧
    ((run (step fun _ => "") mid cancelOps).bind fun s => s.hub[0]?) = some queue' ∧
    queue'.given.length ≤ (feed "00000000000000a1" (mid.publications (fun _ => "")
      cancelOps)).length ∧
    queue'.received.map (·.event) = [.runCancelled] := by
  obtain ⟨queue', kept, hqueue', _, _, hgiven, hsublist, _⟩ :=
    @events_delivered (fun _ => "") .inMemoryKVStore true true watchOps cancelOps _ _ 0 _
      rfl rfl rfl
  refine ⟨_, queue', rfl, hqueue', ?_, ?_⟩
  · rw [hgiven]
    exact hsublist.length_le
  · obtain rfl := Option.some.inj hqueue'
    rfl

end EventStreams

end CheckpointRuntime
