import CheckpointRuntime.EventFeed

/-!
# Who hears which events

A subscriber hears about its own run only, and never that the run was created:
nobody can subscribe before the run is there, and its id is new when
`run_created` is published.
-/

namespace CheckpointRuntime

open Coordinator ControlPlane PartialRun Broadcast

/-- The run that the record of an event belongs to. -/
def StreamEvent.runId (event : StreamEvent) : String :=
  match event.data with
  | .run status => status.runId
  | .checkpoint info => info.runId

/-- A status told to the subscribers of a run is a status of this run. -/
theorem Told.runId {c c' : Coordinator} {runId : String} {event : StreamEvent}
    (h : Told c c' (some (runId, event))) : event.runId = runId := by
  cases h with
  | status _ _ _ hstatus _ => exact runId_of_getRun hstatus

/-- Only a new run announces that it was created. -/
theorem announce_event {runId r : String} {kind : StreamEventType} {event : StreamEvent}
    {result : Except HttpException RunStatus}
    (h : announce runId kind result = some (r, event)) : event.event = kind := by
  cases result with
  | error e => cases h
  | ok status =>
      obtain ⟨_, rfl⟩ := Prod.mk.inj (Option.some.inj h)
      rfl

namespace System

variable {sha256 : Bytes → String} {s s' : System}

/-- `run_created` is published under an id that is new. -/
theorem created_is_new {event : Event} {now : Nat} {runId : String} {published : StreamEvent}
    (h : s.step sha256 (event, now) = some s')
    (hpublication : s.publication event now = some (runId, published))
    (hcreated : published.event = .runCreated) : runId ∉ s.server.issued := by
  by_cases hrequest : ∃ request, event = .request request
  · obtain ⟨request, rfl⟩ := hrequest
    cases request with
    | createRun config newId =>
        obtain ⟨server, hserver, _⟩ := Option.map_eq_some_iff.mp h
        obtain ⟨hfresh, _⟩ := Option.ite_none_right_eq_some.mp hserver
        obtain ⟨rfl, _⟩ := Prod.mk.inj (Option.some.inj hpublication)
        rw [freshId, Bool.and_eq_true, decide_eq_true_eq] at hfresh
        exact hfresh.2
    | start | cancel | complete | resume | fail =>
        exact absurd (hcreated.symm.trans (announce_event hpublication)) (by decide)
    | checkpoint | heartbeat | workerFailure => cases hpublication
  · rw [s.publication_of_ne_request fun request hevent => hrequest ⟨request, hevent⟩]
      at hpublication
    obtain ⟨⟨call, reply⟩, _, hanswer⟩ := Option.bind_eq_some_iff.mp hpublication
    simp only [commitPublication] at hanswer
    split at hanswer
    · exact absurd (hcreated.symm.trans (announce_event hanswer)) (by decide)
    · cases hanswer

/-- A checkpoint that has been triggered is one of its run. -/
theorem triggered_runId {event : Event} {now : Nat} {runId : String} {info : CheckpointInfo}
    (hs : s.server.Recorded) (h : s.triggered now event = some (runId, info)) :
    info.runId = runId := by
  cases event with
  | request request =>
      cases request with
      | checkpoint r step checkpointId =>
          simp only [triggered] at h
          split at h
          · next found hfound =>
            obtain ⟨rfl, rfl⟩ := Prod.mk.inj (Option.some.inj h)
            by_cases hstate : s.server.cp.coordinator.runState r = some .running
            · obtain ⟨status, hrun, hrunning⟩ := Option.map_eq_some_iff.mp hstate
              obtain ⟨hresult, _⟩ := triggerCheckpoint_running hs.coherent hrun hrunning step
                checkpointId now
              obtain rfl := Except.ok.inj (hresult.symm.trans hfound)
              rfl
            · obtain ⟨⟨e, hresult⟩, _⟩ := triggerCheckpoint_refused hs.coherent hstate step
                checkpointId now
              cases hresult.symm.trans hfound
          · cases h
      | _ => cases h
  | _ => cases h

end System

namespace EventStreams

variable {sha256 : Bytes → String} {s s' : EventStreams} {op : StreamOp × Nat}

/-- What a subscriber of a run may be given. -/
def Fitting (runId : String) (event : StreamEvent) : Prop :=
  event.runId = runId ∧ event.event ≠ .runCreated

/-- Every subscriber watches a run that exists and is given what fits it; the
checkpoints still to be announced are filed under their own runs. -/
structure Audience (s : EventStreams) : Prop where
  recorded : s.system.server.Recorded
  starting : ∀ runId info, some (runId, info) ∈ s.starting → info.runId = runId
  heard : ∀ queue ∈ s.hub, (s.system.server.cp.coordinator.getRun queue.topic).isSome ∧
    ∀ event ∈ queue.given, Fitting queue.topic event

theorem audience_init (store : KVStore) (autoRecover hasSupervisor : Bool) :
    (init store autoRecover hasSupervisor).Audience where
  recorded := Server.recorded_init store autoRecover hasSupervisor
  starting := fun _ _ h => nomatch h
  heard := fun _ h => nomatch h

/-- A run that is there has its id from the server. -/
theorem Audience.issued (hs : s.Audience) {runId : String}
    (hrun : (s.system.server.cp.coordinator.getRun runId).isSome) :
    runId ∈ s.system.server.issued := by
  obtain ⟨status, hstatus⟩ := Option.isSome_iff_exists.mp hrun
  exact hs.recorded.runIds runId status.state (by rw [runState, hstatus]; rfl)

/-- A publication fits the subscribers of a run that is there. -/
theorem Audience.fitting (hs : s.Audience) (h : s.step sha256 op = some s')
    {runId : String} {event : StreamEvent} (hpublication : s.publication op = some (runId, event))
    (hrun : (s.system.server.cp.coordinator.getRun runId).isSome) : Fitting runId event := by
  have hissued := hs.issued hrun
  obtain ⟨next, hnext, _⟩ := advance_of_step h
  obtain ⟨op, now⟩ := op
  cases op with
  | system e =>
      obtain ⟨system, hmoved, _⟩ := Option.map_eq_some_iff.mp hnext
      have htold : s.system.publication e now = some (runId, event) → Fitting runId event := by
        intro hsome
        refine ⟨?_, fun hcreated => System.created_is_new hmoved hsome hcreated hissued⟩
        have htold := System.told_step hs.recorded hmoved
        rw [hsome] at htold
        exact htold.runId
      simp only [publication] at hpublication
      split at hpublication
      · exact htold hpublication
      · rcases Option.or_eq_some_iff.mp hpublication with hsome | ⟨_, hstart⟩
        · exact htold hsome
        · obtain ⟨⟨r, info⟩, htriggered, hstart⟩ := Option.map_eq_some_iff.mp hstart
          obtain ⟨rfl, rfl⟩ := Prod.mk.inj hstart
          exact ⟨System.triggered_runId hs.recorded htriggered, StreamEventType.noConfusion⟩
  | healthAnswered handler =>
      simp only [publication] at hpublication
      split at hpublication
      · next r info hstart =>
        obtain ⟨rfl, rfl⟩ := Prod.mk.inj (Option.some.inj hpublication)
        exact ⟨hs.starting r info (List.mem_of_getElem? hstart), StreamEventType.noConfusion⟩
      · cases hpublication
  | runEvents | send | disconnect => cases hpublication

/-- The system and the pending announcements keep fitting. -/
theorem Audience.advance (hs : s.Audience) {next : EventStreams}
    (h : s.advance sha256 op = some next) :
    next.system.server.Recorded ∧
      (∀ runId, (s.system.server.cp.coordinator.getRun runId).isSome →
        (next.system.server.cp.coordinator.getRun runId).isSome) ∧
      ∀ runId info, some (runId, info) ∈ next.starting → info.runId = runId := by
  obtain ⟨op, now⟩ := op
  cases op with
  | system event =>
      obtain ⟨system, hmoved, rfl⟩ := Option.map_eq_some_iff.mp h
      refine ⟨System.recorded_step hs.recorded hmoved, ?_, ?_⟩
      · intro runId hrun
        have hstate : (s.system.server.cp.coordinator.runState runId).isSome := by
          rwa [runState, Option.isSome_map]
        have hstays := System.isSome_runState_step hs.recorded hmoved hstate
        rwa [runState, Option.isSome_map] at hstays
      intro runId info hmem
      simp only [awaitHealth] at hmem
      split at hmem
      · rcases List.mem_append.mp hmem with hold | hnew
        · exact hs.starting runId info hold
        · obtain ⟨start, hstart, hsome⟩ := Option.map_eq_some_iff.mp (Option.mem_toList.mp hnew)
          obtain rfl := Option.some.inj hsome
          exact System.triggered_runId hs.recorded hstart
      · exact hs.starting runId info hmem
  | healthAnswered handler =>
      simp only [EventStreams.advance] at h
      split at h
      · obtain rfl := Option.some.inj h
        refine ⟨hs.recorded, fun _ hrun => hrun, ?_⟩
        intro runId info hmem
        rcases List.mem_or_eq_of_mem_set hmem with hold | hgone
        · exact hs.starting runId info hold
        · cases hgone
      · cases h
  | runEvents runId | send subscriber | disconnect subscriber =>
      obtain rfl := Option.some.inj h
      exact ⟨hs.recorded, fun _ hrun => hrun, hs.starting⟩

/-- Nobody can subscribe to a run that is not there. -/
theorem isSome_of_subscribe {runId : String} (h : s.hubOp op = some (.subscribe runId)) :
    (s.system.server.cp.coordinator.getRun runId).isSome := by
  obtain ⟨op, now⟩ := op
  cases op with
  | runEvents r =>
      simp only [hubOp] at h
      split at h
      · cases h
      · next status hrun =>
        obtain ⟨rfl⟩ := Option.some.inj h
        rw [hrun]
        rfl
  | system | healthAnswered =>
      obtain ⟨_, _, hpublish⟩ := Option.map_eq_some_iff.mp h
      cases hpublish
  | send | disconnect => cases h

/-- What the hub is asked to publish is the publication of the step. -/
theorem publication_of_hubOp {runId : String} {event : StreamEvent}
    (h : s.hubOp op = some (.publish runId event)) : s.publication op = some (runId, event) := by
  obtain ⟨op, now⟩ := op
  cases op with
  | system | healthAnswered =>
      obtain ⟨⟨r, e⟩, hpublication, hpublish⟩ := Option.map_eq_some_iff.mp h
      obtain ⟨rfl, rfl⟩ := hpublish
      exact hpublication
  | runEvents r =>
      simp only [hubOp] at h
      split at h <;> cases h
  | send | disconnect => cases h

/-- One step keeps the audience. -/
theorem Audience.step (hs : s.Audience) (h : s.step sha256 op = some s') : s'.Audience := by
  obtain ⟨next, hnext, hsystem, hstarting⟩ := advance_of_step h
  obtain ⟨hrecorded, hstays, hpending⟩ := hs.advance hnext
  have hheard : ∀ queue ∈ s'.hub, (s.system.server.cp.coordinator.getRun queue.topic).isSome ∧
      ∀ event ∈ queue.given, Fitting queue.topic event := by
    have hhub := hub_of_step h
    cases hop : s.hubOp op with
    | none =>
        rw [hop] at hhub
        rw [← Option.some.inj hhub]
        exact hs.heard
    | some hubOp =>
        rw [hop] at hhub
        obtain ⟨hub, hmoved, hdone⟩ := run_cons_some _ hhub
        rw [← Option.some.inj hdone]
        refine given_of_step
          (T := fun topic => (s.system.server.cp.coordinator.getRun topic).isSome)
          (P := Fitting) hs.heard ?_ ?_ hmoved
        · intro topic hsubscribe
          exact isSome_of_subscribe (hsubscribe ▸ hop)
        · intro topic event hpublish hrun
          exact hs.fitting h (publication_of_hubOp (hpublish ▸ hop)) hrun
  refine ⟨hsystem ▸ hrecorded, hstarting ▸ hpending, ?_⟩
  intro queue hqueue
  obtain ⟨htopic, hgiven⟩ := hheard queue hqueue
  exact ⟨by rw [hsystem]; exact hstays _ htopic, hgiven⟩

/-- **Audience.**  However the handlers and the calls of the data plane
interleave, every subscriber watches a run that exists, and what it is sent, or
has waiting, is about this run and never that it was created. -/
theorem heard_own_run {store : KVStore} {autoRecover hasSupervisor : Bool}
    {ops : List (StreamOp × Nat)} {s : EventStreams}
    (hrun : run (EventStreams.step sha256) (init store autoRecover hasSupervisor) ops = some s)
    {queue : Subscriber String StreamEvent} (hqueue : queue ∈ s.hub) :
    (s.system.server.cp.coordinator.getRun queue.topic).isSome ∧
      ∀ event ∈ queue.given, event.runId = queue.topic ∧ event.event ≠ .runCreated := by
  have haudience := run_invariant (EventStreams.step sha256) (I := Audience)
    (fun _ _ _ hs hstep => hs.step hstep) (audience_init store autoRecover hasSupervisor) hrun
  exact haudience.heard queue hqueue

/-- Another run is created, and the watched one is started in vain and
cancelled. -/
def bystanderOps : List (StreamOp × Nat) :=
  watchOps ++ [(.system (.request (.createRun soloRun "00000000000000a2")), 4),
    (.system (.request (.start "00000000000000a1")), 5),
    (.system (.request (.cancel "00000000000000a1")), 6)]

/-- The watcher of the first run hears one event, about the first run. -/
theorem heard_own_run_bystander : ∃ (s : EventStreams) (queue : Subscriber String StreamEvent),
    queue.topic = "00000000000000a1" ∧ queue.given.length = 1 ∧
    (s.system.server.cp.coordinator.getRun "00000000000000a1").isSome ∧
    ∀ event ∈ queue.given, event.runId = "00000000000000a1" ∧ event.event ≠ .runCreated := by
  have hfound : ((run (EventStreams.step fun _ => "") (init .inMemoryKVStore true true)
      bystanderOps).bind fun s => s.hub[0]?).map (fun queue => (queue.topic, queue.given.length)) =
      some ("00000000000000a1", 1) := by decide +kernel
  obtain ⟨queue, hqueue, hfacts⟩ := Option.map_eq_some_iff.mp hfound
  obtain ⟨htopic, hlength⟩ := Prod.mk.inj hfacts
  obtain ⟨s, hrun, hmem⟩ := Option.bind_eq_some_iff.mp hqueue
  obtain ⟨hthere, hheard⟩ := heard_own_run hrun (List.mem_of_getElem? hmem)
  rw [htopic] at hthere hheard
  exact ⟨s, queue, htopic, hlength, hthere, hheard⟩

end EventStreams

end CheckpointRuntime
