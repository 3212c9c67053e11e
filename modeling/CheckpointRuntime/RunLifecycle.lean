import Mathlib.Logic.Relation
import CheckpointRuntime.SystemRecords

/-!
# The life of a run

What may become of the record of a run, in any interleaving of handlers and
failures: it stays, its identity is fixed, its state follows the table of valid
transitions, its step and its stamp do not go back, and once the state is
terminal nothing but the step and the stamp changes.  An error message stays as
long as nobody fails the run with `null` for a reason.

`Becomes` is the relation between an earlier and a later record.
-/

namespace CheckpointRuntime

open Coordinator ControlPlane PartialRun

/-- An edge of the table. -/
def RunState.Next (state state' : RunState) : Prop := state' ∈ validTransitions state

/-- A path of the table. -/
def RunState.Reaches : RunState → RunState → Prop := Relation.ReflTransGen RunState.Next

/-- Nothing is reached from a terminal state. -/
theorem RunState.Reaches.of_terminal {state state' : RunState} (h : state.Reaches state')
    (hterminal : validTransitions state = []) : state' = state := by
  rcases Relation.ReflTransGen.cases_head h with heq | ⟨next, hnext, _⟩
  · exact heq.symm
  · rw [RunState.Next, hterminal] at hnext
    cases hnext

/-- What a record may become; `reasons` stands for reasons that are never `null`. -/
structure RunStatus.Becomes (reasons : Prop) (status status' : RunStatus) : Prop where
  runId : status'.runId = status.runId
  name : status'.name = status.name
  numWorkers : status'.numWorkers = status.numWorkers
  createdAt : status'.createdAt = status.createdAt
  config : status'.config = status.config
  metadata : status'.metadata = status.metadata
  path : status.state.Reaches status'.state
  step : status.currentStep ≤ status'.currentStep
  stamp : status.updatedAt ≤ status'.updatedAt
  checkpoint : status.lastCheckpointId.isSome → status'.lastCheckpointId.isSome
  error : reasons → status.errorMessage.isSome → status'.errorMessage.isSome
  final : validTransitions status.state = [] →
    status'.lastCheckpointId = status.lastCheckpointId ∧
      status'.errorMessage = status.errorMessage

namespace RunStatus.Becomes

variable {reasons : Prop} {status status' status'' : RunStatus}

theorem refl (status : RunStatus) : status.Becomes reasons status where
  runId := rfl
  name := rfl
  numWorkers := rfl
  createdAt := rfl
  config := rfl
  metadata := rfl
  path := Relation.ReflTransGen.refl
  step := le_refl _
  stamp := le_refl _
  checkpoint := id
  error := fun _ => id
  final := fun _ => ⟨rfl, rfl⟩

theorem trans (h : status.Becomes reasons status') (h' : status'.Becomes reasons status'') :
    status.Becomes reasons status'' where
  runId := h'.runId.trans h.runId
  name := h'.name.trans h.name
  numWorkers := h'.numWorkers.trans h.numWorkers
  createdAt := h'.createdAt.trans h.createdAt
  config := h'.config.trans h.config
  metadata := h'.metadata.trans h.metadata
  path := h.path.trans h'.path
  step := h.step.trans h'.step
  stamp := h.stamp.trans h'.stamp
  checkpoint := h'.checkpoint ∘ h.checkpoint
  error := fun hreasons => h'.error hreasons ∘ h.error hreasons
  final := by
    intro hterminal
    obtain ⟨hcheckpoint, herror⟩ := h.final hterminal
    obtain ⟨hcheckpoint', herror'⟩ := h'.final (h.path.of_terminal hterminal ▸ hterminal)
    exact ⟨hcheckpoint'.trans hcheckpoint, herror'.trans herror⟩

end RunStatus.Becomes

namespace Coordinator

/-- Every run that is there stays, and its record becomes a later one. -/
def Evolves (reasons : Prop) (c c' : Coordinator) : Prop :=
  ∀ runId status, c.getRun runId = some status →
    ∃ status', c'.getRun runId = some status' ∧ status.Becomes reasons status'

section
variable {reasons : Prop} {c mid c' : Coordinator}

theorem Evolves.of_getRun (h : c'.getRun = c.getRun) : c.Evolves reasons c' :=
  fun _ status hrun => ⟨status, h ▸ hrun, .refl status⟩

theorem Evolves.refl (c : Coordinator) : c.Evolves reasons c := .of_getRun rfl

theorem Evolves.trans (h : c.Evolves reasons mid) (h' : mid.Evolves reasons c') :
    c.Evolves reasons c' := by
  intro runId status hrun
  obtain ⟨between, hbetween, hbecomes⟩ := h runId status hrun
  obtain ⟨status', hstatus', hbecomes'⟩ := h' runId between hbetween
  exact ⟨status', hstatus', hbecomes.trans hbecomes'⟩

end

/-- No record has a stamp of the future. -/
def StampedBy (c : Coordinator) (now : Nat) : Prop :=
  ∀ runId status, c.getRun runId = some status → status.updatedAt ≤ now

/-- With the clock at `now`, what is done to `c` lets its runs evolve, and leaves
machines and stamps in order. -/
def Grows (reasons : Prop) (now : Nat) (c c' : Coordinator) : Prop :=
  c.Coherent → c.StampedBy now → c'.Coherent ∧ c'.StampedBy now ∧ c.Evolves reasons c'

namespace Grows

variable {reasons : Prop} {now : Nat} {c c' c'' : Coordinator}

theorem of_getRun (hcoherent : c.Coherent → c'.Coherent) (h : c'.getRun = c.getRun) :
    Grows reasons now c c' := by
  intro hc hstamped
  refine ⟨hcoherent hc, ?_, .of_getRun h⟩
  unfold StampedBy
  rw [h]
  exact hstamped

theorem refl : Grows reasons now c c := .of_getRun id rfl

theorem trans (h : Grows reasons now c c') (h' : Grows reasons now c' c'') :
    Grows reasons now c c'' := by
  intro hc hstamped
  obtain ⟨hc', hstamped', hevolves⟩ := h hc hstamped
  obtain ⟨hc'', hstamped'', hevolves'⟩ := h' hc' hstamped'
  exact ⟨hc'', hstamped'', hevolves.trans hevolves'⟩

/-- One record is rewritten, the others stay. -/
theorem of_one {runId : String} {status status' : RunStatus}
    (hcoherent : c.Coherent → c'.Coherent) (hrun : c.getRun runId = some status)
    (hrun' : c'.getRun runId = some status') (hothers : ∀ r, r ≠ runId → c'.getRun r = c.getRun r)
    (hbecomes : c.Coherent → c.StampedBy now → status.Becomes reasons status')
    (hstamp : status'.updatedAt ≤ now) : Grows reasons now c c' := by
  intro hc hstamped
  refine ⟨hcoherent hc, ?_, ?_⟩
  · intro r found hfound
    by_cases hr : r = runId
    · rw [hr, hrun'] at hfound
      exact Option.some.inj hfound ▸ hstamp
    · exact hstamped r found (hothers r hr ▸ hfound)
  · intro r found hfound
    by_cases hr : r = runId
    · rw [hr, hrun] at hfound
      obtain rfl := Option.some.inj hfound
      exact ⟨status', hr ▸ hrun', hbecomes hc hstamped⟩
    · exact ⟨found, (hothers r hr).trans hfound, .refl found⟩

/-! ### Operations of the coordinator -/

theorem moveRun (c : Coordinator) (runId : String) (target : RunState)
    {edit : RunStatus → RunStatus} (hedit : edit = id ∨
      ∃ message : Option String, (reasons → message.isSome) ∧
        edit = fun status => { status with errorMessage := message }) :
    Grows reasons now c (c.moveRun runId target edit now).1 := by
  have hid : ∀ status, (edit status).runId = status.runId := by
    intro status
    rcases hedit with rfl | ⟨message, -, rfl⟩ <;> rfl
  have hcoherent : c.Coherent → (c.moveRun runId target edit now).1.Coherent :=
    fun hc => hc.moveRun runId target edit hid now
  cases hrun : c.getRun runId with
  | none =>
      rw [moveRun_missing hrun]
      exact .refl
  | some status =>
      by_cases hvalid : target ∈ validTransitions (c.machine runId status.state).state
      · obtain ⟨_, hget, _⟩ := moveRun_valid hrun hvalid edit hid now
        refine .of_one hcoherent hrun hget
          (fun r hr => getRun_moveRun_of_ne c target edit hid now hr) ?_ (le_refl _)
        intro hc hstamped
        rw [hc.machine_state hrun] at hvalid
        have hpath : status.state.Reaches target := .single hvalid
        have hstamp := hstamped runId status hrun
        have hfinal : validTransitions status.state ≠ [] := List.ne_nil_of_mem hvalid
        rcases hedit with rfl | ⟨message, hmessage, rfl⟩
        · exact ⟨rfl, rfl, rfl, rfl, rfl, rfl, hpath, le_refl _, hstamp, id, fun _ => id,
            fun hterminal => absurd hterminal hfinal⟩
        · exact ⟨rfl, rfl, rfl, rfl, rfl, rfl, hpath, le_refl _, hstamp, id,
            fun hreasons _ => hmessage hreasons, fun hterminal => absurd hterminal hfinal⟩
      · exact .of_getRun hcoherent (moveRun_invalid hrun hvalid edit now).2

theorem transitionRun (c : Coordinator) (runId : String) (target : RunState) :
    Grows reasons now c (c.transitionRun runId target now).1 :=
  .moveRun c runId target (Or.inl rfl)

theorem setRunError (c : Coordinator) (runId : String) {message : Option String}
    (hmessage : reasons → message.isSome) :
    Grows reasons now c (c.setRunError runId message now).1 :=
  .moveRun c runId .failed (Or.inr ⟨message, hmessage, rfl⟩)

theorem updateCheckpointState (c : Coordinator) (checkpointId : String)
    (state : CheckpointState) (summary : Option ShardSummary) :
    Grows reasons now c (c.updateCheckpointState checkpointId state summary now).1 :=
  .of_getRun (fun hc => hc.updateCheckpointState checkpointId state summary now)
    (funext fun _ => getRun_updateCheckpointState ..)

theorem abortPendingCheckpoints (c : Coordinator) (runId : String) :
    Grows reasons now c (RecoveryManager.abortPendingCheckpoints c runId now) :=
  .of_getRun (fun hc => hc.abortPendingCheckpoints runId now)
    (getRun_abortPendingCheckpoints c runId now).1

/-- A run with a new id. -/
theorem createRun {runId : String} (hnew : c.getRun runId = none) (config : RunConfig) :
    Grows reasons now c (c.createRun config runId now).1 := by
  have hget : ∀ r, (c.createRun config runId now).1.getRun r =
      if r = runId then some (c.createRun config runId now).2 else c.getRun r := by
    intro r
    simp [Coordinator.createRun]
  intro hc hstamped
  refine ⟨hc.createRun config runId now, ?_, ?_⟩
  · intro r status hstatus
    rw [hget] at hstatus
    split at hstatus
    · obtain rfl := Option.some.inj hstatus
      exact le_refl _
    · exact hstamped r status hstatus
  · intro r status hstatus
    have hr : r ≠ runId := by
      intro heq
      rw [heq, hnew] at hstatus
      cases hstatus
    exact ⟨status, by rw [hget, if_neg hr, hstatus], .refl status⟩

/-- A checkpoint of a run that is not through. -/
theorem createCheckpoint {runId : String} {status : RunStatus}
    (hrun : c.getRun runId = some status) (hopen : validTransitions status.state ≠ [])
    (step : Int) (checkpointId : String) :
    Grows reasons now c (c.createCheckpoint runId step checkpointId now).1 := by
  have hid := runId_of_getRun hrun
  have hget : ∀ r, (c.createCheckpoint runId step checkpointId now).1.getRun r =
      if r = runId then
        some { status with lastCheckpointId := some checkpointId, updatedAt := now }
      else c.getRun r := by
    intro r
    simp [Coordinator.createCheckpoint, hrun, hid]
  refine .of_one (fun hc => (createCheckpoint_effect hc hrun step checkpointId now).2.1) hrun
    ((hget runId).trans (if_pos rfl)) (fun r hr => (hget r).trans (if_neg hr)) ?_ (le_refl _)
  intro _ hstamped
  exact ⟨rfl, rfl, rfl, rfl, rfl, rfl, .refl, le_refl _, hstamped runId status hrun, fun _ => rfl,
    fun _ => id, fun hterminal => absurd hterminal hopen⟩

/-- A step that is not smaller than the one in the record. -/
theorem updateRunStep {runId : String} {status : RunStatus}
    (hrun : c.getRun runId = some status) {step : Int} (hstep : status.currentStep ≤ step) :
    Grows reasons now c (c.updateRunStep runId step now).1 := by
  have hid := runId_of_getRun hrun
  have hget : ∀ r, (c.updateRunStep runId step now).1.getRun r =
      if r = runId then some { status with currentStep := step, updatedAt := now }
      else c.getRun r := by
    intro r
    simp [Coordinator.updateRunStep, hrun, hid]
  refine .of_one (fun hc => hc.updateRunStep runId step now) hrun
    ((hget runId).trans (if_pos rfl)) (fun r hr => (hget r).trans (if_neg hr)) ?_ (le_refl _)
  intro _ hstamped
  exact ⟨rfl, rfl, rfl, rfl, rfl, rfl, .refl, hstep, hstamped runId status hrun, id, fun _ => id,
    fun _ => ⟨rfl, rfl⟩⟩

/-! ### Handlers -/

/-- A run that was moved is where it was moved to. -/
theorem state_of_moveRun {runId : String} {target : RunState} {edit : RunStatus → RunStatus}
    {status : RunStatus} (h : (c.moveRun runId target edit now).2 = .ok status) :
    status.state = target := by
  unfold Coordinator.moveRun at h
  split at h
  · cases h
  · dsimp only at h
    split at h
    · cases h
    · exact (Except.ok.inj h) ▸ rfl

theorem abortAndRecover (rm : RecoveryManager) (c : Coordinator) (runId : String)
    (restart : RestartOutcome) :
    Grows reasons now c (rm.abortAndRecover c runId restart now).2 := by
  have haborted : Grows reasons now c _ := .abortPendingCheckpoints c runId
  unfold RecoveryManager.abortAndRecover
  dsimp only
  split
  · rw [attemptRecovery_coordinator]
    split
    · exact haborted.trans (.transitionRun _ runId .recovering)
    · exact haborted
  · exact haborted

theorem onWorkerFailure (rm : RecoveryManager) (c : Coordinator) (runId : String)
    (restart : RestartOutcome) :
    Grows reasons now c (rm.onWorkerFailure c runId restart now).2 := by
  have hfailed : Grows reasons now c _ := .transitionRun c runId .failed
  unfold RecoveryManager.onWorkerFailure
  split
  · exact .refl
  · unfold RecoveryManager.handleFailure
    dsimp only
    split
    · exact .refl
    · split
      · exact .refl
      · exact .refl
      · exact Grows.abortAndRecover _ c runId restart
      · split
        · exact hfailed
        · exact hfailed.trans (Grows.abortAndRecover _ _ runId restart)

/-- The checkpoint is created once its run is in `CHECKPOINTING`. -/
theorem triggerCheckpoint (cp : ControlPlane) (runId : String) (step : Option Int)
    (checkpointId : String) :
    Grows reasons now cp.coordinator
      (cp.triggerCheckpoint runId step checkpointId now).1.coordinator := by
  have hmoved : Grows reasons now cp.coordinator _ :=
    .transitionRun cp.coordinator runId .checkpointing
  unfold ControlPlane.triggerCheckpoint
  dsimp only
  split
  · exact hmoved
  · next status hstatus =>
    have hrun := (getRun_of_moveRun cp.coordinator runId .checkpointing id (fun _ => rfl) now).1
      status hstatus
    have hopen : validTransitions status.state ≠ [] := by
      rw [state_of_moveRun hstatus]
      decide
    exact hmoved.trans (.createCheckpoint hrun hopen _ checkpointId)

theorem resumeRun (cp : ControlPlane) (runId : String) :
    Grows reasons now cp.coordinator (cp.resumeRun runId now).1.coordinator := by
  cases hrun : cp.coordinator.getRun runId with
  | none =>
      simp only [ControlPlane.resumeRun, hrun]
      exact .refl
  | some status =>
      rw [(resumeRun_coordinator hrun now).1]
      split
      · exact .refl
      · exact .transitionRun _ runId _

theorem heartbeatStep (cp : ControlPlane) (runId : String) (step : Int) :
    Grows reasons now cp.coordinator (cp.heartbeatStep runId step now).coordinator := by
  unfold ControlPlane.heartbeatStep
  split
  · exact .refl
  · next status hrun =>
    split
    · next hstep => exact .updateRunStep hrun hstep.2.le
    · exact .refl

theorem failCheckpoint {α : Type} (cp : ControlPlane)
    (runId checkpointId failureMessage : String) (exception : HttpException) :
    Grows reasons now cp.coordinator (cp.failCheckpoint (α := α) runId checkpointId failureMessage
      exception now).1.coordinator := by
  rw [failCheckpoint_fst]
  exact (Grows.updateCheckpointState _ checkpointId .failed none).trans
    (.setRunError _ runId fun _ => rfl)

theorem uploadShardFinish (cp : ControlPlane) (call : UploadCall)
    (reply : Except String WriteShardResult) :
    Grows reasons now cp.coordinator (cp.uploadShardFinish call reply now).1.coordinator := by
  cases hreply : uploadAccepted reply with
  | false =>
      obtain ⟨failureMessage, exception, hout⟩ := uploadShardFinish_rejected cp call hreply now
      rw [hout]
      exact .failCheckpoint cp call.runId call.checkpointId failureMessage exception
  | true =>
      cases reply with
      | error e => cases hreply
      | ok result =>
          have hsuccess : result.success = true := hreply
          simp only [ControlPlane.uploadShardFinish, hsuccess, if_true]
          exact .updateCheckpointState _ call.checkpointId _ _

theorem commitRunFinish (cp : ControlPlane) (call : CommitCall)
    (reply : Except String CommitResponse) :
    Grows reasons now cp.coordinator (cp.commitRunFinish call reply now).1.coordinator := by
  cases hreply : commitAccepted reply with
  | false =>
      obtain ⟨failureMessage, exception, hout⟩ := commitRunFinish_rejected cp call hreply now
      rw [hout]
      exact .failCheckpoint cp call.runId call.checkpointId failureMessage exception
  | true =>
      cases reply with
      | error e => cases hreply
      | ok response =>
          cases hinfo : cp.coordinator.getCheckpoint call.checkpointId with
          | none =>
              rw [commitRunFinish_missing cp call hreply hinfo now]
              exact .refl
          | some info =>
              rw [commitRunFinish_accepted cp call hreply hinfo now]
              have hupdated : Grows reasons now cp.coordinator _ :=
                .updateCheckpointState cp.coordinator call.checkpointId .committed none
              have hcommitted := hupdated.trans (.transitionRun _ call.runId .committed)
              split
              · exact hcommitted
              · exact hcommitted.trans (.transitionRun _ call.runId .running)

end Grows

end Coordinator

/-- Every atomic request lets the runs evolve. -/
theorem Server.grows_handle {s s' : Server} (hs : s.Recorded) {now : Nat} {reasons : Prop}
    {request : AtomicRequest} (hrequest : reasons → ∀ runId, request ≠ .fail runId (some none))
    (h : s.handle now request = some s') :
    Grows reasons now s.cp.coordinator s'.cp.coordinator := by
  cases request with
  | createRun config runId =>
      obtain ⟨hfresh, hsome⟩ := Option.ite_none_right_eq_some.mp h
      obtain rfl := Option.some.inj hsome
      refine .createRun ?_ config
      cases hrun : s.cp.coordinator.getRun runId with
      | none => rfl
      | some status =>
          have hstate : s.cp.coordinator.runState runId = some status.state := by
            rw [runState, hrun, Option.map_some]
          exact absurd (hs.runIds runId _ hstate) (hs.issue hfresh).1
  | checkpoint runId step checkpointId =>
      obtain ⟨_, hsome⟩ := Option.ite_none_right_eq_some.mp h
      obtain rfl := Option.some.inj hsome
      exact .triggerCheckpoint s.cp runId step checkpointId
  | start runId =>
      obtain rfl := Option.some.inj h
      exact .transitionRun _ runId .running
  | cancel runId =>
      obtain rfl := Option.some.inj h
      exact .transitionRun _ runId .cancelled
  | complete runId =>
      obtain rfl := Option.some.inj h
      exact .transitionRun _ runId .completed
  | resume runId =>
      obtain rfl := Option.some.inj h
      exact .resumeRun s.cp runId
  | fail runId reason =>
      obtain rfl := Option.some.inj h
      refine .setRunError _ runId fun hreasons => ?_
      cases reason with
      | none => rfl
      | some text =>
          cases text with
          | none => exact absurd rfl (hrequest hreasons runId)
          | some text => rfl
  | heartbeat runId step =>
      obtain rfl := Option.some.inj h
      exact .heartbeatStep s.cp runId step
  | workerFailure runId restart =>
      obtain rfl := Option.some.inj h
      exact .onWorkerFailure s.recovery _ runId restart

namespace System

variable {sha256 : Bytes → String} {s s' : System} {event : Event × Nat}

/-- No request fails a run with `null` for a reason. -/
def GivesReasons (events : List (Event × Nat)) : Prop :=
  ∀ event ∈ events, ∀ runId, event.1 ≠ .request (.fail runId (some none))

theorem grows_step {reasons : Prop} (hs : s.server.Recorded)
    (hevent : reasons → ∀ runId, event.1 ≠ .request (.fail runId (some none)))
    (h : s.step sha256 event = some s') :
    Grows reasons event.2 s.server.cp.coordinator s'.server.cp.coordinator := by
  cases step_server h with
  | upload call reply _ _ hserver =>
      rw [hserver]
      exact .uploadShardFinish s.server.cp call reply
  | commit call reply _ _ hserver =>
      rw [hserver]
      exact .commitRunFinish s.server.cp call reply
  | request request _ _ hhandle hrequest =>
      refine Server.grows_handle hs (fun hreasons runId hfail => ?_) hhandle
      exact hevent hreasons runId (by rw [hrequest, hfail])
  | delete id _ _ hserver =>
      rw [hserver]
      exact .of_getRun (fun hc => hc.of_same rfl fun _ => rfl) rfl
  | stay _ _ hserver =>
      rw [hserver]
      exact .refl

/-- With a clock that does not go back, stamps stay behind it, and every step lets
the runs evolve. -/
theorem evolves_throughout {reasons : Prop} {events : List (Event × Nat)}
    (hs : s.server.Recorded) (hreasons : reasons → GivesReasons events) {start : Nat}
    (hstamped : s.server.cp.coordinator.StampedBy start)
    (hstart : ∀ event ∈ events, start ≤ event.2)
    (hclock : events.Pairwise fun event event' => event.2 ≤ event'.2) :
    Guarded (step sha256) (fun s event => ∀ next, s.step sha256 event = some next →
      s.server.cp.coordinator.Evolves reasons next.server.cp.coordinator) s events := by
  induction events generalizing s start with
  | nil => trivial
  | cons event events ih =>
      intro next hnext
      obtain ⟨hfirst, hrest⟩ := List.pairwise_cons.mp hclock
      have hnow : s.server.cp.coordinator.StampedBy event.2 :=
        fun r status hrun => (hstamped r status hrun).trans (hstart event List.mem_cons_self)
      obtain ⟨_, hstamped', hevolves⟩ := grows_step hs
        (fun h => hreasons h event List.mem_cons_self) hnext hs.coherent hnow
      refine ⟨?_, ih (recorded_step hs hnext)
        (fun h later hlater => hreasons h later (List.mem_cons_of_mem _ hlater)) hstamped' hfirst
        hrest⟩
      intro other hother
      obtain rfl := Option.some.inj (hnext.symm.trans hother)
      exact hevolves

/-- **The life of a run.**  With a clock that does not go back, whatever requests,
RPCs, failures and deletions interleave: from any state of the system to any later
one every run stays, and its record becomes a later one, with its error message if all
reasons are given. -/
theorem runs_evolve (sha256 : Bytes → String) (store : KVStore)
    (autoRecover hasSupervisor : Bool) (events : List (Event × Nat))
    (hclock : events.Pairwise fun event event' => event.2 ≤ event'.2) :
    Ordered (step sha256)
      (fun s s' =>
        s.server.cp.coordinator.Evolves (GivesReasons events) s'.server.cp.coordinator)
      (init store autoRecover hasSupervisor) events := by
  have hstamped : (init store autoRecover hasSupervisor).server.cp.coordinator.StampedBy 0 := by
    intro r status hrun
    simp [init, Server.init, ControlPlane.init, Coordinator.init, getRun] at hrun
  let later (s s' : System) : Prop :=
    s.server.cp.coordinator.Evolves (GivesReasons events) s'.server.cp.coordinator
  have hrefl : ∀ s, later s s := fun s => .refl s.server.cp.coordinator
  refine (ordered_iff_guarded (step sha256) hrefl (fun _ _ _ h h' => h.trans h')).mpr ?_
  exact evolves_throughout (Server.recorded_init store autoRecover hasSupervisor) id hstamped
    (fun _ _ => Nat.zero_le _) hclock

/-- A run that fails in the middle of a checkpoint, recovers and completes. -/
def recoveredRun : List (Event × Nat) :=
  openEvents ++ [(.request (.workerFailure "00000000000000a1" .scheduled), 5),
    (.request (.resume "00000000000000a1"), 6), (.request (.complete "00000000000000a1"), 8)]

/-- It evolves up to its end. -/
theorem runs_evolve_recovered :
    Ordered (step fun _ => "")
        (fun s s' => s.server.cp.coordinator.Evolves (GivesReasons recoveredRun)
          s'.server.cp.coordinator)
        (init .inMemoryKVStore true true) recoveredRun ∧
      (run (step fun _ => "") (init .inMemoryKVStore true true) recoveredRun).bind
        (fun s => s.server.cp.coordinator.runState "00000000000000a1") = some .completed :=
  ⟨runs_evolve (fun _ => "") .inMemoryKVStore true true recoveredRun (by decide +kernel),
    by decide +kernel⟩

end System

/-! ## `COMMITTED` is passed through

The record is written twice without an await in between.  The thread of a retention pass
may still read it there, and a process that is killed there leaves it behind. -/

/-- No run is in `COMMITTED`. -/
def Coordinator.NoneCommitted (c : Coordinator) : Prop :=
  ∀ runId, c.runState runId ≠ some .committed

/-- A move that leads to `COMMITTED` from nowhere else. -/
theorem Coordinator.NoneCommitted.of_move {c c' : Coordinator} (h : c.NoneCommitted)
    {runId : String} {f : RunState → RunState}
    (hruns : ∀ r, c'.runState r =
      if r = runId then (c.runState runId).map f else c.runState r)
    (hf : ∀ state, f state = .committed → state = .committed) : c'.NoneCommitted := by
  intro r hcommitted
  rw [hruns] at hcommitted
  split at hcommitted
  · obtain ⟨state, hstate, hf'⟩ := Option.map_eq_some_iff.mp hcommitted
    exact h runId (hf state hf' ▸ hstate)
  · exact h r hcommitted

theorem towards_committed {target state : RunState} (htarget : target ≠ .committed)
    (h : towards target state = .committed) : state = .committed := by
  unfold towards at h
  split at h
  · exact absurd h htarget
  · exact h

theorem Server.noneCommitted_handle {s s' : Server} (hs : s.Recorded) {now : Nat}
    {request : AtomicRequest} (h : s.handle now request = some s')
    (hnone : s.cp.coordinator.NoneCommitted) : s'.cp.coordinator.NoneCommitted := by
  obtain ⟨_, _, _, _, heffect⟩ := hs.handled h
  cases heffect with
  | same _ _ hruns =>
      intro r hcommitted
      exact hnone r (hruns r ▸ hcommitted)
  | moved hmove _ hruns =>
      refine hnone.of_move hruns ?_
      cases request with
      | start | cancel | complete | fail =>
          obtain ⟨rfl, rfl⟩ := Prod.mk.inj (Option.some.inj hmove)
          exact fun state => towards_committed (by decide)
      | resume =>
          obtain ⟨rfl, rfl⟩ := Prod.mk.inj (Option.some.inj hmove)
          intro state
          cases state <;> decide
      | createRun | checkpoint | heartbeat | workerFailure => cases hmove
  | created _ _ _ hruns =>
      intro r hcommitted
      rw [hruns] at hcommitted
      split at hcommitted
      · cases hcommitted
      · exact hnone r hcommitted
  | opened _ _ _ _ hruns =>
      intro r hcommitted
      rw [hruns] at hcommitted
      split at hcommitted
      · cases hcommitted
      · exact hnone r hcommitted
  | failed hfailure =>
      obtain ⟨_, _, state, hstate, hruns⟩ := hfailure
      intro r hcommitted
      rw [hruns] at hcommitted
      split at hcommitted
      · obtain rfl := Option.some.inj hcommitted
        rcases hstate with h | h <;> cases h
      · exact hnone r hcommitted

namespace System

variable {sha256 : Bytes → String} {s s' : System} {event : Event × Nat}

theorem noneCommitted_step (hs : s.server.Recorded) (h : s.step sha256 event = some s')
    (hnone : s.server.cp.coordinator.NoneCommitted) :
    s'.server.cp.coordinator.NoneCommitted := by
  cases step_server h with
  | upload call reply _ _ hserver =>
      obtain ⟨_, _, hruns⟩ := uploadShardFinish_effect hs.coherent call reply event.2
      rw [hserver]
      refine hnone.of_move hruns ?_
      intro state hstate
      split at hstate
      · cases hstate
      · exact hstate
  | commit call reply _ _ hserver =>
      rw [hserver]
      cases hreply : commitAccepted reply with
      | false =>
          obtain ⟨failureMessage, exception, hout⟩ :=
            commitRunFinish_rejected s.server.cp call hreply event.2
          obtain ⟨_, _, _, hruns⟩ := failCheckpoint_effect (α := RunStatus) hs.coherent
            call.runId call.checkpointId failureMessage exception event.2
          rw [← hout] at hruns
          refine hnone.of_move hruns ?_
          intro state hstate
          split at hstate
          · cases hstate
          · exact hstate
      | true =>
          cases reply with
          | error e => cases hreply
          | ok response =>
              cases hinfo : s.server.cp.coordinator.getCheckpoint call.checkpointId with
              | none =>
                  show (s.server.cp.commitRunFinish _ _ _).1.coordinator.NoneCommitted
                  rw [commitRunFinish_missing s.server.cp call hreply hinfo event.2]
                  exact hnone
              | some info =>
                  obtain ⟨_, hruns⟩ :=
                    runState_commitRunFinish hs.coherent call hreply hinfo event.2
                  refine hnone.of_move hruns ?_
                  intro state
                  cases state <;> simp [afterCommit]
  | request request _ _ hhandle => exact Server.noneCommitted_handle hs hhandle hnone
  | delete id _ _ hserver =>
      rw [hserver]
      exact hnone
  | stay _ _ hserver =>
      rw [hserver]
      exact hnone

/-- **No handler finds `COMMITTED`.**  Between two turns of the event loop, over a store
whose calls do not fail, no run is in `COMMITTED`: a commit takes its run through that
state and back to `RUNNING` before the next handler looks. -/
theorem committed_never_seen (sha256 : Bytes → String) (store : KVStore)
    (autoRecover hasSupervisor : Bool) (events : List (Event × Nat)) :
    Throughout (step sha256) (fun s => s.server.cp.coordinator.NoneCommitted)
      (init store autoRecover hasSupervisor) events := by
  refine throughout_of_invariant (step sha256)
    (I := fun s => s.server.Recorded ∧ s.server.cp.coordinator.NoneCommitted) ?_
    (fun _ hs => hs.2) ⟨Server.recorded_init store autoRecover hasSupervisor, ?_⟩
  · intro s event s' hs hstep
    exact ⟨recorded_step hs.1 hstep, noneCommitted_step hs.1 hstep hs.2⟩
  · intro r hcommitted
    simp [init, Server.init, ControlPlane.init, Coordinator.init, runState, getRun] at hcommitted

end System

end CheckpointRuntime
