import CheckpointRuntime.EventStreams

/-!
# What the published events tell about a run

A feed shows a state of its run: the one in the newest status that it carries.
The state shown need not be the state of the run, since failures that nobody
asked for and the start of a checkpoint publish no status.  `shown_state` is the
exact extent of it: along every run of the server the state of a run is the one
shown, up to the moves that `Unannounced` lists.
-/

namespace CheckpointRuntime

open Coordinator ControlPlane PartialRun Broadcast

/-! ## Moves that no event announces -/

/-- A failure that nobody asked for may reach the run. -/
def MayFail (state : RunState) : Prop :=
  state = .failed ∨ .failed ∈ validTransitions state

instance (state : RunState) : Decidable (MayFail state) := inferInstanceAs (Decidable (_ ∨ _))

/-- The moves that no event announces: a checkpoint starts, or the run fails
and perhaps recovers.  A feed that shows the first state fits the second. -/
def Unannounced (state state' : RunState) : Prop :=
  state' = state ∨ (state = .running ∧ state' = .checkpointing) ∨
    (MayFail state ∧ (state' = .failed ∨ state' = .recovering))

theorem Unannounced.refl (state : RunState) : Unannounced state state := Or.inl rfl

/-- A run that has moved unannounced may fail only if it could before. -/
theorem Unannounced.mayFail {state state' : RunState} (h : Unannounced state state')
    (hfail : MayFail state') : MayFail state := by
  rcases h with rfl | ⟨rfl, _⟩ | ⟨hmay, _⟩
  · exact hfail
  · exact Or.inr (by decide)
  · exact hmay

theorem Unannounced.trans {a b c : RunState} (hab : Unannounced a b) (hbc : Unannounced b c) :
    Unannounced a c := by
  have hcases := hbc
  rcases hcases with rfl | ⟨rfl, rfl⟩ | ⟨hmay, hend⟩
  · exact hab
  · rcases hab with rfl | ⟨_, h⟩ | ⟨_, h⟩
    · exact hbc
    · cases h
    · rcases h with h | h <;> cases h
  · exact Or.inr (Or.inr ⟨hab.mayFail hmay, hend⟩)

/-- A step that publishes tells the new record of the run that it moved, and a
silent step moves runs unannounced at most. -/
inductive Told (c c' : Coordinator) : Option Publication → Prop
  | status (runId : String) (event : StreamEventType) (status : RunStatus)
      (hstatus : c'.getRun runId = some status)
      (hothers : ∀ r, r ≠ runId → c'.getRun r = c.getRun r) :
      Told c c' (some (runId, ⟨event, .run status⟩))
  | silent (hmoves : ∀ r state', c'.runState r = some state' →
      ∃ state, c.runState r = some state ∧ Unannounced state state') : Told c c' none

theorem Told.of_same {c c' : Coordinator} (h : ∀ r, c'.runState r = c.runState r) :
    Told c c' none :=
  .silent fun r state' hstate' => ⟨state', h r ▸ hstate', .refl state'⟩

theorem Told.of_getRun {c c' : Coordinator} (h : c'.getRun = c.getRun) : Told c c' none :=
  .of_same fun r => by rw [runState, h, runState]

/-- A silent step that moves one run. -/
theorem Told.of_move {c c' : Coordinator} {runId : String} {f : RunState → RunState}
    (hruns : ∀ r, c'.runState r =
      if r = runId then (c.runState runId).map f else c.runState r)
    (hmove : ∀ state, Unannounced state (f state)) : Told c c' none := by
  refine .silent fun r state' hstate' => ?_
  rw [hruns] at hstate'
  split at hstate'
  · next hr =>
    obtain ⟨state, hstate, rfl⟩ := Option.map_eq_some_iff.mp hstate'
    exact ⟨state, hr ▸ hstate, hmove state⟩
  · exact ⟨state', hstate', .refl state'⟩

/-! ## Answers are records -/

theorem told_moveRun (c : Coordinator) (runId : String) (target : RunState)
    (edit : RunStatus → RunStatus) (hedit : ∀ status, (edit status).runId = status.runId)
    (now : Nat) (event : StreamEventType) (toException : CoordinatorError → HttpException) :
    Told c (c.moveRun runId target edit now).1
      (announce runId event ((c.moveRun runId target edit now).2.mapError toException)) := by
  obtain ⟨hok, herror⟩ := getRun_of_moveRun c runId target edit hedit now
  cases hresult : (c.moveRun runId target edit now).2 with
  | error e => exact .of_getRun (herror e hresult)
  | ok status =>
      exact .status runId event status (hok status hresult) fun r hr =>
        getRun_moveRun_of_ne c target edit hedit now hr

/-- The answer to a resume: the run as it is, a refusal, or the answer of a
move. -/
theorem ControlPlane.resumeRun_answer {cp : ControlPlane} {runId : String} {status : RunStatus}
    (hrun : cp.coordinator.getRun runId = some status) (now : Nat) :
    (cp.resumeRun runId now).2 =
      if resumed status.state = status.state then
        if status.state = .running then .ok status
        else .error (transitionError (.invalidTransition ⟨status.state, .running⟩))
      else
        (cp.coordinator.transitionRun runId (resumed status.state) now).2.mapError
          transitionError := by
  unfold resumeRun
  rw [hrun]
  cases status with
  | mk _ _ state =>
      -- a run that moves answers what the move answers, whether or not its attempt is cleared
      cases state <;> dsimp only [resumed] <;>
        first
        | rfl
        | (split <;> rename_i hmoved <;> rw [hmoved] <;> first | rfl | (split <;> rfl))

theorem told_resumeRun (cp : ControlPlane) (runId : String) (now : Nat) :
    Told cp.coordinator (cp.resumeRun runId now).1.coordinator
      (announce runId .runResumed (cp.resumeRun runId now).2) := by
  cases hrun : cp.coordinator.getRun runId with
  | none =>
      simp only [resumeRun, hrun]
      exact .of_getRun rfl
  | some status =>
      rw [(resumeRun_coordinator hrun now).1, resumeRun_answer hrun]
      split
      · split
        · exact .status runId _ status hrun fun _ _ => rfl
        · exact .of_getRun rfl
      · exact told_moveRun cp.coordinator runId _ id (fun _ => rfl) now _ _

/-- A worker failure takes a run to `FAILED` or `RECOVERING` only if it may
fail. -/
theorem mayFail_of_onWorkerFailure (rm : RecoveryManager) {c : Coordinator} (hc : c.Coherent)
    {runId : String} (restart : RestartOutcome) (now : Nat) {state : RunState}
    (hstate : c.runState runId = some state) (hmay : ¬ MayFail state) :
    (rm.onWorkerFailure c runId restart now).2.runState runId = some state := by
  obtain ⟨status, hrun, hrunState⟩ := Option.map_eq_some_iff.mp hstate
  obtain ⟨hne, hinvalid⟩ := not_or.mp hmay
  unfold RecoveryManager.onWorkerFailure
  split
  · exact hstate
  · simp only [RecoveryManager.handleFailure, hrun, hrunState, transitionRun]
    cases state with
    | failed => exact absurd rfl hne
    | cancelled | completed => exact hstate
    | created | running | checkpointing | committed | recovering =>
        have hmoved := hc.runState_moveRun runId .failed id (fun _ => rfl) now runId
        rw [if_pos rfl, hstate, Option.map_some, if_neg hinvalid] at hmoved
        dsimp only
        split
        · exact hmoved
        · next moved hok => exact absurd hok (hc.moveRun_ne_ok hstate hinvalid id now moved)

theorem told_workerFailure (rm : RecoveryManager) {c : Coordinator} (hc : c.Coherent)
    (runId : String) (restart : RestartOutcome) (now : Nat) :
    Told c (rm.onWorkerFailure c runId restart now).2 none := by
  rcases (onWorkerFailure_effect rm hc runId restart now).2 with ⟨_, hruns⟩ | hfailure
  · exact .of_same hruns
  · obtain ⟨_, hexists, target, htarget, hruns⟩ := hfailure
    refine .silent fun r state' hstate' => ?_
    rw [hruns] at hstate'
    split at hstate'
    · next hr =>
      subst hr
      obtain rfl := Option.some.inj hstate'
      cases hstate : c.runState r with
      | none =>
          rw [hstate] at hexists
          cases hexists
      | some state =>
          refine ⟨state, rfl, ?_⟩
          by_cases hmay : MayFail state
          · exact Or.inr (Or.inr ⟨hmay, htarget⟩)
          · have hkept := mayFail_of_onWorkerFailure rm hc restart now hstate hmay
            rw [hruns, if_pos rfl] at hkept
            exact Or.inl (Option.some.inj hkept)
    · exact ⟨state', hstate', .refl state'⟩

/-! ## What a step tells -/

/-- An atomic request tells what it has done. -/
theorem Server.told_handle {s s' : Server} (hs : s.Recorded) {now : Nat}
    {request : AtomicRequest} (h : s.handle now request = some s') :
    Told s.cp.coordinator s'.cp.coordinator (request.publication s.cp now) := by
  cases request with
  | createRun config runId =>
      obtain ⟨_, hsome⟩ := Option.ite_none_right_eq_some.mp h
      obtain rfl := Option.some.inj hsome
      refine .status runId .runCreated _ ?_ ?_
      · simp [ControlPlane.createRun, Coordinator.createRun]
      · intro r hr
        simp [ControlPlane.createRun, Coordinator.createRun, hr]
  | start runId =>
      obtain rfl := Option.some.inj h
      exact told_moveRun s.cp.coordinator runId .running id (fun _ => rfl) now _ _
  | cancel runId =>
      obtain rfl := Option.some.inj h
      exact told_moveRun s.cp.coordinator runId .cancelled id (fun _ => rfl) now _ _
  | complete runId =>
      obtain rfl := Option.some.inj h
      exact told_moveRun s.cp.coordinator runId .completed id (fun _ => rfl) now _ _
  | fail runId reason =>
      obtain rfl := Option.some.inj h
      exact told_moveRun s.cp.coordinator runId .failed
        (fun status =>
          { status with errorMessage := reason.getD (some "Manual failure trigger") })
        (fun _ => rfl) now _ _
  | resume runId =>
      obtain rfl := Option.some.inj h
      exact told_resumeRun s.cp runId now
  | checkpoint runId step checkpointId =>
      cases (hs.handled h).effect with
      | same _ _ hruns => exact .of_same hruns
      | moved hmove => cases hmove
      | opened _ _ hstate _ hruns =>
          refine .silent fun r state' hstate' => ?_
          rw [hruns] at hstate'
          split at hstate'
          · next hr =>
            exact ⟨.running, hr ▸ hstate, Or.inr (Or.inl ⟨rfl, (Option.some.inj hstate').symm⟩)⟩
          · exact ⟨state', hstate', .refl state'⟩
  | heartbeat runId step =>
      obtain rfl := Option.some.inj h
      exact .of_same (heartbeatStep_effect hs.coherent runId step now).2.2.2
  | workerFailure runId restart =>
      obtain rfl := Option.some.inj h
      exact told_workerFailure s.recovery hs.coherent runId restart now

/-- The failure path of uploads and commits is silent. -/
theorem unannounced_failed (state : RunState) :
    Unannounced state (if .failed ∈ validTransitions state then .failed else state) := by
  split
  · next hvalid => exact Or.inr (Or.inr ⟨Or.inr hvalid, Or.inl rfl⟩)
  · exact .refl state

/-- The end of an upload publishes nothing. -/
theorem told_uploadShardFinish {cp : ControlPlane} (hc : cp.coordinator.Coherent)
    (call : UploadCall) (reply : Except String WriteShardResult) (now : Nat) :
    Told cp.coordinator (cp.uploadShardFinish call reply now).1.coordinator none := by
  obtain ⟨_, _, hruns⟩ := uploadShardFinish_effect hc call reply now
  refine .of_move hruns fun state => ?_
  by_cases hreply : uploadAccepted reply = false
  · simpa [hreply] using unannounced_failed state
  · simpa [hreply] using Unannounced.refl state

/-- An accepted commit rewrites the record of its own run only. -/
theorem getRun_commitRunFinish_of_ne (cp : ControlPlane) (call : CommitCall)
    {response : CommitResponse} (hresponse : response.success = true) (now : Nat) {r : String}
    (hr : r ≠ call.runId) :
    (cp.commitRunFinish call (.ok response) now).1.coordinator.getRun r =
      cp.coordinator.getRun r := by
  cases hinfo : cp.coordinator.getCheckpoint call.checkpointId with
  | none => rw [commitRunFinish_missing cp call hresponse hinfo]; rfl
  | some info =>
      let c := (cp.coordinator.updateCheckpointState call.checkpointId .committed none now).1
      have hupdated : c.getRun r = cp.coordinator.getRun r := getRun_updateCheckpointState ..
      have hcommitted : (c.transitionRun call.runId .committed now).1.getRun r = c.getRun r :=
        getRun_moveRun_of_ne c .committed id (fun _ => rfl) now hr
      rw [commitRunFinish_accepted cp call hresponse hinfo]
      split
      · exact hcommitted.trans hupdated
      · rw [← hupdated, ← hcommitted]
        exact getRun_moveRun_of_ne _ .running id (fun _ => rfl) now hr

/-- The end of a commit tells that the run is back in `RUNNING`, or it is
silent. -/
theorem told_commitRunFinish {cp : ControlPlane} (hc : cp.coordinator.Coherent)
    (call : CommitCall) (reply : Except String CommitResponse) (now : Nat) :
    Told cp.coordinator (cp.commitRunFinish call reply now).1.coordinator
      (commitPublication cp call reply now) := by
  cases hreply : commitAccepted reply with
  | false =>
      obtain ⟨failureMessage, exception, hout⟩ := commitRunFinish_rejected cp call hreply now
      obtain ⟨_, _, _, hruns⟩ := failCheckpoint_effect (α := RunStatus) hc
        call.runId call.checkpointId failureMessage exception now
      have hnone : commitPublication cp call reply now = none := by
        unfold commitPublication
        rw [hout]
        by_cases hdp : (cp.abortFailedCheckpoint call.runId call.checkpointId failureMessage
            now).dpConnected = true
        · simp [failCheckpoint, hdp]
        · simp [failCheckpoint, hdp, announce]
      rw [hnone, hout]
      exact .of_move hruns unannounced_failed
  | true =>
      cases reply with
      | error e => cases hreply
      | ok response =>
          unfold commitPublication
          cases hinfo : cp.coordinator.getCheckpoint call.checkpointId with
          | none =>
              rw [commitRunFinish_missing cp call hreply hinfo]
              exact .of_getRun rfl
          | some info =>
              cases hrun : cp.coordinator.getRun call.runId with
              | none =>
                  have hmissing : (cp.coordinator.updateCheckpointState call.checkpointId .committed
                      none now).1.getRun call.runId = none := by
                    rw [getRun_updateCheckpointState, hrun]
                  rw [commitRunFinish_accepted cp call hreply hinfo]
                  simp only [transitionRun, moveRun_missing hmissing]
                  exact .of_same fun r => runState_updateCheckpointState ..
              | some status =>
                  by_cases hmachine :
                      (cp.coordinator.machine call.runId status.state).state = .checkpointing
                  · obtain ⟨final, hanswer, hfinal, _⟩ :=
                      commitRunFinish_checkpointing hreply hinfo hrun hmachine now
                    rw [hanswer]
                    exact .status call.runId .checkpointCommitted final hfinal fun r hr =>
                      getRun_commitRunFinish_of_ne cp call hreply now hr
                  · obtain ⟨⟨e, hanswer⟩, hget⟩ :=
                      commitRunFinish_refused hreply hinfo hrun hmachine now
                    rw [hanswer]
                    exact .of_getRun hget

namespace System

variable {sha256 : Bytes → String} {s s' : System}

/-- A step of the system tells what it has done. -/
theorem told_step {event : Event} {now : Nat} (hs : s.server.Recorded)
    (h : s.step sha256 (event, now) = some s') :
    Told s.server.cp.coordinator s'.server.cp.coordinator (s.publication event now) := by
  by_cases hrequest : ∃ request, event = .request request
  · obtain ⟨request, rfl⟩ := hrequest
    obtain ⟨server, hserver, rfl⟩ := Option.map_eq_some_iff.mp h
    exact Server.told_handle hs hserver
  · rw [s.publication_of_ne_request fun request hevent => hrequest ⟨request, hevent⟩]
    cases step_server h with
    | upload call reply _ hcommit hserver =>
        rw [hcommit, hserver]
        exact told_uploadShardFinish hs.coherent call reply now
    | commit call reply _ hanswer hserver =>
        rw [hanswer, hserver]
        exact told_commitRunFinish hs.coherent call reply now
    | request request _ _ _ hevent => exact absurd ⟨request, hevent⟩ hrequest
    | delete id _ hcommit hserver =>
        rw [hcommit, hserver]
        exact .of_getRun rfl
    | stay _ hcommit hserver =>
        rw [hcommit, hserver]
        exact .of_getRun rfl

end System

/-! ## The state that a feed shows -/

/-- The state of the run in an event, if it carries a status. -/
def StreamEvent.state? (event : StreamEvent) : Option RunState :=
  match event.data with
  | .run status => some status.state
  | .checkpoint _ => none

/-- The state in the newest status of a feed. -/
def shownState (events : List StreamEvent) : Option RunState :=
  (events.filterMap StreamEvent.state?).getLast?

namespace EventStreams

theorem shownState_snoc (runId : String) (past : List Publication) (p : Publication) :
    shownState (feed runId (past ++ [p])) =
      if p.1 = runId then p.2.state?.or (shownState (feed runId past))
      else shownState (feed runId past) := by
  obtain ⟨r, event⟩ := p
  rw [feed_append, shownState, List.filterMap_append, List.getLast?_append]
  by_cases hr : r = runId
  · cases hstate : event.state? <;> simp [feed, hr, hstate, shownState]
  · simp [feed, hr, shownState]

/-- Every run is in a state that its feed shows, up to unannounced moves. -/
def Shown (past : List Publication) (s : EventStreams) : Prop :=
  ∀ runId state, s.system.server.cp.coordinator.runState runId = some state →
    ∃ shown, shownState (feed runId past) = some shown ∧ Unannounced shown state

variable {sha256 : Bytes → String} {s s' : EventStreams} {op : StreamOp × Nat}

/-- A checkpoint announced late changes no state shown. -/
theorem Shown.announceStart {past : List Publication} (h : Shown past s) (runId : String)
    (info : CheckpointInfo) : Shown (past ++ [announceStart runId info]) s := by
  intro r state hstate
  obtain ⟨shown, hshown, hunannounced⟩ := h r state hstate
  refine ⟨shown, ?_, hunannounced⟩
  rw [shownState_snoc]
  split
  · exact hshown
  · exact hshown

/-- What a step of the system tells keeps the states shown. -/
theorem Shown.of_told {past : List Publication} {publication : Option Publication}
    (h : Shown past s)
    (htold : Told s.system.server.cp.coordinator s'.system.server.cp.coordinator publication) :
    Shown (past ++ publication.toList) s' := by
  intro r state' hstate'
  cases htold with
  | status runId event status hstatus hothers =>
      rw [Option.toList_some, shownState_snoc]
      by_cases hr : runId = r
      · subst hr
        rw [runState, hstatus] at hstate'
        obtain rfl := Option.some.inj hstate'
        exact ⟨status.state, by rw [if_pos rfl]; rfl, .refl status.state⟩
      · rw [if_neg hr]
        rw [runState, hothers r (Ne.symm hr)] at hstate'
        exact h r state' hstate'
  | silent hmoves =>
      rw [Option.toList_none, List.append_nil]
      obtain ⟨state, hstate, hmove⟩ := hmoves r state' hstate'
      obtain ⟨shown, hshown, hunannounced⟩ := h r state hstate
      exact ⟨shown, hshown, hunannounced.trans hmove⟩

theorem recorded_of_step (hs : s.system.server.Recorded) (h : s.step sha256 op = some s') :
    s'.system.server.Recorded := by
  obtain ⟨next, hnext, hsystem, _⟩ := advance_of_step h
  rw [hsystem]
  obtain ⟨op, now⟩ := op
  cases op with
  | system event =>
      obtain ⟨system, hstep, rfl⟩ := Option.map_eq_some_iff.mp hnext
      exact System.recorded_step hs hstep
  | healthAnswered handler =>
      simp only [advance] at hnext
      split at hnext
      · obtain rfl := Option.some.inj hnext
        exact hs
      · cases hnext
  | runEvents runId | send subscriber | disconnect subscriber =>
      obtain rfl := Option.some.inj hnext
      exact hs

/-- One step keeps every run in a state that its feed shows. -/
theorem Shown.step {past : List Publication} (h : Shown past s)
    (hs : s.system.server.Recorded) (hstep : s.step sha256 op = some s') :
    Shown (past ++ (s.publication op).toList) s' := by
  obtain ⟨next, hnext, hsystem, _⟩ := advance_of_step hstep
  have hshown : Shown (past ++ (s.publication op).toList) next := by
    obtain ⟨op, now⟩ := op
    cases op with
    | system event =>
        obtain ⟨system, hmoved, rfl⟩ := Option.map_eq_some_iff.mp hnext
        have htold : Shown (past ++ (s.system.publication event now).toList)
            { s with system := system } := h.of_told (System.told_step hs hmoved)
        simp only [publication]
        split
        · exact htold
        · cases hpublication : s.system.publication event now with
          | some p =>
              rw [hpublication] at htold
              exact htold
          | none =>
              rw [hpublication, Option.toList_none, List.append_nil] at htold
              cases s.system.triggered now event with
              | none => exact (List.append_nil past).symm ▸ htold
              | some start => exact htold.announceStart start.1 start.2
    | healthAnswered handler =>
        simp only [advance] at hnext
        split at hnext
        · next start hstart =>
          obtain rfl := Option.some.inj hnext
          simp only [publication, hstart]
          exact h.announceStart start.1 start.2
        · cases hnext
    | runEvents runId | send subscriber | disconnect subscriber =>
        obtain rfl := Option.some.inj hnext
        exact (List.append_nil past).symm ▸ h
  intro r state hstate
  rw [hsystem] at hstate
  exact hshown r state hstate

theorem Shown.run {past : List Publication} {ops : List (StreamOp × Nat)} (h : Shown past s)
    (hs : s.system.server.Recorded) (hrun : run (EventStreams.step sha256) s ops = some s') :
    Shown (past ++ s.publications sha256 ops) s' := by
  induction ops generalizing s past with
  | nil =>
      obtain rfl := Option.some.inj hrun
      exact (List.append_nil past).symm ▸ h
  | cons op ops ih =>
      obtain ⟨next, hnext, hrest⟩ := run_cons_some _ hrun
      simp only [publications, hnext]
      rw [← List.append_assoc]
      exact ih (h.step hs hnext) (recorded_of_step hs hnext) hrest

/-- A run is created, started and sent into a checkpoint, whose start is announced
after a worker has failed. -/
def failureOps : List (StreamOp × Nat) :=
  [(.system (.request (.createRun soloRun "00000000000000a1")), 1),
    (.system (.request (.start "00000000000000a1")), 2),
    (.system (.request (.checkpoint "00000000000000a1" (some 10) "00000000000000c1")), 3),
    (.system (.request (.workerFailure "00000000000000a1" .notScheduled)), 4),
    (.healthAnswered 0, 5)]

/-- **What a feed shows.**  However handlers, calls of the data plane, failures
and health checks interleave, the newest status published for a run shows its
state, or a state from which it has moved by starting a checkpoint or by
failing only. -/
theorem shown_state {store : KVStore} {autoRecover hasSupervisor : Bool}
    {ops : List (StreamOp × Nat)} {s : EventStreams}
    (hrun : PartialRun.run (step sha256) (init store autoRecover hasSupervisor) ops = some s)
    {runId : String} {state : RunState}
    (hstate : s.system.server.cp.coordinator.runState runId = some state) :
    ∃ shown, shownState (feed runId
        ((init store autoRecover hasSupervisor).publications sha256 ops)) = some shown ∧
      Unannounced shown state ∧
      (state = .cancelled ∨ state = .completed ∨ state = .created ∨ state = .running →
        shown = state) ∧
      (shown = .cancelled ∨ shown = .completed ∨ shown = .created → state = shown) := by
  have hinit : Shown [] (init store autoRecover hasSupervisor) := by
    intro r state h
    simp [init, System.init, Server.init, ControlPlane.init, Coordinator.init, runState,
      getRun] at h
  obtain ⟨shown, hshown, hunannounced⟩ :=
    hinit.run (Server.recorded_init store autoRecover hasSupervisor) hrun runId state hstate
  refine ⟨shown, hshown, hunannounced, ?_, ?_⟩
  · intro hquiet
    rcases hunannounced with h | ⟨_, h⟩ | ⟨_, h | h⟩
    · exact h.symm
    all_goals
      subst h
      rcases hquiet with h | h | h | h <;> cases h
  · intro hquiet
    rcases hunannounced with h | ⟨h, _⟩ | ⟨hmay, _⟩
    · exact h
    · subst h
      rcases hquiet with h | h | h <;> cases h
    · rcases hquiet with rfl | rfl | rfl <;> exact absurd hmay (by decide)

/-- A run fails while its checkpoint is being taken, and no event says so: the
feed still shows `RUNNING`. -/
theorem shown_state_failed : ∃ shown, shownState (feed "00000000000000a1"
      ((init .inMemoryKVStore false false).publications (fun _ => "") failureOps)) = some shown ∧
    Unannounced shown .failed ∧ shown = .running := by
  obtain ⟨shown, hshown, hunannounced, _⟩ := @shown_state (fun _ => "") .inMemoryKVStore false false
    failureOps _ rfl "00000000000000a1" .failed rfl
  refine ⟨shown, hshown, hunannounced, ?_⟩
  have hrunning : shownState (feed "00000000000000a1"
      ((init .inMemoryKVStore false false).publications (fun _ => "") failureOps)) =
      some .running := by decide +kernel
  exact Option.some.inj (hshown.symm.trans hrunning)

end EventStreams

end CheckpointRuntime
