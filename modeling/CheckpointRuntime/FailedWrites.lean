import CheckpointRuntime.FaultyCoordinator

/-!
# What a failed write leaves behind

`transition_run` and `set_run_error` move the cached machine and then put the
status; `create_run` caches a machine and then puts the run.  If the put raises,
the machine is ahead of the record.  No other fault of any operation separates
the two.
-/

namespace CheckpointRuntime

open KeyedTable PartialRun RaisingProgram

/-- No edge of the table leads back to where it starts. -/
theorem self_notMem_validTransitions (state : RunState) : state ∉ validTransitions state := by
  cases state <;> decide

/-! ## Operations that move no run -/

/-- The machines and the states of the runs are those of `c`. -/
def WorkerCoordinator.Quiet (c c' : WorkerCoordinator) : Prop :=
  c'.fsms = c.fsms ∧ ∀ runId, c'.runState runId = c.runState runId

namespace Call

variable {α : Type} {c : WorkerCoordinator}

/-- Whatever the store does, the method leaves machines and run states alone. -/
def Keeps (c : WorkerCoordinator) (p : Call α) : Prop :=
  Triple (fun s => c.Quiet s.1) p (fun _ s => c.Quiet s.1) fun _ s => c.Quiet s.1

theorem triple_ask (question : WorkerCoordinator → α) :
    Triple (fun s => c.Quiet s.1) (ask question)
      (fun found s => c.Quiet s.1 ∧ found = question s.1) fun _ s => c.Quiet s.1 := by
  apply triple_bind _ triple_access
  intro _
  refine triple_bind (fun found s => c.Quiet s.1 ∧ found = s.1) ?_ fun found => ?_
  · exact fun s hs => ⟨hs, rfl⟩
  · refine triple_pure fun s hs => ⟨hs.1, ?_⟩
    rw [hs.2]

theorem triple_findRun (runId : String) :
    Triple (fun s => c.Quiet s.1) (findRun runId)
      (fun status s => c.Quiet s.1 ∧ s.1.getRun runId = some status) fun _ s => c.Quiet s.1 := by
  refine triple_bind _ (triple_ask _) fun found => triple_orRaise ?_ ?_
  · exact fun _ s hs => hs.1
  · exact fun status hfound s hs => ⟨hs.1, hs.2.symm.trans hfound⟩

/-- A write that, if it goes through, leads from `I` to `J`. -/
theorem triple_put {I J : WorkerCoordinator → Prop} {f : Coordinator → Coordinator}
    (hquiet : ∀ c', I c' → c.Quiet c')
    (hf : ∀ c' : WorkerCoordinator, I c' → J { c' with toCoordinator := f c'.toCoordinator }) :
    Triple (fun s => I s.1) (put f) (fun _ s => J s.1) fun _ s => c.Quiet s.1 := by
  refine triple_bind (fun _ s => I s.1) ?_ fun _ => ?_
  · exact triple_access.weaken (fun _ hs => hs) (fun _ _ hs => hs) fun _ s hs => hquiet s.1 hs
  · exact triple_modify fun s hs => hf s.1 hs

/-- The record of a run is rewritten in the state that it has. -/
theorem triple_put_persistRun {runId : String} {status status' : RunStatus}
    (hrunId : status'.runId = status.runId) (hstate : status'.state = status.state) :
    Triple (fun s => c.Quiet s.1 ∧ s.1.getRun runId = some status) (put (·.persistRun status'))
      (fun _ s => c.Quiet s.1) fun _ s => c.Quiet s.1 := by
  refine triple_put (I := fun c' => c.Quiet c' ∧ c'.getRun runId = some status)
    (J := fun c' => c.Quiet c') (fun _ h => h.1) fun c' hc' => ⟨hc'.1.1, fun other => ?_⟩
  have hid := Coordinator.runId_of_getRun hc'.2
  have hfound : c'.getRun status'.runId = some status := by
    rw [hrunId, hid]
    exact hc'.2
  exact (Coordinator.runState_persistRun_same hfound hstate other).trans (hc'.1.2 other)

theorem keeps_updateRunStep (runId : String) (step : Int) (now : Nat) :
    Keeps c (updateRunStep runId step now) := by
  apply triple_bind _ (triple_findRun runId)
  intro status
  refine triple_bind _ (triple_put_persistRun rfl rfl) fun _ => ?_
  exact triple_pure fun _ hs => hs

theorem keeps_createCheckpoint (runId : String) (step : Int) (metadata : List (String × String))
    (checkpointId : String) (now : Nat) :
    Keeps c (createCheckpoint runId step metadata checkpointId now) := by
  apply triple_bind _ (triple_findRun runId)
  intro status
  -- the run is still there when its status is put
  refine triple_bind (fun _ s => c.Quiet s.1 ∧ s.1.getRun runId = some status) ?_ fun _ => ?_
  · exact triple_put (I := fun c' => c.Quiet c' ∧ c'.getRun runId = some status)
      (J := fun c' => c.Quiet c' ∧ c'.getRun runId = some status) (fun _ h => h.1) fun _ hc' => hc'
  · refine triple_bind _ (triple_put_persistRun rfl rfl) fun _ => ?_
    exact triple_pure fun _ hs => hs

theorem keeps_editCheckpoint (checkpointId : String) (edit : CheckpointInfo → CheckpointInfo) :
    Keeps c (editCheckpoint checkpointId edit) := by
  apply triple_bind _ (triple_ask _)
  intro found
  refine triple_bind (fun _ s => c.Quiet s.1) (triple_orRaise ?_ ?_) fun info => ?_
  · exact fun _ s hs => hs.1
  · exact fun _ _ s hs => hs.1
  · refine triple_bind (fun _ s => c.Quiet s.1) ?_ fun _ => triple_pure fun _ hs => hs
    exact triple_put (fun _ h => h) fun c' hc' => hc'

theorem keeps_putWorker (worker : WorkerInfo) : Keeps c (putWorker worker) :=
  triple_bind _ triple_access fun _ => triple_modify fun _ hs => hs

theorem keeps_registerWorker (runId : String) (rank : Int) (hostname workerId : String)
    (now : Nat) : Keeps c (registerWorker runId rank hostname workerId now) :=
  triple_bind _ (keeps_putWorker _) fun _ => triple_pure fun _ hs => hs

theorem keeps_editWorker (runId workerId : String) (edit : WorkerInfo → WorkerInfo) :
    Keeps c (editWorker runId workerId edit) := by
  apply triple_bind _ (triple_ask _)
  intro found
  refine triple_bind (fun _ s => c.Quiet s.1) (triple_orRaise ?_ ?_) fun worker => ?_
  · exact fun _ s hs => hs.1
  · exact fun _ _ s hs => hs.1
  · exact triple_bind _ (keeps_putWorker _) fun _ => triple_pure fun _ hs => hs

end Call

/-- The operations that move a run or cache a machine. -/
def CoordinatorOp.movesMachine : CoordinatorOp → Bool
  | .createRun _ _ | .transitionRun _ _ | .setRunError _ _ => true
  | _ => false

/-- **Every other operation** leaves machines and run states alone. -/
theorem CoordinatorOp.keeps_call (c : WorkerCoordinator) {op : CoordinatorOp}
    (hop : op.movesMachine = false) (now : Nat) : Call.Keeps c (op.call now) := by
  have hreturn : ∀ {α : Type} {p : Call α} (returned : α → CoordinatorResult),
      Call.Keeps c p → Call.Keeps c (do return returned (← p)) :=
    fun returned hp => triple_bind _ hp fun _ => triple_pure fun _ hs => hs
  have hask : ∀ {α : Type} (question : WorkerCoordinator → α),
      Call.Keeps c (Call.ask question) := fun question =>
    (Call.triple_ask question).weaken (fun _ hs => hs) (fun _ _ hs => hs.1) fun _ _ hs => hs
  cases op with
  | createRun _ _ => cases hop
  | getRun _ => exact hreturn _ (hask _)
  | listRuns => exact hreturn _ (hask _)
  | transitionRun _ _ => cases hop
  | updateRunStep runId step => exact hreturn _ (Call.keeps_updateRunStep runId step now)
  | setRunError _ _ => cases hop
  | createCheckpoint runId step metadata checkpointId =>
      exact hreturn _ (Call.keeps_createCheckpoint runId step metadata checkpointId now)
  | getCheckpoint _ => exact hreturn _ (hask _)
  | deleteCheckpoint _ =>
      refine triple_bind _ ?_ fun _ => triple_pure fun _ hs => hs
      exact Call.triple_put (fun _ h => h) fun _ hc' => hc'
  | listCheckpoints _ => exact hreturn _ (hask _)
  | updateCheckpointState _ _ _ _ _ => exact hreturn _ (Call.keeps_editCheckpoint _ _)
  | updateCheckpointMetadata _ _ _ => exact hreturn _ (Call.keeps_editCheckpoint _ _)
  | registerWorker runId rank hostname workerId =>
      exact hreturn _ (Call.keeps_registerWorker runId rank hostname workerId now)
  | heartbeat _ _ _ => exact hreturn _ (Call.keeps_editWorker _ _ _)
  | listWorkers _ => exact hreturn _ (hask _)
  | markWorkerDead _ _ _ => exact hreturn _ (Call.keeps_editWorker _ _ _)

/-! ## Operations that do -/

namespace WorkerCoordinator

open Coordinator

/-- The machine of a run accepts a target. -/
def accepts (c : WorkerCoordinator) (runId : String) (target : RunState) : Bool :=
  match c.getRun runId with
  | none => false
  | some status => (c.machine runId status.state).canTransition target

/-- The put of a move raises: the run was read, and its machine accepted the
target. -/
def lateMove (c : WorkerCoordinator) (runId : String) (target : RunState)
    (faults : List Bool) : Bool :=
  c.accepts runId target && !faults.headD false && faults.tail.headD false

/-- What a move leaves behind. -/
inductive Moved (c : WorkerCoordinator) (runId : String) (target : RunState)
    (edit : RunStatus → RunStatus) (now : Nat) (faults : List Bool)
    (out : (WorkerCoordinator × List Bool) × Except CallError RunStatus) : Prop
  | untouched (hlate : c.lateMove runId target faults = false) (h : out.1.1 = c)
  | refused (status : RunStatus) (hlate : c.lateMove runId target faults = false)
      (hrun : c.getRun runId = some status)
      (h : out.1.1.toCoordinator = c.cacheFsm runId (c.machine runId status.state))
      (hreliable : out.1.1.toCoordinator = (c.moveRun runId target edit now).1)
  | ahead (status : RunStatus) (moved : RunStateMachine)
      (hlate : c.lateMove runId target faults = true) (hrun : c.getRun runId = some status)
      (hmove : (c.machine runId status.state).transition target = .ok moved)
      (h : out.1.1.toCoordinator = c.cacheFsm runId moved)
  | moved (status : RunStatus) (hlate : c.lateMove runId target faults = false)
      (hreliable : out.1.1.toCoordinator = (c.moveRun runId target edit now).1)
      (hresult : out.2 = .ok status)

theorem moveRun_cases (c : WorkerCoordinator) (runId : String) (target : RunState)
    (edit : RunStatus → RunStatus) (now : Nat) (faults : List Bool) :
    Moved c runId target edit now faults (Call.moveRun runId target edit now (c, faults)) := by
  cases hget : faults.headD false with
  | true =>
      refine .untouched ?_ ?_
      · simp only [lateMove, hget, Bool.not_true, Bool.and_false, Bool.false_and]
      · rw [Call.moveRun_of_fault hget]
  | false =>
      cases hrun : c.getRun runId with
      | none =>
          refine .untouched ?_ ?_
          · simp only [lateMove, accepts, hrun, Bool.false_and]
          · rw [Call.moveRun_missing hrun hget]
      | some status =>
          cases hmove : (c.machine runId status.state).transition target with
          | error error =>
              have hno := (RunStateMachine.transition_eq_error_iff.mp hmove).1
              refine .refused status ?_ hrun ?_ ?_
              · simp [lateMove, accepts, hrun, RunStateMachine.canTransition, hno]
              · rw [Call.moveRun_refused hrun hget hmove]
              · rw [Call.moveRun_refused hrun hget hmove]
                simp only [moveRun, hrun, hmove]
          | ok moved =>
              have hyes := (RunStateMachine.transition_eq_ok_iff.mp hmove).1
              have haccepts : c.accepts runId target = true := by
                simp [accepts, hrun, RunStateMachine.canTransition, hyes]
              cases hput : faults.tail.headD false with
              | true =>
                  refine .ahead status moved ?_ hrun hmove ?_
                  · simp only [lateMove, haccepts, hget, hput, Bool.not_false, Bool.and_true]
                  · rw [Call.moveRun_put_of_fault hrun hget hput hmove]
              | false =>
                  have hend : Call.moveRun runId target edit now (c, faults) = _ :=
                    Call.moveRun_of_ok hrun hget hput hmove
                  refine .moved (Call.movedStatus target edit now status) ?_ ?_ ?_
                  · simp only [lateMove, hput, Bool.and_false]
                  · rw [hend]
                    simp only [moveRun, hrun, hmove]
                    rfl
                  · rw [hend]

theorem coherent_moved_iff {c : WorkerCoordinator} (hc : c.Coherent) {runId : String}
    {target : RunState} {edit : RunStatus → RunStatus}
    (hedit : ∀ status, (edit status).runId = status.runId) {now : Nat} {faults : List Bool}
    {out : (WorkerCoordinator × List Bool) × Except CallError RunStatus}
    (h : Moved c runId target edit now faults out) :
    out.1.1.Coherent ↔ c.lateMove runId target faults = false := by
  have hreliable := hc.moveRun runId target edit hedit now
  cases h with
  | untouched hlate h => exact iff_of_true (h ▸ hc) hlate
  | refused _ hlate _ _ h => exact iff_of_true (h ▸ hreliable) hlate
  | moved _ hlate h _ => exact iff_of_true (h ▸ hreliable) hlate
  | ahead status moved hlate hrun hmove h =>
      refine iff_of_false ?_ (by rw [hlate]; exact Bool.noConfusion)
      intro hcoherent
      obtain ⟨hedge, rfl⟩ := RunStateMachine.transition_eq_ok_iff.mp hmove
      rw [hc.machine_state hrun] at hedge
      rw [h] at hcoherent
      obtain ⟨found, hfound, hstate⟩ := hcoherent runId _ (if_pos rfl)
      obtain rfl : found = status := Option.some.inj (hfound.symm.trans hrun)
      exact self_notMem_validTransitions _ (hstate ▸ hedge)

/-- The record and the machine of a run are as before.  A machine that was not
cached may have been made, in the persisted state. -/
def SameRun (c c' : WorkerCoordinator) (runId : String) : Prop :=
  c'.getRun runId = c.getRun runId ∧
    (c'.fsms runId = c.fsms runId ∨ c.fsms runId = none ∧
      ∃ status, c.getRun runId = some status ∧ c'.fsms runId = some { state := status.state })

theorem sameRun_moved {c : WorkerCoordinator} {runId : String} {target : RunState}
    {edit : RunStatus → RunStatus} {now : Nat} {faults : List Bool}
    {out : (WorkerCoordinator × List Bool) × Except CallError RunStatus}
    (h : Moved c runId target edit now faults out)
    (hlate : c.lateMove runId target faults = false) {error : CallError}
    (herror : out.2 = .error error) : SameRun c out.1.1 runId := by
  cases h with
  | untouched _ h =>
      rw [h]
      exact ⟨rfl, Or.inl rfl⟩
  | refused status _ hrun h _ =>
      have hmachine : out.1.1.fsms runId = some (c.machine runId status.state) :=
        (congrArg (·.fsms runId) h).trans (if_pos rfl)
      refine ⟨congrArg (·.getRun runId) h, ?_⟩
      rw [hmachine, machine]
      cases hm : c.fsms runId with
      | none => exact Or.inr ⟨rfl, status, hrun, rfl⟩
      | some m => exact Or.inl rfl
  | ahead _ _ hyes _ _ _ =>
      rw [hlate] at hyes
      cases hyes
  | moved status _ _ hresult =>
      rw [hresult] at herror
      cases herror

/-- `create_run` caches the machine and then puts the record. -/
theorem coherent_createRun_iff {c : WorkerCoordinator} (hc : c.Coherent) {runId : String}
    (hfresh : c.getRun runId = none) (config : RunConfig) (now : Nat) (faults : List Bool) :
    (Call.createRun config runId now (c, faults)).1.1.Coherent ↔ faults.headD false = false := by
  rw [Call.createRun, bind_apply_ok _ (Call.change_apply ..)]
  cases hput : faults.headD false with
  | true =>
      rw [bind_apply_error _ (Call.put_of_fault _ hput)]
      refine iff_of_false ?_ Bool.noConfusion
      intro hcoherent
      obtain ⟨found, hfound, _⟩ := hcoherent runId {} (if_pos rfl)
      have hnone : found ∉ c.getRun runId := by
        rw [hfresh]
        exact fun h => nomatch h
      exact hnone hfound
  | false =>
      rw [bind_apply_ok _ (Call.put_of_ok _ hput)]
      exact iff_of_true (hc.createRun config runId now) rfl

end WorkerCoordinator

/-! ## Runs -/

/-- An operation with the faults of its accesses to the store at a clock
reading, or a fresh coordinator over the same store. -/
inductive FaultyEvent
  | call (op : CoordinatorOp) (faults : List Bool) (now : Nat)
  | restart

namespace WorkerCoordinator

/-- The coordinator after an operation, and how the operation ended. -/
def attempt (c : WorkerCoordinator) (op : CoordinatorOp) (faults : List Bool) (now : Nat) :
    WorkerCoordinator × Except CallError CoordinatorResult :=
  ((op.call now (c, faults)).1.1, (op.call now (c, faults)).2)

/-- An operation that returns what a method about runs does. -/
theorem attempt_of_call {op : CoordinatorOp} {now : Nat} {p : Call RunStatus}
    (h : op.call now = (do return .run (← p))) (c : WorkerCoordinator) (faults : List Bool) :
    c.attempt op faults now = ((p (c, faults)).1.1, (p (c, faults)).2.map .run) := by
  rw [attempt, h, bind_pure_apply]

/-- Let one thing happen, if it can. -/
def faultyStep (c : WorkerCoordinator) : FaultyEvent → Option WorkerCoordinator
  | .call op faults now =>
      if c.drawsFreshRunId op then some (c.attempt op faults now).1 else none
  | .restart => some c.restarted

/-- A `transition_run` or `set_run_error` that raises changes nothing. -/
def RaisingMoveChangesNothing (c : WorkerCoordinator) : FaultyEvent → Prop
  | .call (.transitionRun runId target) faults now =>
      ∀ error, (c.attempt (.transitionRun runId target) faults now).2 = .error error →
        SameRun c (c.attempt (.transitionRun runId target) faults now).1 runId
  | .call (.setRunError runId message) faults now =>
      ∀ error, (c.attempt (.setRunError runId message) faults now).2 = .error error →
        SameRun c (c.attempt (.setRunError runId message) faults now).1 runId
  | _ => True

/-- The put that follows a change of the cached machines raises. -/
def lateFault (c : WorkerCoordinator) : FaultyEvent → Bool
  | .call (.createRun _ _) faults _ => faults.headD false
  | .call (.transitionRun runId target) faults _ => c.lateMove runId target faults
  | .call (.setRunError runId _) faults _ => c.lateMove runId .failed faults
  | _ => false

/-- **One step.**  It keeps the machines in the persisted states exactly if no
such put raises. -/
theorem coherent_faultyStep_iff {c c' : WorkerCoordinator} (hc : c.Coherent)
    {event : FaultyEvent} (h : c.faultyStep event = some c') :
    c'.Coherent ↔ c.lateFault event = false := by
  cases event with
  | restart =>
      obtain rfl := Option.some.inj h
      exact iff_of_true c.coherent_restarted rfl
  | call op faults now =>
      obtain ⟨hfresh, hserved⟩ := Option.ite_none_right_eq_some.mp h
      obtain rfl := Option.some.inj hserved
      have hquiet : op.movesMachine = false → (c.attempt op faults now).1.Coherent := by
        intro hop
        have hkeeps := (op.keeps_call c hop now).always (s := (c, faults)) ⟨rfl, fun _ => rfl⟩
        exact hc.of_same hkeeps.1 hkeeps.2
      cases op with
      | createRun config runId =>
          rw [attempt_of_call rfl]
          exact coherent_createRun_iff hc (Option.isNone_iff_eq_none.mp hfresh) config now faults
      | transitionRun runId target =>
          rw [attempt_of_call rfl]
          exact coherent_moved_iff hc (fun _ => rfl) (moveRun_cases c runId target id now faults)
      | setRunError runId message =>
          rw [attempt_of_call rfl]
          refine coherent_moved_iff hc ?_ (moveRun_cases c runId .failed _ now faults)
          exact fun _ => rfl
      | _ => exact iff_of_true (hquiet rfl) rfl

/-- A move whose put did not raise late, but that raised, changed nothing. -/
theorem raisingMove_of_not_late (c : WorkerCoordinator) (event : FaultyEvent)
    (h : c.lateFault event = false) : c.RaisingMoveChangesNothing event := by
  have hmove : ∀ runId target edit now faults, c.lateMove runId target faults = false →
      ∀ error, ((Call.moveRun runId target edit now (c, faults)).2.map
        CoordinatorResult.run) = .error error →
      SameRun c (Call.moveRun runId target edit now (c, faults)).1.1 runId := by
    intro runId target edit now faults hlate error herror
    have hcases := moveRun_cases c runId target edit now faults
    cases hend : (Call.moveRun runId target edit now (c, faults)).2 with
    | error raised => exact sameRun_moved hcases hlate hend
    | ok status =>
        rw [hend] at herror
        cases herror
  unfold RaisingMoveChangesNothing
  split
  · rw [attempt_of_call rfl]
    exact hmove _ _ _ _ _ h
  · rw [attempt_of_call rfl]
    exact hmove _ _ _ _ _ h
  · trivial

/-- In a run no raising move changes anything, and every cached machine is
always in the persisted state of its run. -/
def FailedWritesChangeNothing (c : WorkerCoordinator) (events : List FaultyEvent) : Prop :=
  Guarded faultyStep RaisingMoveChangesNothing c events ∧
    Throughout faultyStep (fun s => s.Coherent) c events

theorem failedWritesChangeNothing_iff {c : WorkerCoordinator} (hc : c.Coherent)
    (events : List FaultyEvent) : FailedWritesChangeNothing c events ↔
      Guarded faultyStep (fun s event => s.lateFault event = false) c events := by
  have hexact : Throughout faultyStep (fun s => s.Coherent) c events ↔
      Guarded faultyStep (fun s event => s.lateFault event = false) c events :=
    throughout_iff_guarded faultyStep (I := fun _ => True) (fun _ _ _ _ _ => trivial)
      (fun _ _ _ _ hs hstep => coherent_faultyStep_iff hs hstep) trivial hc
  constructor
  · exact fun h => hexact.mp h.2
  · intro h
    exact ⟨guarded_mono faultyStep raisingMove_of_not_late h, hexact.mpr h⟩

/-- **A failed coordinator write changes nothing, exactly.**  In a run of a
coordinator whose store may fail, a `transition_run` or `set_run_error` that
raises leaves the run and its machine alone, and machines and records always
agree, exactly when no put raises that follows a change of the machines: that of
a move which the machine has accepted, or that of a new run. -/
theorem failed_writes_change_nothing_iff (c : WorkerCoordinator) (events : List FaultyEvent) :
    FailedWritesChangeNothing c.restarted events ↔
      Guarded faultyStep (fun s event => s.lateFault event = false) c.restarted events :=
  failedWritesChangeNothing_iff c.coherent_restarted events

/-- A run that was created. -/
def createdState : WorkerCoordinator :=
  ((init .etcdKVStore).serve (.createRun demoRun "00000000000000a1") 1).1

/-- Its start is put to a store that does not answer. -/
theorem failed_put_moves_machine :
    let out := createdState.attempt (.transitionRun "00000000000000a1" .running) [false, true] 2
    (out.2.toOption.isNone ∧ out.1.runState "00000000000000a1" = some .created ∧
      (out.1.fsms "00000000000000a1").map (·.state) = some .running) ∧
    ¬ FailedWritesChangeNothing (init .etcdKVStore).restarted
      [.call (.createRun { name := "demo", numWorkers := 2 } "00000000000000a1") [] 1,
        .call (.transitionRun "00000000000000a1" .running) [false, true] 2] := by
  refine ⟨by decide +kernel, ?_⟩
  rw [failedWritesChangeNothing_iff (coherent_restarted _)]
  decide +kernel

end WorkerCoordinator

end CheckpointRuntime
