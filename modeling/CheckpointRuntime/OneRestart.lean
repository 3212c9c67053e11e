import CheckpointRuntime.AutoRestart

/-!
# One scan, one restart

However many workers of a run a scan finds expired, the run is recovered once.
The first of them takes the whole group down: no lease of the run is left, so
the scan has nothing more to find there.  Nothing of this reaches a run whose
workers are well.
-/

namespace CheckpointRuntime

open KeyedTable PartialRun Coordinator

namespace WorkerPlane

/-- The lease of a worker, if it is one of a run. -/
def leaseOf (s : WorkerPlane) (runId id : String) : Option WorkerLease :=
  (s.getLease id).filter fun lease => decide (lease.runId = runId)

theorem deadThreshold_restartGroup (s : WorkerPlane) (runId : String) :
    (s.restartGroup runId).heartbeats.deadThreshold = s.heartbeats.deadThreshold := by
  unfold restartGroup
  generalize s.coordinator.listWorkers runId = workers
  induction workers generalizing s with
  | nil => rfl
  | cons worker workers ih =>
      apply (ih _).trans
      show (WorkerPlane.setStatus _ _ _).heartbeats.deadThreshold = _
      rw [heartbeats_setStatus]
      split <;> rfl

end WorkerPlane

namespace AutoRestart

/-- Whether a scan would find an expired lease of a run under an id. -/
def expired (s : AutoRestart) (clock : String → Nat) (runId id : String) : Bool :=
  (s.workers.leaseOf runId id).any fun lease =>
    lease.isAlive && decide (lease.lastHeartbeat + s.workers.heartbeats.deadThreshold < clock id)

/-- The first expired worker of a run, in lease order. -/
def firstExpired (s : AutoRestart) (clock : String → Nat) (runId : String) : Option String :=
  (s.workers.heartbeats.leases.rows.map (·.workerId)).find? (s.expired clock runId)

/-- The failure callbacks that were invoked for workers of a run. -/
def callsFor (s : AutoRestart) (runId : String) : List (String × String) :=
  s.calls.filter fun call => decide (call.2 = runId)

/-- Nothing has happened to a run and its workers. -/
structure Spared (s s' : AutoRestart) (runId : String) : Prop where
  run : s'.workers.coordinator.getRun runId = s.workers.coordinator.getRun runId
  recoveries : s'.workers.coordinator.recoveries runId = s.workers.coordinator.recoveries runId
  records : ∀ worker, worker.runId = runId →
    (worker ∈ s'.workers.coordinator.workers.rows ↔ worker ∈ s.workers.coordinator.workers.rows)
  leases : ∀ id, s'.workers.leaseOf runId id = s.workers.leaseOf runId id
  threads : s'.threads.count runId = s.threads.count runId
  calls : s'.callsFor runId = s.callsFor runId

/-- A run has been recovered once, for one worker: it has entered `RECOVERING`
once, its group is down, and a thread restarts it, if one can be started. -/
structure Restarted (s s' : AutoRestart) (gate : RestartGate) (runId workerId : String) :
    Prop where
  state : s'.workers.coordinator.runState runId = some .recovering
  recoveries : s'.workers.coordinator.recoveries runId =
    s.workers.coordinator.recoveries runId + 1
  records : ∀ worker ∈ s'.workers.coordinator.workers.rows, worker.runId = runId →
    worker.status ≠ .active
  leases : ∀ id, s'.workers.leaseOf runId id = none
  threads : s'.threads.count runId =
    s.threads.count runId + if gate.threadStarts then 1 else 0
  calls : s'.callsFor runId = s.callsFor runId ++ [(workerId, runId)]

section
variable {s s' s'' : AutoRestart} {gate : RestartGate} {runId workerId : String}

theorem Spared.refl (s : AutoRestart) (runId : String) : Spared s s runId :=
  ⟨rfl, rfl, fun _ _ => Iff.rfl, fun _ => rfl, rfl, rfl⟩

theorem Spared.trans (h : Spared s s' runId) (h' : Spared s' s'' runId) : Spared s s'' runId where
  run := h'.run.trans h.run
  recoveries := h'.recoveries.trans h.recoveries
  records := fun worker hworker => (h'.records worker hworker).trans (h.records worker hworker)
  leases := fun id => (h'.leases id).trans (h.leases id)
  threads := h'.threads.trans h.threads
  calls := h'.calls.trans h.calls

theorem Spared.runState (h : Spared s s' runId) :
    s'.workers.coordinator.runState runId = s.workers.coordinator.runState runId := by
  rw [Coordinator.runState, h.run, Coordinator.runState]

/-- Before a run is recovered nothing has happened to it. -/
theorem Spared.restarted (h : Spared s s' runId) (h' : Restarted s' s'' gate runId workerId) :
    Restarted s s'' gate runId workerId where
  state := h'.state
  recoveries := by rw [h'.recoveries, h.recoveries]
  records := h'.records
  leases := h'.leases
  threads := by rw [h'.threads, h.threads]
  calls := by rw [h'.calls, h.calls]

/-- Afterwards nothing more happens to it. -/
theorem Restarted.spared (h : Restarted s s' gate runId workerId) (h' : Spared s' s'' runId) :
    Restarted s s'' gate runId workerId where
  state := h'.runState.trans h.state
  recoveries := h'.recoveries.trans h.recoveries
  records := fun worker hworker hrun => h.records worker ((h'.records worker hrun).mp hworker) hrun
  leases := fun id => (h'.leases id).trans (h.leases id)
  threads := h'.threads.trans h.threads
  calls := h'.calls.trans h.calls

end

end AutoRestart

/-! ## Rosters that agree on a run -/

/-- The same workers of a run. -/
def Roster.SameIn (runId : String) (r r' : Roster) : Prop :=
  ∀ id m, m.record.runId = runId → (r'.members id = some m ↔ r.members id = some m)

section
variable {s s' : WorkerPlane} {r r' : Roster} {runId : String}

/-- A change that concerns the workers of other runs. -/
theorem Roster.sameIn_update {f : String → Member → Member}
    (hf : ∀ id m, Member.SameOrigin m (f id m))
    (hsame : ∀ id m, r.members id = some m → m.record.runId = runId → f id m = m) :
    Roster.SameIn runId r (r.update f) := by
  intro id m' hrun
  rw [Roster.members_update, Option.map_eq_some_iff]
  constructor
  · intro h
    obtain ⟨m, hm, rfl⟩ := h
    rw [hsame id m hm ((hf id m).2.1.symm.trans hrun)]
    exact hm
  · exact fun hm => ⟨m', hm, hsame id m' hm hrun⟩

/-- The lease of a worker of a run, as the roster has it. -/
theorem Shows.leaseOf (h : Shows s r) (runId id : String) : s.leaseOf runId id =
    (r.members id).bind fun m => if m.record.runId = runId then m.lease else none := by
  unfold WorkerPlane.leaseOf
  rw [h.leases]
  cases hm : r.members id with
  | none => rfl
  | some m =>
      rw [Option.bind_some, Option.bind_some]
      cases hlease : m.lease with
      | none => simp
      | some lease =>
          rw [Option.filter_some, h.leaseRuns id m lease hm hlease]
          simp

theorem Shows.sameIn (h : Shows s r) (h' : Shows s' r') (hsame : Roster.SameIn runId r r') :
    (∀ worker, worker.runId = runId →
      (worker ∈ s'.coordinator.workers.rows ↔ worker ∈ s.coordinator.workers.rows)) ∧
    ∀ id, s'.leaseOf runId id = s.leaseOf runId id := by
  constructor
  · intro worker hrun
    constructor
    · intro hworker
      obtain ⟨m, hm, rfl⟩ := h'.member_of_mem hworker
      exact h.mem_of_member ((hsame _ m hrun).mp hm)
    · intro hworker
      obtain ⟨m, hm, rfl⟩ := h.member_of_mem hworker
      exact h'.mem_of_member ((hsame _ m hrun).mpr hm)
  · intro id
    have hle : ∀ {q q' : Roster}, (∀ m, m.record.runId = runId → q.members id = some m →
        q'.members id = some m) → ∀ lease, ((q.members id).bind fun m =>
          if m.record.runId = runId then m.lease else none) = some lease →
        ((q'.members id).bind fun m =>
          if m.record.runId = runId then m.lease else none) = some lease := by
      intro q q' hq lease hlease
      obtain ⟨m, hm, hlease⟩ := Option.bind_eq_some_iff.mp hlease
      have hrun : m.record.runId = runId := (Option.ite_none_right_eq_some.mp hlease).1
      rw [hq m hrun hm, Option.bind_some]
      exact hlease
    rw [h.leaseOf, h'.leaseOf]
    apply Option.ext
    intro lease
    exact ⟨hle (fun m hrun => (hsame id m hrun).mp) lease,
      hle (fun m hrun => (hsame id m hrun).mpr) lease⟩

/-- A worker of another run dies. -/
theorem Known.sameIn_died (h : Known s r) {lease : WorkerLease}
    (hlease : s.getLease lease.workerId = some lease) (hne : runId ≠ lease.runId) :
    Roster.SameIn runId r (r.edit lease.workerId .died) := by
  refine Roster.sameIn_update ?_ ?_
  · intro id m
    split
    · exact ⟨rfl, rfl, rfl⟩
    · exact ⟨rfl, rfl, rfl⟩
  · intro id m hm hrun
    apply if_neg
    intro h
    subst h
    rw [h.shows.getLease_member hm] at hlease
    exact hne (hrun.symm.trans (h.shows.leaseRuns _ m lease hm hlease).symm)

/-- The group of another run is restarted. -/
theorem Known.sameIn_restarted (h : Known s r) {other : String} (hother : PlainRunId other)
    (hne : runId ≠ other) : Roster.SameIn runId r (r.update fun _ => .restarted other) := by
  apply Roster.sameIn_update (fun _ m => m.sameOrigin_restarted other)
  intro id m hm hrun
  refine if_neg fun hin => hne ?_
  rw [← hrun]
  exact (Member.inListing_iff (h.plain id m hm) hother).mp hin

/-- A restart of the group of a run leaves no active record and no lease. -/
theorem Known.down_restarted (h : Known s r) (hrun : PlainRunId runId)
    (h' : Shows s' (r.update fun _ => .restarted runId)) :
    (∀ worker ∈ s'.coordinator.workers.rows, worker.runId = runId → worker.status ≠ .active) ∧
      ∀ id, s'.leaseOf runId id = none := by
  have hdown : ∀ id m', (r.update fun _ => .restarted runId).members id = some m' →
      m'.record.runId = runId → m'.record.status ≠ .active ∧ m'.lease = none := by
    intro id m' hm' hm'run
    obtain ⟨m, hm, rfl⟩ := Option.map_eq_some_iff.mp hm'
    have hmrun : m.record.runId = runId := (m.sameOrigin_restarted runId).2.1.symm.trans hm'run
    have hin : m.inListing runId = true :=
      (Member.inListing_iff (h.plain id m hm) hrun).mpr hmrun
    show (m.restarted runId).record.status ≠ .active ∧ (m.restarted runId).lease = none
    unfold Member.restarted
    rw [if_pos hin]
    refine ⟨?_, rfl⟩
    dsimp only
    split
    · exact fun hactive => by cases hactive
    · next hnot => exact fun hactive => hnot ⟨hactive, hmrun⟩
  constructor
  · intro worker hworker hworkerRun
    obtain ⟨m, hm, rfl⟩ := h'.member_of_mem hworker
    exact (hdown _ m hm hworkerRun).1
  · intro id
    rw [h'.leaseOf]
    cases hm : (r.update fun _ => .restarted runId).members id with
    | none => rfl
    | some m =>
        rw [Option.bind_some]
        split
        · next hmrun => exact (hdown id m hm hmrun).2
        · rfl

end

namespace AutoRestart

/-! ## One lease of a scan -/

section
variable {s : AutoRestart} {runId : String}

/-- A step of a scan that moves no run and calls nobody spares a run whose
workers it leaves alone. -/
theorem spared_of_sameIn {s' : AutoRestart} {r r' : Roster} (h : Shows s.workers r)
    (h' : Shows s'.workers r') (hsame : Roster.SameIn runId r r')
    (hc : s'.workers.coordinator.toCoordinator = s.workers.coordinator.toCoordinator)
    (hthreads : s'.threads.count runId = s.threads.count runId)
    (hcalls : s'.callsFor runId = s.callsFor runId) : Spared s s' runId := by
  obtain ⟨hrecords, hleases⟩ := h.sameIn h' hsame
  exact ⟨by rw [hc], by rw [hc], hrecords, hleases, hthreads, hcalls⟩

theorem callsFor_append (calls : List (String × String)) (workerId other runId : String) :
    (calls ++ [(workerId, other)]).filter (fun call => decide (call.2 = runId)) =
      calls.filter (fun call => decide (call.2 = runId)) ++
        if other = runId then [(workerId, other)] else [] := by
  rw [List.filter_append]
  by_cases h : other = runId <;> simp [h]

/-- The call of the supervisor once it goes on. -/
theorem schedule_eq {gate : RestartGate} (hgate : gate.answer runId = none) :
    (s.scheduleWorkerGroupRestart gate runId).1 =
      { s with
        workers := s.workers.restartGroup runId
        threads := if gate.threadStarts then s.threads ++ [runId] else s.threads } := by
  unfold scheduleWorkerGroupRestart
  rw [hgate]
  dsimp only
  split <;> rfl

/-- A group restart, whatever comes of it, spares the other runs. -/
theorem Ready.spared_schedule (hs : s.Ready) (gate : RestartGate) {other : String}
    (hother : PlainRunId other) (hne : runId ≠ other) :
    Spared s (s.scheduleWorkerGroupRestart gate other).1 runId := by
  cases hgate : gate.answer other with
  | none =>
      obtain ⟨r, hknown⟩ := hs.known
      rw [schedule_eq hgate]
      refine spared_of_sameIn hknown.shows (hknown.restartGroup other).shows
        (hknown.sameIn_restarted hother hne) (WorkerPlane.coordinator_restartGroup ..) ?_ rfl
      dsimp only
      split
      · rw [List.count_append, List.count_singleton, if_neg (by simpa using hne.symm),
          Nat.add_zero]
      · rfl
  | some answer =>
      unfold scheduleWorkerGroupRestart
      rw [hgate]
      cases answer <;> exact .refl s runId

/-- A handled failure, before the supervisor is called, spares the other runs. -/
theorem Ready.spared_handled (hs : s.Ready) {other : String} (hne : runId ≠ other)
    (workerId : String) (now : Nat) :
    Spared s (s.withRecoveryPlane (s.recoveryPlane.onWorkerFailure later workerId other now))
      runId := by
  obtain ⟨_, hhandled, hunchanged⟩ := RecoveryPlane.onWorkerFailure_effect now hs.coherent
    (hs.settled.notMem other) (quiet_later other) workerId
  obtain ⟨hworkers, hno, hyes⟩ := RecoveryPlane.onWorkerFailure_aside now hs.coherent
    (hs.settled.notMem other) hs.autoRecover hs.hasSupervisor (quiet_later other) workerId
  refine ⟨?_, ?_, fun worker _ => ?_, fun _ => rfl, rfl, rfl⟩
  · by_cases hf : s.recoveryPlane.Failable other
    · exact (hhandled hf).otherRuns runId hne
    · exact (hunchanged hf).runs runId
  · by_cases hf : s.recoveryPlane.Failable other
    · exact (hyes hf runId).trans (by rw [if_neg hne]; rfl)
    · exact hno hf runId
  · show worker ∈
      (s.recoveryPlane.onWorkerFailure later workerId other now).coordinator.workers.rows ↔ _
    rw [hworkers]
    rfl

/-- When the recovery manager is through, restarts can be scheduled. -/
theorem Ready.handled (hs : s.Ready) (workerId other : String) (now : Nat) :
    (s.withRecoveryPlane (s.recoveryPlane.onWorkerFailure later workerId other now)).Ready := by
  have hkept := (RecoveryPlane.onWorkerFailure_effect now hs.coherent (hs.settled.notMem other)
    (quiet_later other) workerId).1
  exact hs.withRecoveryPlane (hkept.settled hs.settled)
    (RecoveryPlane.onWorkerFailure_aside now hs.coherent (hs.settled.notMem other) hs.autoRecover
      hs.hasSupervisor (quiet_later other) workerId).1
    hkept.autoRecover hkept.hasSupervisor

/-- A failure spares the other runs. -/
theorem Ready.spared_onWorkerFailure (hs : s.Ready) (gate : RestartGate) {other : String}
    (hother : PlainRunId other) (hne : runId ≠ other) (workerId : String) (now : Nat) :
    Spared s (s.onWorkerFailure gate workerId other now) runId := by
  have hhandled := hs.spared_handled hne workerId now
  unfold AutoRestart.onWorkerFailure AutoRestart.catchUp
  dsimp only
  split
  · exact hhandled
  · exact hhandled.trans ((hs.handled workerId other now).spared_schedule gate hother hne)

/-- A failure of a run that can fail, handled and restarted. -/
theorem Ready.onWorkerFailure_restarts (hs : s.Ready) {gate : RestartGate}
    (hrun : PlainRunId runId) (hf : s.recoveryPlane.Failable runId)
    (hgate : gate.answer runId = none) (workerId : String) (now : Nat) :
    let s' := s.onWorkerFailure gate workerId runId now
    s'.workers.coordinator.runState runId = some .recovering ∧
      s'.workers.coordinator.recoveries runId = s.workers.coordinator.recoveries runId + 1 ∧
      (∀ worker ∈ s'.workers.coordinator.workers.rows, worker.runId = runId →
        worker.status ≠ .active) ∧
      (∀ id, s'.workers.leaseOf runId id = none) ∧
      s'.threads = (if gate.threadStarts then s.threads ++ [runId] else s.threads) ∧
      s'.calls = s.calls := by
  obtain ⟨_, hhandled, _⟩ := RecoveryPlane.onWorkerFailure_effect now hs.coherent
    (hs.settled.notMem runId) (quiet_later runId) workerId
  obtain ⟨_, _, hyes⟩ := RecoveryPlane.onWorkerFailure_aside now hs.coherent
    (hs.settled.notMem runId) hs.autoRecover hs.hasSupervisor (quiet_later runId) workerId
  have hhandled := hhandled hf
  have hwired : (s.recoveryPlane.manager.autoRecover && s.recoveryPlane.manager.hasSupervisor) =
      true := by
    show (s.recovery.autoRecover && s.recovery.hasSupervisor) = true
    rw [hs.autoRecover, hs.hasSupervisor]
    rfl
  have hcalled : (s.recoveryPlane.onWorkerFailure later workerId runId now).restarts ≠
      s.restarts := by
    rw [hhandled.restarts, hwired]
    show s.restarts ++ [runId] ≠ s.restarts
    simp
  have hready := hs.handled workerId runId now
  obtain ⟨r, hknown⟩ := hready.known
  obtain ⟨hrecords, hleases⟩ := hknown.down_restarted hrun (hknown.restartGroup runId).shows
  unfold AutoRestart.onWorkerFailure AutoRestart.catchUp
  dsimp only
  rw [if_neg hcalled, schedule_eq hgate]
  refine ⟨?_, ?_, hrecords, hleases, rfl, rfl⟩
  · dsimp only
    rw [WorkerPlane.coordinator_restartGroup]
    apply hhandled.state.trans
    rw [hwired]
    rfl
  · dsimp only
    rw [WorkerPlane.coordinator_restartGroup]
    exact (hyes hf runId).trans (by rw [if_pos rfl]; rfl)

/-- Leases are of runs with plain ids. -/
theorem Ready.plain_lease (hs : s.Ready) {id : String} {lease : WorkerLease}
    (hlease : s.workers.getLease id = some lease) : PlainRunId lease.runId := by
  obtain ⟨r, hknown⟩ := hs.known
  rw [hknown.shows.leases] at hlease
  obtain ⟨m, hm, hlease⟩ := Option.bind_eq_some_iff.mp hlease
  rw [hknown.shows.leaseRuns id m lease hm hlease]
  exact hknown.plain id m hm

theorem Ready.spared_declareDead (hs : s.Ready) {id : String} {lease : WorkerLease}
    (hlease : s.workers.getLease id = some lease) (hne : runId ≠ lease.runId) :
    Spared s (s.declareDead id lease) runId := by
  obtain ⟨r, hknown⟩ := hs.known
  have hid : lease.workerId = id := s.workers.heartbeats.leases.key_of_find hlease
  subst hid
  refine spared_of_sameIn hknown.shows (hknown.declareDead hlease).shows
    (hknown.sameIn_died hlease hne) (WorkerPlane.coordinator_declareDead ..) rfl ?_
  apply (callsFor_append s.calls lease.workerId lease.runId runId).trans
  rw [if_neg hne.symm, List.append_nil]
  rfl

variable (clock : String → Nat) (gates : String → RestartGate) (now : Nat)

/-- Nothing is found under the id, or an expired lease. -/
theorem expired_iff {id : String} : s.expired clock runId id = true ↔
    ∃ lease, s.workers.getLease id = some lease ∧ lease.runId = runId ∧ lease.isAlive = true ∧
      lease.lastHeartbeat + s.workers.heartbeats.deadThreshold < clock id := by
  unfold expired WorkerPlane.leaseOf
  cases s.workers.getLease id with
  | none => simp
  | some lease =>
      by_cases hrun : lease.runId = runId <;> simp [Option.filter_some, hrun]

/-- **Another worker.**  A step of a scan that finds no expired lease of a run
spares it. -/
theorem Ready.checkWorker_spares (hs : s.Ready) {id : String}
    (hwell : s.expired clock runId id ≠ true) :
    Spared s (AutoRestart.checkWorker clock gates now s id) runId := by
  unfold AutoRestart.checkWorker
  split
  · exact .refl s runId
  · next lease hlease =>
    split
    · next hexpired =>
      have hne : runId ≠ lease.runId := fun hrun =>
        hwell ((expired_iff clock).mpr ⟨lease, hlease, hrun.symm, hexpired⟩)
      exact (hs.spared_declareDead hlease hne).trans
        ((hs.declareDead hlease).spared_onWorkerFailure _ (hs.plain_lease hlease) hne id now)
    · exact .refl s runId

/-- **The first worker.**  The step of a scan that finds it restarts its run. -/
theorem Ready.checkWorker_restarts (hs : s.Ready) {id : String}
    (hexpired : s.expired clock runId id = true) (hf : s.recoveryPlane.Failable runId)
    (hgate : (gates id).answer runId = none) :
    Restarted s (AutoRestart.checkWorker clock gates now s id) (gates id) runId id := by
  obtain ⟨lease, hlease, rfl, hfound⟩ := (expired_iff clock).mp hexpired
  have hsame := s.workers.coordinator_declareDead lease
  have hf' : (s.declareDead id lease).recoveryPlane.Failable lease.runId := by
    obtain ⟨state, hstate, hyes⟩ := hf
    refine ⟨state, ?_, hyes⟩
    show (s.workers.declareDead lease).coordinator.toCoordinator.runState lease.runId = some state
    rw [hsame]
    exact hstate
  obtain ⟨hstate, hrecoveries, hrecords, hleases, hthreads, hcalls⟩ :=
    (hs.declareDead hlease).onWorkerFailure_restarts (hs.plain_lease hlease) hf' hgate id now
  unfold AutoRestart.checkWorker
  rw [hlease]
  dsimp only
  rw [if_pos hfound]
  refine ⟨hstate, ?_, hrecords, hleases, ?_, ?_⟩
  · rw [hrecoveries]
    show (s.workers.declareDead lease).coordinator.toCoordinator.recoveries lease.runId + 1 = _
    rw [hsame]
  · rw [hthreads]
    show List.count _ (if _ then s.threads ++ [lease.runId] else s.threads) = _
    split
    · rw [List.count_append, List.count_singleton_self]
    · rfl
  · unfold callsFor
    rw [hcalls]
    apply (callsFor_append s.calls id lease.runId lease.runId).trans
    rw [if_pos rfl]

/-! ## The scan -/

/-- A scan leaves the threshold alone. -/
theorem deadThreshold_checkWorker (s : AutoRestart) (id : String) :
    (AutoRestart.checkWorker clock gates now s id).workers.heartbeats.deadThreshold =
      s.workers.heartbeats.deadThreshold := by
  have hgroup : ∀ (t : AutoRestart) (gate : RestartGate) (runId : String),
      (t.scheduleWorkerGroupRestart gate runId).1.workers.heartbeats.deadThreshold =
        t.workers.heartbeats.deadThreshold := by
    intro t gate runId
    unfold scheduleWorkerGroupRestart
    split
    · rfl
    · rfl
    · dsimp only
      split <;> exact WorkerPlane.deadThreshold_restartGroup ..
  unfold AutoRestart.checkWorker
  split
  · rfl
  · next lease _ =>
    split
    · have hdead : (s.workers.declareDead lease).heartbeats.deadThreshold =
          s.workers.heartbeats.deadThreshold := by
        unfold WorkerPlane.declareDead
        rw [WorkerPlane.heartbeats_setStatus]
        rfl
      refine Eq.trans ?_ hdead
      unfold onWorkerFailure catchUp
      dsimp only
      split
      · rfl
      · exact hgroup ..
    · rfl

theorem Spared.expired {s' : AutoRestart} (h : Spared s s' runId)
    (hthreshold : s'.workers.heartbeats.deadThreshold = s.workers.heartbeats.deadThreshold)
    (clock : String → Nat) (id : String) :
    s'.expired clock runId id = s.expired clock runId id := by
  rw [AutoRestart.expired, h.leases, hthreshold, AutoRestart.expired]

/-- **A stretch of a scan** that finds no expired lease of a run spares it. -/
theorem Ready.scan_spares (hs : s.Ready) {ids : List String}
    (hwell : ∀ id ∈ ids, s.expired clock runId id ≠ true) :
    Spared s (ids.foldl (AutoRestart.checkWorker clock gates now) s) runId ∧
      (ids.foldl (AutoRestart.checkWorker clock gates now) s).workers.heartbeats.deadThreshold =
        s.workers.heartbeats.deadThreshold := by
  induction ids generalizing s with
  | nil => exact ⟨.refl s runId, rfl⟩
  | cons id ids ih =>
      have hfirst := hs.checkWorker_spares clock gates now (hwell id List.mem_cons_self)
      have hthreshold := deadThreshold_checkWorker clock gates now s id
      have hrest : ∀ other ∈ ids, (AutoRestart.checkWorker clock gates now s id).expired clock runId
          other ≠ true := by
        intro other hother
        rw [hfirst.expired hthreshold]
        exact hwell other (List.mem_cons_of_mem id hother)
      obtain ⟨hspared, hkept⟩ := ih (hs.checkWorker clock gates now id) hrest
      exact ⟨hfirst.trans hspared, hkept.trans hthreshold⟩

/-- **One scan, one restart.**  In every state that is reached with plain run
ids, a scan that finds expired workers of a run which can fail recovers the run
once, for the first of them, provided that the call of the supervisor goes on;
every run without an expired worker is spared. -/
theorem one_restart {store : KVStore} {deadThreshold : Nat}
    {events : List (AutoRestartEvent × Nat)} (hplain : ∀ event ∈ events, event.1.Plain)
    (h : PartialRun.run step (init store deadThreshold) events = some s) {first : String}
    (hfirst : s.firstExpired clock runId = some first) (hf : s.recoveryPlane.Failable runId)
    (hgate : (gates first).answer runId = none) :
    let s' := s.checkWorkers clock gates now
    Restarted s s' (gates first) runId first ∧
      ∀ other, s.firstExpired clock other = none → Spared s s' other := by
  have hs := ready_of_run hplain h
  constructor
  · obtain ⟨hexpired, before, after, hids, hwell⟩ := List.find?_eq_some_iff_append.mp hfirst
    -- up to the first expired worker the run is spared, and its lease is as it was
    have hwell : ∀ id ∈ before, s.expired clock runId id ≠ true :=
      fun id hid => by simpa using hwell id hid
    obtain ⟨hbefore, hthreshold⟩ := hs.scan_spares clock gates now hwell
    have hready := hs.checkAll clock gates now before
    have hf' : (before.foldl (AutoRestart.checkWorker clock gates now) s).recoveryPlane.Failable
        runId := by
      obtain ⟨state, hstate, hyes⟩ := hf
      exact ⟨state, hbefore.runState.trans hstate, hyes⟩
    have hone := hready.checkWorker_restarts clock gates now
      ((hbefore.expired hthreshold clock first).trans hexpired) hf' hgate
    -- afterwards there is nothing left to find
    have hnone : ∀ id ∈ after, (AutoRestart.checkWorker clock gates now
        (before.foldl (AutoRestart.checkWorker clock gates now) s) first).expired clock runId id ≠
          true := by
      intro id _
      rw [AutoRestart.expired, hone.leases id]
      exact Bool.false_ne_true
    have hafter := ((hready.checkWorker clock gates now first).scan_spares clock gates now hnone).1
    unfold AutoRestart.checkWorkers
    rw [hids, List.foldl_append, List.foldl_cons]
    exact (hbefore.restarted hone).spared hafter
  · intro other hother
    refine (hs.scan_spares clock gates now fun id hid => ?_).1
    exact List.find?_eq_none.mp hother id hid

end

/-- A run with two workers, and one with a worker that is heard of again. -/
def twoRuns : List (AutoRestartEvent × Nat) :=
  [(.recovery (.op (.createRun pairRun "00000000000000a1")), 1),
    (.recovery (.op (.transitionRun "00000000000000a1" .running)), 2),
    (.recovery (.op (.createRun soloRun "00000000000000a2")), 3),
    (.worker (.register "00000000000000a1" "host-0" none "0000000000b0"), 4),
    (.worker (.register "00000000000000a2" "host-2" none "0000000000b2"), 5),
    (.worker (.register "00000000000000a1" "host-1" none "0000000000b1"), 6),
    (.worker (.heartbeat "0000000000b2" 3), 30)]

/-- The control plane afterwards. -/
def twoRunsPlane : AutoRestart :=
  (PartialRun.run step (init .etcdKVStore 15) twoRuns).get (by decide +kernel)

/-- A supervisor that is asked for the run that it supervises. -/
def openGate : RestartGate where
  environment :=
    { sharedRunPath := true, supervisedRunId := some "00000000000000a1",
      containerNames := ["ckpt-worker-0", "ckpt-worker-1"] }
  restarts := .init
  now := 2 * workerRestartRetry
  threadStarts := true

/-- Both workers of the first run have expired.  Only the first one is reported,
one thread is started, and the other run is as it was. -/
theorem one_restart_two :
    let s' := twoRunsPlane.checkWorkers (fun _ => 40) (fun _ => openGate) 40
    Restarted twoRunsPlane s' openGate "00000000000000a1" "0000000000b0" ∧
      Spared twoRunsPlane s' "00000000000000a2" ∧
      twoRunsPlane.expired (fun _ => 40) "00000000000000a1" "0000000000b1" = true ∧
      s'.calls = [("0000000000b0", "00000000000000a1")] ∧ s'.threads = ["00000000000000a1"] := by
  have hreached : PartialRun.run step (init .etcdKVStore 15) twoRuns = some twoRunsPlane :=
    (Option.some_get _).symm
  obtain ⟨hfirst, hstate, hother, hmore⟩ :
      twoRunsPlane.firstExpired (fun _ => 40) "00000000000000a1" = some "0000000000b0" ∧
        twoRunsPlane.recoveryPlane.coordinator.runState "00000000000000a1" = some .running ∧
        twoRunsPlane.firstExpired (fun _ => 40) "00000000000000a2" = none ∧
        twoRunsPlane.expired (fun _ => 40) "00000000000000a1" "0000000000b1" = true ∧
        (twoRunsPlane.checkWorkers (fun _ => 40) (fun _ => openGate) 40).calls =
          [("0000000000b0", "00000000000000a1")] ∧
        (twoRunsPlane.checkWorkers (fun _ => 40) (fun _ => openGate) 40).threads =
          ["00000000000000a1"] := by
    decide +kernel
  obtain ⟨hrestarted, hspared⟩ := one_restart (fun _ => 40) (fun _ => openGate) 40
    (by decide +kernel) hreached hfirst ⟨.running, hstate, rfl⟩ (by decide +kernel)
  exact ⟨hrestarted, hspared "00000000000000a2" hother, hmore⟩

end AutoRestart

end CheckpointRuntime
