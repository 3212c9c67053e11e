import Mathlib.Data.List.Induction
import Mathlib.Data.List.Perm.Subperm
import CheckpointRuntime.HeartbeatThreads
import CheckpointRuntime.WorkerIsolation

/-!
# Heartbeat threads keep their workers

A worker that was superseded or deregistered is answered 409 for ever, and its
thread does not register again.  `threads_never_fenced` says that this happens
to no thread, whatever is lost on the way, as long as no two running threads
have the same rank of a run and nobody else registers or deregisters for them.
So every thread finds back: `round_revives` says that one undisturbed heartbeat
of each thread makes every worker active in all three views.
-/

namespace CheckpointRuntime

open PartialRun WorkerPlane

/-! ## The worker of one thread -/

/-- The roster entry of the worker that a thread sends heartbeats for. -/
structure HeartbeatThread.Owns (t : HeartbeatThread) (m : Member) : Prop where
  runId : m.record.runId = t.runId
  rank : m.record.rank = t.rank
  status : m.status = .active ∨ m.status = .dead
  recorded : m.record.status = m.status
  forgotten : t.forgotten = true → m.status = .dead

namespace HeartbeatThread.Owns

variable {t : HeartbeatThread} {m : Member}

/-- A thread of the same rank that is not to register again owns the worker as
well. -/
theorem of_same (h : t.Owns m) {t' : HeartbeatThread} (hrun : t'.runId = t.runId)
    (hrank : t'.rank = t.rank) (hforgotten : t'.forgotten = true → t.forgotten = true) :
    t'.Owns m :=
  ⟨h.runId.trans hrun.symm, h.rank.trans hrank.symm, h.status, h.recorded,
    fun hf => h.forgotten (hforgotten hf)⟩

theorem superseded (h : t.Owns m) {runId : String} {rank : Int}
    (hother : t.runId = runId → t.rank = rank → t.forgotten = true) :
    t.Owns (m.superseded runId rank) := by
  unfold Member.superseded
  rw [if_neg]
  · exact h
  · intro hall
    obtain ⟨hrun, _, hrank, hactive⟩ := hall
    have hdead := h.forgotten (hother (h.runId ▸ hrun) (h.rank ▸ hrank))
    rw [hdead] at hactive
    cases hactive

theorem heard (h : t.Owns m) (step : Int) (now : Nat) : t.Owns (m.heard step now) := by
  unfold Member.heard
  split
  · next hactive => exact ⟨h.runId, h.rank, h.status, hactive.symm, h.forgotten⟩
  · exact h

theorem died (h : t.Owns m) : t.Owns m.died :=
  ⟨h.runId, h.rank, Or.inr rfl, rfl, fun _ => rfl⟩

theorem restarted (h : t.Owns m) (hplain : PlainRunId m.record.runId) {runId : String}
    (hrun : PlainRunId runId) : t.Owns (m.restarted runId) := by
  unfold Member.restarted
  split
  · next hin =>
    have hsame := (Member.inListing_iff hplain hrun).mp hin
    refine ⟨?_, ?_, Or.inr rfl, ?_, fun _ => rfl⟩
    · dsimp only
      split
      · exact h.runId
      · exact h.runId
    · dsimp only
      split
      · exact h.rank
      · exact h.rank
    · dsimp only
      split
      · rfl
      · next hno =>
        rcases h.status with hactive | hdead
        · exact absurd ⟨h.recorded.trans hactive, hsame⟩ hno
        · exact h.recorded.trans hdead
  · exact h

theorem rehydrated (h : t.Owns m) (now : Nat) : t.Owns (m.rehydrated now) := by
  have hstatus : (m.rehydrated now).status = m.status := h.recorded
  exact ⟨h.runId, h.rank, hstatus ▸ h.status, rfl, fun hf => hstatus.trans (h.forgotten hf)⟩

end HeartbeatThread.Owns

/-- An operation that is not meant for a thread: it registers nobody for a rank
that the thread heartbeats for, and does not deregister its worker. -/
def WorkerOp.Spares (op : WorkerOp) (t : HeartbeatThread) : Prop :=
  match op with
  | .register runId _ rank workerId => workerId ≠ t.workerId ∧
      (t.runId = runId → some t.rank = rank → t.forgotten = true)
  | .deregister workerId => workerId ≠ t.workerId
  | _ => True

/-- What an operation does to the worker of a thread that it spares. -/
theorem Roster.owns_serve {r : Roster} {t : HeartbeatThread}
    (howns : ∀ m, r.members t.workerId = some m → t.Owns m) {op : WorkerOp} (hop : op.Plain)
    (hplain : ∀ id m, r.members id = some m → PlainRunId m.record.runId)
    (hspares : op.Spares t) (now : Nat) :
    ∀ m, (r.serve op now).members t.workerId = some m → t.Owns m := by
  have hedit : ∀ (workerId : String) (f : Member → Member),
      (t.workerId = workerId → ∀ m, t.Owns m → t.Owns (f m)) →
      ∀ m, (r.edit workerId f).members t.workerId = some m → t.Owns m := by
    intro workerId f hf m hm
    rw [members_edit] at hm
    split at hm
    · next hid =>
      obtain ⟨old, hold, rfl⟩ := Option.map_eq_some_iff.mp hm
      exact hf hid old (howns old (hid ▸ hold))
    · exact howns m hm
  intro m hm
  cases op with
  | register runId hostname rank workerId =>
      obtain ⟨hne, hother⟩ := hspares
      cases rank with
      | none =>
          have hold : (if t.workerId = workerId then _ else r.members t.workerId) = some m := hm
          rw [if_neg (Ne.symm hne)] at hold
          exact howns m hold
      | some rank =>
          have hold : (if t.workerId = workerId then _ else
            (r.members t.workerId).map (.superseded runId rank)) = some m := hm
          rw [if_neg (Ne.symm hne)] at hold
          obtain ⟨old, hfound, rfl⟩ := Option.map_eq_some_iff.mp hold
          exact (howns old hfound).superseded fun hrun hrank => hother hrun (congrArg some hrank)
  | heartbeat workerId step => exact hedit _ _ (fun _ _ h => h.heard step now) m hm
  | deregister workerId =>
      exact hedit _ _ (fun hid => absurd hid.symm hspares) m hm
  | workerFailure workerId => exact hedit _ _ (fun _ _ h => h.died) m hm
  | restartGroup runId =>
      obtain ⟨old, hold, rfl⟩ := Option.map_eq_some_iff.mp hm
      exact (howns old hold).restarted (hplain _ old hold) hop

/-! ## The invariant -/

theorem WorkerPlane.serve_heartbeat {s : WorkerPlane} {workerId : String} {step : Int}
    (now : Nat) : s.serve (.heartbeat workerId step, now) =
      some (s.workerHeartbeat workerId step now).1 := rfl

theorem WorkerPlane.serve_restartGroup {s : WorkerPlane} {runId : String} (now : Nat) :
    s.serve (.restartGroup runId, now) = some (s.restartGroup runId) := rfl

/-- The managers show an orderly roster of issued ids, on which every running
thread owns its worker, if the control plane knows it at all. -/
structure Steady (plane : WorkerPlane) (threads : List HeartbeatThread) (issued : List String)
    (r : Roster) : Prop where
  rostered : Rostered plane r
  orderly : r.Orderly
  known : ∀ id m, r.members id = some m → id ∈ issued
  threads : ∀ t ∈ threads, t.stopped = false → t.workerId ∈ issued ∧ PlainRunId t.runId ∧
    ∀ m, r.members t.workerId = some m → t.Owns m

namespace Steady

variable {plane plane' : WorkerPlane} {threads : List HeartbeatThread} {issued : List String}
  {r : Roster}

/-- The ids that an operation hands out. -/
def newIds : WorkerOp → List String
  | .register _ _ _ workerId => [workerId]
  | _ => []

theorem members_serve (r : Roster) (op : WorkerOp) (now : Nat) {id : String} {m : Member}
    (hm : (r.serve op now).members id = some m) :
    id ∈ newIds op ∨ ∃ old, r.members id = some old := by
  obtain ⟨f, -, -, hserved | ⟨runId, hostname, rank, workerId, new, rfl, -, -, hserved⟩⟩ :=
    r.serve_origins op now
  · rw [hserved] at hm
    obtain ⟨old, hold, _⟩ := Option.map_eq_some_iff.mp hm
    exact Or.inr ⟨old, hold⟩
  · rw [hserved] at hm
    have hcases : (if id = workerId then some new else (r.members id).map (f id)) = some m := hm
    split at hcases
    · next hid => exact Or.inl (List.mem_singleton.mpr hid)
    · obtain ⟨old, hold, _⟩ := Option.map_eq_some_iff.mp hcases
      exact Or.inr ⟨old, hold⟩

/-- **One operation.** -/
theorem serve (h : Steady plane threads issued r) {op : WorkerOp} {now : Nat} (hop : op.Plain)
    (hspares : ∀ t ∈ threads, t.stopped = false → op.Spares t)
    (hserve : plane.serve (op, now) = some plane') :
    Steady plane' threads (newIds op ++ issued) (r.serve op now) where
  rostered := h.rostered.serve hserve
  orderly := h.orderly.serve h.rostered.sound hop now
  known := by
    intro id m hm
    rcases members_serve r op now hm with hnew | ⟨old, hold⟩
    · exact List.mem_append_left _ hnew
    · exact List.mem_append_right _ (h.known id old hold)
  threads := by
    intro t ht hrunning
    obtain ⟨hissued, hplain, howns⟩ := h.threads t ht hrunning
    exact ⟨List.mem_append_right _ hissued, hplain,
      Roster.owns_serve howns hop h.orderly.plain (hspares t ht hrunning) now⟩

/-- One lease of a scan. -/
theorem checkWorker (h : Steady plane threads issued r) (clock : String → Nat)
    (restarts : String → Bool) (id : String) :
    ∃ r', Steady (WorkerPlane.checkWorker clock restarts plane id) threads issued r' := by
  unfold WorkerPlane.checkWorker
  cases hlease : plane.getLease id with
  | none => exact ⟨r, h⟩
  | some lease =>
      dsimp only
      split
      · next hexpired =>
        have hfails : plane.serve (.workerFailure id, 0) = some (plane.declareDead lease) := by
          simp only [WorkerPlane.serve, hlease, hexpired.1, if_true]
        have hdies : (WorkerOp.workerFailure id).Plain := trivial
        have hdead := h.serve hdies (fun _ _ _ => trivial) hfails
        split
        · have hplain : (WorkerOp.restartGroup lease.runId).Plain := by
            rw [h.rostered.shows.leases] at hlease
            obtain ⟨m, hm, hlease⟩ := Option.bind_eq_some_iff.mp hlease
            have hplain := h.orderly.plain id m hm
            rw [← h.rostered.shows.leaseRuns id m lease hm hlease] at hplain
            exact hplain
          exact ⟨_, hdead.serve hplain (fun _ _ _ => trivial) (WorkerPlane.serve_restartGroup 0)⟩
        · exact ⟨_, hdead⟩
      · exact ⟨r, h⟩

theorem checkWorkers (h : Steady plane threads issued r) (clock : String → Nat)
    (restarts : String → Bool) (ids : List String) :
    ∃ r', Steady (ids.foldl (WorkerPlane.checkWorker clock restarts) plane) threads issued r' := by
  induction ids generalizing plane r with
  | nil => exact ⟨r, h⟩
  | cons id ids ih =>
      obtain ⟨mid, hmid⟩ := h.checkWorker clock restarts id
      exact ih hmid

/-- **One event of the control plane.** -/
theorem step (h : Steady plane threads issued r) {event : WorkerEvent × Nat}
    (hplain : event.1.Plain)
    (hspares : ∀ op, event.1 = .op op → ∀ t ∈ threads, t.stopped = false → op.Spares t)
    (hstep : plane.step event = some plane') :
    ∃ r', Steady plane' threads (TrainingCluster.handedOut event.1 ++ issued) r' := by
  obtain ⟨event, now⟩ := event
  cases event with
  | op op =>
      have hserved := h.serve hplain (hspares op rfl) hstep
      cases op <;> exact ⟨_, hserved⟩
  | checkWorkers clock restarts =>
      obtain rfl := Option.some.inj hstep
      exact h.checkWorkers clock restarts _
  | restart =>
      obtain rfl := Option.some.inj hstep
      refine ⟨r.update fun _ => .rehydrated now, ?_, h.orderly.rehydrated now, ?_, ?_⟩
      · refine ⟨h.rostered.shows.rehydrate h.rostered.sound.ranked ?_ _ _,
          h.rostered.sound.rehydrated now⟩
        rfl
      · intro id m hm
        obtain ⟨old, hold, _⟩ := Option.map_eq_some_iff.mp hm
        exact h.known id old hold
      · intro t ht hrunning
        obtain ⟨hissued, hplainRun, howns⟩ := h.threads t ht hrunning
        refine ⟨hissued, hplainRun, ?_⟩
        intro m hm
        obtain ⟨old, hold, rfl⟩ := Option.map_eq_some_iff.mp hm
        exact (howns old hold).rehydrated now
  | other coordinator =>
      obtain rfl := Option.some.inj hstep
      exact ⟨r, h.rostered.other rfl rfl rfl, h.orderly, h.known, h.threads⟩

/-- The managers have handed out issued ids only. -/
theorem freshWorkerId (h : Steady plane threads issued r) {workerId : String}
    (hid : isWorkerId workerId = true) (hnew : workerId ∉ issued) :
    plane.freshWorkerId workerId = true := by
  rw [WorkerPlane.freshWorkerId, hid, Bool.true_and, decide_eq_true_eq]
  intro hmem
  obtain ⟨worker, hworker, rfl⟩ := List.mem_map.mp hmem
  obtain ⟨m, hm, _⟩ := h.rostered.shows.member_of_mem hworker
  exact hnew (h.known _ m hm)

/-- Other threads may be put in the place of these, if they own their workers. -/
theorem replace (h : Steady plane threads issued r) {threads' : List HeartbeatThread}
    (hthreads : ∀ t ∈ threads', t.stopped = false → t ∈ threads ∨
      (t.workerId ∈ issued ∧ PlainRunId t.runId ∧
        ∀ m, r.members t.workerId = some m → t.Owns m)) :
    Steady plane threads' issued r := by
  refine ⟨h.rostered, h.orderly, h.known, ?_⟩
  intro t ht hrunning
  rcases hthreads t ht hrunning with hold | hnew
  · exact h.threads t hold hrunning
  · exact hnew

/-- A thread put in the place of another one owns its worker. -/
theorem setThread (h : Steady plane threads issued r) (thread : Nat)
    {t' : HeartbeatThread}
    (ht' : t'.stopped = false → t'.workerId ∈ issued ∧ PlainRunId t'.runId ∧
      ∀ m, r.members t'.workerId = some m → t'.Owns m) :
    Steady plane (threads.set thread t') issued r := by
  refine h.replace fun u hu hrunning => ?_
  rcases List.mem_or_eq_of_mem_set hu with hold | rfl
  · exact Or.inl hold
  · exact Or.inr (ht' hrunning)

/-- A registration that is served supersedes nobody that is heartbeating. -/
theorem enrolled (h : Steady plane threads issued r) {runId hostname workerId : String}
    {rank : Int} {now : Nat} (hplain : PlainRunId runId)
    (hnew : workerId ∉ issued)
    (hspares : ∀ t ∈ threads, t.stopped = false → t.runId = runId → t.rank = rank →
      t.forgotten = true)
    (hserve : plane.serve (.register runId hostname (some rank) workerId, now) = some plane') :
    Steady plane' threads (workerId :: issued)
        (r.serve (.register runId hostname (some rank) workerId) now) ∧
      (r.serve (.register runId hostname (some rank) workerId) now).members workerId =
        some (.new runId rank hostname workerId now) := by
  have hop : (WorkerOp.register runId hostname (some rank) workerId).Plain := hplain
  refine ⟨h.serve hop ?_ hserve, if_pos rfl⟩
  intro t ht hrunning
  obtain ⟨hissued, _⟩ := h.threads t ht hrunning
  refine ⟨fun heq => hnew (heq ▸ hissued), fun hrun hrank => ?_⟩
  exact hspares t ht hrunning hrun (Option.some.inj hrank)

end Steady

/-! ## What a heartbeat is answered -/

section
variable {s : WorkerPlane} {r : Roster}

/-- An active worker is answered 200. -/
theorem Shows.heartbeat_ok (h : Shows s r) {workerId : String} {m : Member}
    (hm : r.members workerId = some m) (hactive : m.status = .active) (step : Int) (now : Nat) :
    (s.workerHeartbeat workerId step now).2 = .ok () := by
  have hworker := h.getWorker_member hm
  obtain ⟨hid, hslash⟩ := h.ids workerId m hm
  let updated : WorkerInfo :=
    { m.record with lastHeartbeat := some now, currentStep := step, status := .active }
  have hrecord : s.coordinator.getWorkerRecord m.record.runId workerId = some m.record := by
    rw [h.records _ _ hslash, hm, Option.bind_some, if_pos rfl]
  have hheard : s.coordinator.heartbeat m.indexed.runId workerId step now =
      (s.coordinator.putWorker updated, .ok updated) := by
    have hrun : m.indexed.runId = m.record.runId := rfl
    rw [WorkerCoordinator.heartbeat, WorkerCoordinator.editWorker, hrun, hrecord]
  have hindexed : m.indexed.status = .active := hactive
  simp only [workerHeartbeat, updateWorkerHeartbeat, hworker, hindexed, hheard,
    WorkerStatus.fenced, ne_eq, not_true_eq_false, if_false, Bool.false_eq_true]

/-- The index has a worker as active exactly if the roster has. -/
theorem Shows.indexActive_iff (h : Shows s r) (id : String) :
    s.IndexActive id ↔ ∃ m, r.members id = some m ∧ m.status = .active := by
  unfold IndexActive
  rw [h.index]
  cases r.members id <;> simp [Member.indexed]

/-- A worker that is unknown or dead is answered 404. -/
theorem Shows.heartbeat_notFound (h : Shows s r) {workerId : String}
    (hdead : ∀ m, r.members workerId = some m → m.status = .dead) (step : Int) (now : Nat) :
    (s.workerHeartbeat workerId step now).2 =
      .error (ControlPlane.notFound "Worker" workerId) := by
  cases hm : r.members workerId with
  | none =>
      have hworker : s.getWorker workerId = none := by rw [h.index, hm, Option.map_none]
      simp only [workerHeartbeat, updateWorkerHeartbeat, hworker]
  | some m =>
      have hworker := h.getWorker_member hm
      have hindexed : m.indexed.status = .dead := hdead m hm
      simp [workerHeartbeat, updateWorkerHeartbeat, hworker, hindexed, WorkerStatus.fenced]

end

namespace TrainingCluster

/-! ## One step of the cluster -/

/-- No two running threads have the same rank of a run. -/
def Lone (threads : List HeartbeatThread) : Prop :=
  ∀ (i j : Nat) (t u : HeartbeatThread), threads[i]? = some t → threads[j]? = some u →
    t.stopped = false → u.stopped = false → t.runId = u.runId → t.rank = u.rank → i = j

/-- A launch or a registration by somebody else takes no rank of a running
thread, nobody deregisters the worker of one, and run ids are plain. -/
def Considerate (c : TrainingCluster) (event : ClusterEvent × Nat) : Prop :=
  match event.1 with
  | .launch runId _ rank _ _ => PlainRunId runId ∧
      ∀ t ∈ c.threads, t.stopped = false → t.runId = runId → t.rank ≠ rank
  | .control (.op (.register runId _ rank _)) => PlainRunId runId ∧
      ∀ t ∈ c.threads, t.stopped = false → t.runId = runId → some t.rank ≠ rank
  | .control (.op (.deregister workerId)) =>
      ∀ t ∈ c.threads, t.stopped = false → t.workerId ≠ workerId
  | .control event => event.Plain
  | _ => True

instance (c : TrainingCluster) : (event : ClusterEvent × Nat) → Decidable (c.Considerate event)
  | (.launch .., _) | (.control (.op (.register ..)), _) =>
      inferInstanceAs (Decidable (_ ∧ ∀ t ∈ c.threads, _))
  | (.control (.op (.deregister _)), _) => inferInstanceAs (Decidable (∀ t ∈ c.threads, _))
  | (.control (.op (.restartGroup runId)), _) => inferInstanceAs (Decidable (PlainRunId runId))
  | (.control (.op (.heartbeat ..)), _) | (.control (.op (.workerFailure _)), _)
  | (.control (.checkWorkers ..), _) | (.control .restart, _) | (.control (.other _), _)
  | (.updateStep .., _) | (.sendHeartbeat .., _) | (.registerAgain .., _) | (.stop _, _)
  | (.forget, _) => isTrue trivial

/-- Every running thread owns its worker, and no two share a rank. -/
def Kept (c : TrainingCluster) : Prop :=
  (∃ r, Steady c.plane c.threads c.issued r) ∧ Lone c.threads

theorem kept_init (store : KVStore) (deadThreshold : Nat) :
    (TrainingCluster.init store deadThreshold).Kept := by
  refine ⟨⟨.empty, rostered_init store deadThreshold, Roster.orderly_empty, ?_, ?_⟩, ?_⟩
  · intro id m hm
    cases hm
  · intro t ht
    cases ht
  · intro i j t u ht
    cases ht

variable {c c' : TrainingCluster}

theorem running_eq_some {thread : Nat} {t : HeartbeatThread} :
    c.running thread = some t ↔ c.threads[thread]? = some t ∧ t.stopped = false := by
  simp [running, Option.filter_eq_some_iff]

/-- What a registration comes to: it is refused, or it is served and answered or
not. -/
theorem register_cases {runId hostname : String} {rank : Int} {workerId : String} {fault : Fault}
    {now : Nat} {answer : Except ClientError WorkerInfo} {r : Roster}
    (hc : Steady c.plane c.threads c.issued r)
    (h : c.register runId hostname rank workerId fault now = some (c', answer)) :
    (c' = c ∧ answer = .error .transport) ∨
      (workerId ∉ c.issued ∧ c'.threads = c.threads ∧ c'.issued = workerId :: c.issued ∧
        c.plane.serve (.register runId hostname (some rank) workerId, now) = some c'.plane ∧
        (answer = .error .transport ∨ ∃ worker, answer = .ok worker ∧
          worker.workerId = workerId)) := by
  unfold register at h
  split at h
  · obtain ⟨rfl, rfl⟩ := Prod.mk.inj (Option.some.inj h)
    exact Or.inl ⟨rfl, rfl⟩
  · obtain ⟨hfresh, hsome⟩ := Option.ite_none_right_eq_some.mp h
    obtain ⟨rfl, rfl⟩ := Prod.mk.inj (Option.some.inj hsome)
    rw [fresh, Bool.and_eq_true, decide_eq_true_eq] at hfresh
    refine Or.inr ⟨hfresh.2, rfl, rfl, ?_, ?_⟩
    · exact if_pos (hc.freshWorkerId hfresh.1 hfresh.2)
    · cases fault with
      | none => exact Or.inr ⟨_, rfl, rfl⟩
      | refused | lost => exact Or.inl rfl

/-- Replacing a thread by one of the same rank keeps the ranks apart. -/
theorem Lone.set {threads : List HeartbeatThread} (h : Lone threads) {thread : Nat}
    {t t' : HeartbeatThread} (ht : threads[thread]? = some t) (hrun : t'.runId = t.runId)
    (hrank : t'.rank = t.rank) (hstopped : t'.stopped = false → t.stopped = false) :
    Lone (threads.set thread t') := by
  have hbefore : ∀ (i : Nat) (u : HeartbeatThread), (threads.set thread t')[i]? = some u →
      u.stopped = false → ∃ old, threads[i]? = some old ∧ old.stopped = false ∧
        old.runId = u.runId ∧ old.rank = u.rank := by
    intro i u hu hrunning
    rw [List.getElem?_set] at hu
    split at hu
    · next hi =>
      split at hu
      · obtain rfl := Option.some.inj hu
        exact ⟨t, hi ▸ ht, hstopped hrunning, hrun.symm, hrank.symm⟩
      · cases hu
    · exact ⟨u, hu, hrunning, rfl, rfl⟩
  intro i j u v hu hv hui hvj hsameRun hsameRank
  obtain ⟨u₀, hu₀, hlive, hur, huk⟩ := hbefore i u hu hui
  obtain ⟨v₀, hv₀, hlive', hvr, hvk⟩ := hbefore j v hv hvj
  exact h i j u₀ v₀ hu₀ hv₀ hlive hlive' (hur.trans (hsameRun.trans hvr.symm))
    (huk.trans (hsameRank.trans hvk.symm))

/-- A thread of a new rank keeps the ranks apart. -/
theorem Lone.concat {threads : List HeartbeatThread} (h : Lone threads) {t' : HeartbeatThread}
    (hnew : ∀ t ∈ threads, t.stopped = false → t.runId = t'.runId → t.rank ≠ t'.rank) :
    Lone (threads ++ [t']) := by
  intro i j u v hu hv hui hvj hsameRun hsameRank
  rw [List.getElem?_append] at hu hv
  split at hu
  · split at hv
    · exact h i j u v hu hv hui hvj hsameRun hsameRank
    · obtain rfl := List.mem_singleton.mp (List.mem_of_getElem? hv)
      exact absurd hsameRank (hnew u (List.mem_of_getElem? hu) hui hsameRun)
  · obtain rfl := List.mem_singleton.mp (List.mem_of_getElem? hu)
    split at hv
    · exact absurd hsameRank.symm (hnew v (List.mem_of_getElem? hv) hvj hsameRun.symm)
    · have hi := (List.getElem?_eq_some_iff.mp hu).1
      have hj := (List.getElem?_eq_some_iff.mp hv).1
      simp only [List.length_singleton] at hi hj
      omega

/-- After a heartbeat the thread still owns its worker, and it registers again only
if its worker is not active. -/
theorem steady_heartbeat {r : Roster} (hc : Steady c.plane c.threads c.issued r)
    {t : HeartbeatThread} (ht : t ∈ c.threads) (hrunning : t.stopped = false) (fault : Fault)
    (now : Nat) : ∃ r', Steady (c.heartbeat t fault now).1 c.threads c.issued r' ∧
      ∀ m, r'.members t.workerId = some m → (t.heard (c.heartbeat t fault now).2).Owns m := by
  unfold heartbeat
  split
  · exact ⟨r, hc, (hc.threads t ht hrunning).2.2⟩
  · have hop : (WorkerOp.heartbeat t.workerId t.step).Plain := trivial
    have hsteady := hc.serve hop (fun _ _ _ => trivial) (WorkerPlane.serve_heartbeat now)
    refine ⟨_, hsteady, ?_⟩
    intro m hm
    have howns := (hsteady.threads t ht hrunning).2.2 m hm
    obtain ⟨old, hold, hheard⟩ : ∃ old, r.members t.workerId = some old ∧
        old.heard t.step now = m := by
      have hedited := (Roster.members_edit r t.workerId t.workerId _).symm.trans hm
      rw [if_pos rfl] at hedited
      exact Option.map_eq_some_iff.mp hedited
    dsimp only
    rcases ((hc.threads t ht hrunning).2.2 old hold).status with hactive | hdead
    · rw [hc.rostered.shows.heartbeat_ok hold hactive]
      cases fault <;> exact howns
    · have hall : ∀ m, r.members t.workerId = some m → m.status = .dead := by
        intro found hfound
        obtain rfl := Option.some.inj (hold.symm.trans hfound)
        exact hdead
      have hstatus : m.status = .dead := by
        rw [← hheard, Member.heard, if_neg (by rw [hdead]; decide)]
        exact hdead
      rw [hc.rostered.shows.heartbeat_notFound hall]
      cases fault with
      | none => exact ⟨howns.runId, howns.rank, howns.status, howns.recorded, fun _ => hstatus⟩
      | refused | lost => exact howns

/-- A process is launched on a rank that is free. -/
theorem Kept.launch {runId hostname workerId : String} {rank : Int} {fault : Fault}
    {now : Nat} (hc : c.Kept)
    (hevent : c.Considerate (.launch runId hostname rank workerId fault, now))
    (h : c.step (.launch runId hostname rank workerId fault, now) = some c') : c'.Kept := by
  obtain ⟨⟨r, hsteady⟩, hlone⟩ := hc
  obtain ⟨⟨mid, answer⟩, hregister, h⟩ := Option.bind_eq_some_iff.mp h
  obtain ⟨hplain, hfree⟩ := hevent
  rcases register_cases hsteady hregister with ⟨rfl, rfl⟩ |
    ⟨hnew, hthreads, hissued, hserve, hanswer⟩
  · obtain rfl := Option.some.inj h
    exact ⟨⟨r, hsteady⟩, hlone⟩
  · obtain ⟨hsteady', hmember⟩ := hsteady.enrolled hplain hnew
      (fun t ht hrunning hrun hrank => absurd hrank (hfree t ht hrunning hrun)) hserve
    rcases hanswer with rfl | ⟨worker, rfl, hworker⟩
    · obtain rfl := Option.some.inj h
      rw [← hthreads, ← hissued] at hsteady'
      exact ⟨⟨_, hsteady'⟩, hthreads ▸ hlone⟩
    · obtain rfl := Option.some.inj h
      dsimp only [Kept]
      rw [hthreads, hissued]
      refine ⟨⟨_, hsteady'.replace ?_⟩, hlone.concat hfree⟩
      intro t ht hrunning
      rcases List.mem_append.mp ht with hold | hadded
      · exact Or.inl hold
      · obtain rfl := List.mem_singleton.mp hadded
        refine Or.inr ⟨hworker ▸ List.mem_cons_self, hplain, ?_⟩
        intro m hm
        rw [hworker, hmember] at hm
        obtain rfl := Option.some.inj hm
        exact ⟨rfl, rfl, Or.inl rfl, rfl, fun hforgotten => nomatch hforgotten⟩

/-- A thread sends its heartbeat. -/
theorem Kept.sendHeartbeat {thread now : Nat} {fault : Fault} (hc : c.Kept)
    (h : c.step (.sendHeartbeat thread fault, now) = some c') : c'.Kept := by
  obtain ⟨⟨r, hsteady⟩, hlone⟩ := hc
  obtain ⟨t, ht, h⟩ := Option.bind_eq_some_iff.mp h
  obtain ⟨_, hsome⟩ := Option.ite_none_left_eq_some.mp h
  obtain ⟨hget, hrunning⟩ := running_eq_some.mp ht
  obtain ⟨hissued, hplain, _⟩ := hsteady.threads t (List.mem_of_getElem? hget) hrunning
  obtain ⟨r', hsteady', howns'⟩ := steady_heartbeat hsteady (List.mem_of_getElem? hget)
    hrunning fault now
  generalize hout : c.heartbeat t fault now = out at hsome hsteady' howns'
  obtain rfl := Option.some.inj hsome
  obtain ⟨hid, hrun, hrank, _⟩ := t.heard_same out.2
  refine ⟨⟨r', hsteady'.setThread thread fun _ => ?_⟩, hlone.set hget hrun hrank ?_⟩
  · rw [hid, hrun]
    exact ⟨hissued, hplain, howns'⟩
  · exact fun _ => hrunning

/-- A thread that was forgotten registers again. -/
theorem Kept.registerAgain {thread now : Nat} {workerId : String} {fault : Fault} (hc : c.Kept)
    (h : c.step (.registerAgain thread workerId fault, now) = some c') : c'.Kept := by
  obtain ⟨⟨r, hsteady⟩, hlone⟩ := hc
  obtain ⟨t, ht, h⟩ := Option.bind_eq_some_iff.mp h
  obtain ⟨hforgotten, h⟩ := Option.ite_none_right_eq_some.mp h
  obtain ⟨⟨mid, answer⟩, hregister, hsome⟩ := Option.bind_eq_some_iff.mp h
  obtain rfl := Option.some.inj hsome
  obtain ⟨hget, hrunning⟩ := running_eq_some.mp ht
  obtain ⟨hissued, hplain, howns⟩ := hsteady.threads t (List.mem_of_getElem? hget) hrunning
  rcases register_cases hsteady hregister with ⟨rfl, rfl⟩ |
    ⟨hnew, hthreads, hissuedNow, hserve, hanswer⟩
  · exact ⟨⟨r, hsteady.setThread thread fun _ => ⟨hissued, hplain, fun m hm =>
      (howns m hm).of_same rfl rfl fun hf => nomatch hf⟩⟩,
      hlone.set hget rfl rfl fun _ => hrunning⟩
  · -- only the thread itself has the rank, and its worker is not active
    have hspares : ∀ u ∈ c.threads, u.stopped = false → u.runId = t.runId →
        u.rank = t.rank → u.forgotten = true := by
      intro u hu hlive hrun hrank
      obtain ⟨j, hj⟩ := List.getElem?_of_mem hu
      obtain rfl := hlone j thread u t hj hget hlive hrunning hrun hrank
      obtain rfl := Option.some.inj (hj.symm.trans hget)
      exact hforgotten
    obtain ⟨hsteady', hmember⟩ := hsteady.enrolled hplain hnew hspares hserve
    have howns' := (hsteady'.threads t (List.mem_of_getElem? hget) hrunning).2.2
    dsimp only [Kept, setThread]
    rw [hthreads, hissuedNow]
    rcases hanswer with rfl | ⟨worker, rfl, hworker⟩
    · exact ⟨⟨_, hsteady'.setThread thread fun _ => ⟨List.mem_cons_of_mem _ hissued, hplain,
        fun m hm => (howns' m hm).of_same rfl rfl fun hf => nomatch hf⟩⟩,
        hlone.set hget rfl rfl fun _ => hrunning⟩
    · refine ⟨⟨_, hsteady'.setThread thread fun _ =>
        ⟨hworker ▸ List.mem_cons_self, hplain, ?_⟩⟩, hlone.set hget rfl rfl fun _ => hrunning⟩
      intro m hm
      rw [HeartbeatThread.registered, hworker, hmember] at hm
      obtain rfl := Option.some.inj hm
      exact ⟨rfl, rfl, Or.inl rfl, rfl, fun hf => nomatch hf⟩

/-- Anything else that happens in the control plane spares the workers of the
threads. -/
theorem Kept.control {event : WorkerEvent} {now : Nat} (hc : c.Kept)
    (hevent : c.Considerate (.control event, now))
    (h : c.step (.control event, now) = some c') : c'.Kept := by
  obtain ⟨⟨r, hsteady⟩, hlone⟩ := hc
  obtain ⟨hfresh, hsome⟩ := Option.ite_none_right_eq_some.mp h
  obtain ⟨plane, hplane, rfl⟩ := Option.map_eq_some_iff.mp hsome
  refine ⟨hsteady.step ?_ ?_ hplane, hlone⟩
  · cases event with
    | op op =>
        cases op with
        | register => exact hevent.1
        | deregister => trivial
        | heartbeat | workerFailure | restartGroup => exact hevent
    | checkWorkers | restart | other => exact hevent
  · intro op hop t ht hrunning
    subst hop
    cases op with
    | register runId hostname rank workerId =>
        obtain ⟨hissued, _⟩ := hsteady.threads t ht hrunning
        have hnew := hfresh workerId List.mem_cons_self
        rw [fresh, Bool.and_eq_true, decide_eq_true_eq] at hnew
        exact ⟨fun heq => hnew.2 (heq ▸ hissued),
          fun hrun hrank => absurd hrank (hevent.2 t ht hrunning hrun)⟩
    | deregister workerId => exact Ne.symm (hevent t ht hrunning)
    | heartbeat | workerFailure | restartGroup => trivial

/-- **One step.** -/
theorem Kept.step {event : ClusterEvent × Nat} (hc : c.Kept) (hevent : c.Considerate event)
    (h : c.step event = some c') : c'.Kept := by
  obtain ⟨event, now⟩ := event
  cases event with
  | launch runId hostname rank workerId fault => exact hc.launch hevent h
  | updateStep thread step =>
      obtain ⟨⟨r, hsteady⟩, hlone⟩ := hc
      obtain ⟨t, ht, h⟩ := Option.bind_eq_some_iff.mp h
      obtain rfl := Option.some.inj h
      obtain ⟨hget, hrunning⟩ := running_eq_some.mp ht
      obtain ⟨hissued, hplain, howns⟩ := hsteady.threads t (List.mem_of_getElem? hget) hrunning
      exact ⟨⟨r, hsteady.setThread thread fun _ => ⟨hissued, hplain, fun m hm =>
        (howns m hm).of_same rfl rfl id⟩⟩, hlone.set hget rfl rfl fun _ => hrunning⟩
  | sendHeartbeat thread fault => exact hc.sendHeartbeat h
  | registerAgain thread workerId fault => exact hc.registerAgain h
  | stop thread =>
      obtain ⟨⟨r, hsteady⟩, hlone⟩ := hc
      obtain ⟨t, ht, h⟩ := Option.bind_eq_some_iff.mp h
      obtain rfl := Option.some.inj h
      obtain ⟨hget, _⟩ := running_eq_some.mp ht
      exact ⟨⟨r, hsteady.setThread thread fun hrunning => nomatch hrunning⟩,
        hlone.set hget rfl rfl fun hrunning => nomatch hrunning⟩
  | control event => exact hc.control hevent h
  | forget =>
      obtain ⟨⟨r, hsteady⟩, hlone⟩ := hc
      obtain rfl := Option.some.inj h
      refine ⟨⟨.empty, rostered_init _ _, Roster.orderly_empty, ?_, ?_⟩, hlone⟩
      · intro id m hm
        cases hm
      · intro t ht hrunning
        obtain ⟨hissued, hplain, _⟩ := hsteady.threads t ht hrunning
        exact ⟨hissued, hplain, fun m hm => nomatch hm⟩

theorem kept_of_run {store : KVStore} {deadThreshold : Nat} {events : List (ClusterEvent × Nat)}
    (hconsiderate : Guarded step Considerate (init store deadThreshold) events)
    (hrun : run step (init store deadThreshold) events = some c) : c.Kept :=
  guarded_invariant step (fun _ _ _ hc hevent hstep => hc.step hevent hstep)
    (kept_init store deadThreshold) hconsiderate hrun

/-- **No thread is locked out.**  Whatever requests and answers are lost, whichever
workers die, whichever groups are restarted and however often the control plane
restarts or forgets everything: no running thread is ever refused with 409, and
the worker it sends heartbeats for, if the control plane knows it, is its own. -/
theorem threads_never_fenced {store : KVStore} {deadThreshold : Nat}
    {events : List (ClusterEvent × Nat)}
    (hconsiderate : Guarded step Considerate (init store deadThreshold) events)
    (hrun : run step (init store deadThreshold) events = some c)
    {thread : Nat} {t : HeartbeatThread} (ht : c.running thread = some t) :
    ¬ c.plane.Refuses t.workerId ∧
      ∀ worker, c.plane.getWorker t.workerId = some worker →
        worker.runId = t.runId ∧ worker.rank = t.rank := by
  obtain ⟨⟨r, hsteady⟩, _⟩ := kept_of_run hconsiderate hrun
  obtain ⟨hget, hrunning⟩ := running_eq_some.mp ht
  obtain ⟨_, _, howns⟩ := hsteady.threads t (List.mem_of_getElem? hget) hrunning
  constructor
  · rw [refuses_iff, hsteady.rostered.shows.fenced_iff]
    intro hfenced
    obtain ⟨m, hm, hfenced⟩ := hfenced
    rcases (howns m hm).status with hstatus | hstatus
    all_goals
      rw [hstatus] at hfenced
      cases hfenced
  · intro worker hworker
    rw [hsteady.rostered.shows.index] at hworker
    obtain ⟨m, hm, rfl⟩ := Option.map_eq_some_iff.mp hworker
    exact ⟨(howns m hm).runId, (howns m hm).rank⟩

/-- Two ranks, of which the second one loses the answer to its first registration
and launches again; a scan that finds both dead; a registration of the first
whose answer is lost as well; and a control plane that forgets everything. -/
def rockyEvents : List (ClusterEvent × Nat) :=
  [(.launch "00000000000000a1" "host-0" 0 "0000000000b0" .none, 1),
    (.launch "00000000000000a1" "host-1" 1 "0000000000b1" .lost, 2),
    (.launch "00000000000000a1" "host-1" 1 "0000000000b2" .none, 3),
    (.sendHeartbeat 0 .none, 5), (.control (.checkWorkers (fun _ => 40) fun _ => true), 40),
    (.sendHeartbeat 0 .none, 41), (.registerAgain 0 "0000000000b3" .lost, 42),
    (.updateStep 0 7, 43), (.sendHeartbeat 1 .lost, 44), (.forget, 50),
    (.sendHeartbeat 1 .none, 51)]

/-- The cluster afterwards. -/
def rockyCluster : TrainingCluster :=
  (run step (.init .etcdKVStore 15) rockyEvents).get (by decide +kernel)

theorem run_rockyEvents : run step (.init .etcdKVStore 15) rockyEvents = some rockyCluster :=
  (Option.some_get _).symm

/-- The first thread still uses an id that was forgotten. -/
theorem threads_never_fenced_rocky :
    ∃ t, rockyCluster.running 0 = some t ∧ t.workerId = "0000000000b0" ∧
      ¬ rockyCluster.plane.Refuses t.workerId := by
  obtain ⟨t, ht, hid⟩ : ∃ t, rockyCluster.running 0 = some t ∧ t.workerId = "0000000000b0" := by
    have hmap : (rockyCluster.running 0).map (·.workerId) = some "0000000000b0" := by
      decide +kernel
    exact Option.map_eq_some_iff.mp hmap
  exact ⟨t, ht, hid, (threads_never_fenced (by decide +kernel) run_rockyEvents ht).1⟩

/-! ## One undisturbed heartbeat of each thread -/

/-- The thread registers again if it is to, and is answered. -/
def reregister (ids : Nat → String) (now : Nat) (thread : Nat) (c : TrainingCluster) :
    Option TrainingCluster :=
  match c.running thread with
  | none => some c
  | some t =>
      if t.forgotten then c.step (.registerAgain thread (ids thread) .none, now) else some c

/-- An undisturbed heartbeat of a thread: if it is answered 404, or was before, the
thread registers again. -/
def revive (ids : Nat → String) (now : Nat) (c : TrainingCluster) (thread : Nat) :
    Option TrainingCluster :=
  match c.running thread with
  | none => some c
  | some t =>
      (if t.forgotten then some c else c.step (.sendHeartbeat thread .none, now)).bind
        (reregister ids now thread)

/-- Every thread in turn. -/
def round (ids : Nat → String) (now : Nat) (c : TrainingCluster) : Option TrainingCluster :=
  (List.range c.threads.length).foldlM (revive ids now) c

theorem running_setThread {thread : Nat} {t t' : HeartbeatThread} (ht : c.running thread = some t)
    (hrunning : t'.stopped = false) : (c.setThread thread t').running thread = some t' := by
  obtain ⟨hget, _⟩ := running_eq_some.mp ht
  rw [running_eq_some]
  refine ⟨?_, hrunning⟩
  rw [setThread, List.getElem?_set_self (List.getElem?_eq_some_iff.mp hget).1]

/-- A heartbeat leaves an active worker alone and has any other thread register
again. -/
theorem sendHeartbeat_spec (hc : c.Kept) {thread : Nat} {t : HeartbeatThread}
    (ht : c.running thread = some t) (hforgotten : t.forgotten = false) (now : Nat) :
    ∃ c', c.step (.sendHeartbeat thread .none, now) = some c' ∧ c'.Kept ∧
      c'.issued = c.issued ∧ c'.threads.length = c.threads.length ∧
      (∀ i, i ≠ thread → c'.threads[i]? = c.threads[i]?) ∧
      (∀ id, c.plane.IndexActive id → c'.plane.IndexActive id) ∧
      ∃ t', c'.running thread = some t' ∧ t'.runId = t.runId ∧ t'.rank = t.rank ∧
        (t'.forgotten = true ∨ c'.plane.IndexActive t'.workerId) := by
  have hkept := hc
  obtain ⟨⟨r, hsteady⟩, _⟩ := hc
  obtain ⟨hget, hrunning⟩ := running_eq_some.mp ht
  obtain ⟨_, _, howns⟩ := hsteady.threads t (List.mem_of_getElem? hget) hrunning
  have hfine : c.Considerate (.sendHeartbeat thread .none, now) := trivial
  let heard := c.plane.workerHeartbeat t.workerId t.step now
  let t' := t.heard (clientAnswer .none heard.2)
  let c' := { c with plane := heard.1 }.setThread thread t'
  have hstep : c.step (.sendHeartbeat thread .none, now) = some c' := by
    simp [step, ht, hforgotten, heartbeat, c', t', heard]
  have hshows := hsteady.rostered.shows.heartbeat t.workerId t.step now
  have hactive : ∀ id, c.plane.IndexActive id → c'.plane.IndexActive id := by
    intro id hid
    obtain ⟨m, hm, hstatus⟩ := (hsteady.rostered.shows.indexActive_iff id).mp hid
    refine (hshows.indexActive_iff id).mpr ?_
    rw [Roster.members_edit]
    split
    · next heq =>
      refine ⟨m.heard t.step now, by rw [← heq, hm, Option.map_some], ?_⟩
      rw [Member.heard, if_pos hstatus]
      exact hstatus
    · exact ⟨m, hm, hstatus⟩
  obtain ⟨hid, hrun, hrank, hstopped⟩ := t.heard_same (clientAnswer .none heard.2)
  have hthread : c'.running thread = some t' := by
    have hthere : ({ c with plane := heard.1 } : TrainingCluster).running thread = some t := ht
    exact running_setThread hthere (hstopped.trans hrunning)
  refine ⟨c', hstep, hkept.step hfine hstep, rfl,
    List.length_set .., fun i hi => List.getElem?_set_ne (Ne.symm hi), hactive, t', hthread, hrun,
    hrank, ?_⟩
  by_cases hlive : c.plane.IndexActive t.workerId
  · right
    rw [hid]
    exact hactive t.workerId hlive
  · left
    have hdead : ∀ m, r.members t.workerId = some m → m.status = .dead := by
      intro m hm
      refine (howns m hm).status.resolve_left fun hstatus => hlive ?_
      exact (hsteady.rostered.shows.indexActive_iff _).mpr ⟨m, hm, hstatus⟩
    have hanswer := hsteady.rostered.shows.heartbeat_notFound hdead t.step now
    show (t.heard (clientAnswer .none heard.2)).forgotten = true
    rw [hanswer]
    rfl

/-- A registration makes the worker of the thread active, and that of no other
thread inactive. -/
theorem registerAgain_spec (hc : c.Kept) {thread : Nat} {t : HeartbeatThread}
    (ht : c.running thread = some t) (hforgotten : t.forgotten = true) {workerId : String}
    (hfresh : c.fresh workerId = true) (now : Nat) :
    ∃ c', c.step (.registerAgain thread workerId .none, now) = some c' ∧ c'.Kept ∧
      c'.issued = workerId :: c.issued ∧ c'.threads.length = c.threads.length ∧
      (∀ i, i ≠ thread → c'.threads[i]? = c.threads[i]?) ∧
      (∀ i u, i ≠ thread → c.running i = some u → c.plane.IndexActive u.workerId →
        c'.plane.IndexActive u.workerId) ∧
      ∃ t', c'.running thread = some t' ∧ t'.runId = t.runId ∧ t'.rank = t.rank ∧
        t'.forgotten = false ∧ c'.plane.IndexActive t'.workerId := by
  have hkept := hc
  obtain ⟨⟨r, hsteady⟩, hlone⟩ := hc
  obtain ⟨hget, hrunning⟩ := running_eq_some.mp ht
  obtain ⟨hid, hnew⟩ : isWorkerId workerId = true ∧ workerId ∉ c.issued := by
    rw [fresh, Bool.and_eq_true, decide_eq_true_eq] at hfresh
    exact hfresh
  have hfine : c.Considerate (.registerAgain thread workerId .none, now) := trivial
  let out := c.plane.registerWorker t.runId t.hostname (some t.rank) workerId now
  let t' : HeartbeatThread := { t with workerId := workerId, forgotten := false }
  let c' := { c with plane := out.1, issued := workerId :: c.issued }.setThread thread t'
  have hstep : c.step (.registerAgain thread workerId .none, now) = some c' := by
    simp only [step, ht, Option.bind_eq_bind, Option.bind_some, hforgotten, if_true, register,
      hfresh]
    rfl
  have hserve : c.plane.serve (.register t.runId t.hostname (some t.rank) workerId, now) =
      some out.1 := if_pos (hsteady.freshWorkerId hid hnew)
  have hshows := (hsteady.rostered.serve hserve).shows
  have hthread : c'.running thread = some t' := by
    have hthere : ({ c with plane := out.1, issued := workerId :: c.issued } :
        TrainingCluster).running thread = some t := ht
    exact running_setThread hthere hrunning
  refine ⟨c', hstep, hkept.step hfine hstep, rfl, List.length_set ..,
    fun i hi => List.getElem?_set_ne (Ne.symm hi), ?_, t', hthread, rfl, rfl, rfl, ?_⟩
  · intro i u hi hu hactive
    obtain ⟨hugets, hulive⟩ := running_eq_some.mp hu
    obtain ⟨hissued, _, howns⟩ := hsteady.threads u (List.mem_of_getElem? hugets) hulive
    obtain ⟨m, hm, hstatus⟩ := (hsteady.rostered.shows.indexActive_iff _).mp hactive
    refine (hshows.indexActive_iff u.workerId).mpr ⟨m, ?_, hstatus⟩
    have hne : u.workerId ≠ workerId := fun heq => hnew (heq ▸ hissued)
    refine (if_neg hne).trans ?_
    show (r.members u.workerId).map (.superseded t.runId t.rank) = some m
    rw [hm, Option.map_some, Member.superseded, if_neg]
    intro hall
    exact hi (hlone i thread u t hugets hget hulive hrunning
      ((howns m hm).runId.symm.trans hall.1) ((howns m hm).rank.symm.trans hall.2.2.1))
  · exact (hshows.indexActive_iff workerId).mpr ⟨_, if_pos rfl, rfl⟩

/-- The threads at some positions have had their turn since the first cluster. -/
structure Revived (ids : Nat → String) (c c' : TrainingCluster) (done : List Nat) : Prop where
  kept : c'.Kept
  length : c'.threads.length = c.threads.length
  issued : ∀ id ∈ c'.issued, id ∈ c.issued ∨ ∃ i ∈ done, id = ids i
  others : ∀ i, i ∉ done → c'.threads[i]? = c.threads[i]?
  spared : ∀ i u, i ∉ done → c.running i = some u → c.plane.IndexActive u.workerId →
    c'.plane.IndexActive u.workerId
  place : ∀ i, (c'.running i).map (·.place) = (c.running i).map (·.place)
  active : ∀ i ∈ done, ∀ u, c'.running i = some u → c'.plane.IndexActive u.workerId

namespace Revived

variable {ids : Nat → String} {done : List Nat}

theorem refl (hc : c.Kept) : Revived ids c c [] :=
  ⟨hc, rfl, fun _ hid => Or.inl hid, fun _ _ => rfl, fun _ _ _ _ hactive => hactive,
    fun _ => rfl, fun _ hi => nomatch hi⟩

theorem running_eq {i : Nat} (h : Revived ids c c' done) (hi : i ∉ done) :
    c'.running i = c.running i := by
  unfold running
  rw [h.others i hi]

theorem trans {c'' : TrainingCluster} {i : Nat} (h : Revived ids c c' done)
    (h' : Revived ids c' c'' [i]) (hi : i ∉ done) : Revived ids c c'' (done ++ [i]) where
  kept := h'.kept
  length := h'.length.trans h.length
  issued := by
    intro id hid
    rcases h'.issued id hid with hid | ⟨j, hj, rfl⟩
    · rcases h.issued id hid with hold | ⟨j, hj, rfl⟩
      · exact Or.inl hold
      · exact Or.inr ⟨j, List.mem_append_left _ hj, rfl⟩
    · exact Or.inr ⟨j, List.mem_append_right _ hj, rfl⟩
  others := by
    intro j hj
    rw [List.mem_append, not_or] at hj
    rw [h'.others j hj.2, h.others j hj.1]
  spared := by
    intro j u hj hu hactive
    rw [List.mem_append, not_or] at hj
    exact h'.spared j u hj.2 ((h.running_eq hj.1).trans hu) (h.spared j u hj.1 hu hactive)
  place := fun j => (h'.place j).trans (h.place j)
  active := by
    intro j hj u hu
    rcases List.mem_append.mp hj with hdone | hlast
    · have hne : j ∉ [i] := by
        intro hmem
        exact hi (List.mem_singleton.mp hmem ▸ hdone)
      rw [h'.running_eq hne] at hu
      exact h'.spared j u hne hu (h.active j hdone u hu)
    · exact h'.active j hlast u hu

/-- One thread has had its turn. -/
theorem turn {thread : Nat} {t t' : HeartbeatThread} (ht : c.running thread = some t)
    (hkept : c'.Kept) (hlength : c'.threads.length = c.threads.length)
    (hissued : ∀ id ∈ c'.issued, id ∈ c.issued ∨ id = ids thread)
    (hothers : ∀ i, i ≠ thread → c'.threads[i]? = c.threads[i]?)
    (hspared : ∀ i u, i ≠ thread → c.running i = some u → c.plane.IndexActive u.workerId →
      c'.plane.IndexActive u.workerId)
    (ht' : c'.running thread = some t') (hplace : t'.place = t.place)
    (hactive : c'.plane.IndexActive t'.workerId) : Revived ids c c' [thread] where
  kept := hkept
  length := hlength
  issued := fun id hid =>
    (hissued id hid).imp_right fun heq => ⟨thread, List.mem_singleton_self thread, heq⟩
  others := fun i hi => hothers i (List.ne_of_not_mem_cons hi)
  spared := fun i u hi => hspared i u (List.ne_of_not_mem_cons hi)
  place := by
    intro i
    by_cases hi : i = thread
    · rw [hi, ht, ht', Option.map_some, Option.map_some, hplace]
    · rw [running, running, hothers i hi]
  active := by
    intro i hi u hu
    obtain rfl := List.mem_singleton.mp hi
    obtain rfl := Option.some.inj (ht'.symm.trans hu)
    exact hactive

end Revived

/-- The turn of one thread. -/
theorem revive_spec {ids : Nat → String} {thread : Nat} (hc : c.Kept)
    (hfresh : c.fresh (ids thread) = true) (now : Nat) :
    ∃ c', c.revive ids now thread = some c' ∧ Revived ids c c' [thread] := by
  cases ht : c.running thread with
  | none =>
      refine ⟨c, by rw [revive, ht], hc, rfl, fun _ hid => Or.inl hid, fun _ _ => rfl,
        fun _ _ _ _ hactive => hactive, fun _ => rfl, ?_⟩
      intro i hi u hu
      obtain rfl := List.mem_singleton.mp hi
      exact nomatch ht.symm.trans hu
  | some t =>
      -- the heartbeat, which is left out if the last one was answered 404
      obtain ⟨mid, hmid, hkept, hissued, hlength, hothers, hspared, t', ht', hrun, hrank, hlive⟩ :
          ∃ mid, (if t.forgotten then some c else c.step (.sendHeartbeat thread .none, now)) =
              some mid ∧ mid.Kept ∧ mid.issued = c.issued ∧
            mid.threads.length = c.threads.length ∧
            (∀ i, i ≠ thread → mid.threads[i]? = c.threads[i]?) ∧
            (∀ id, c.plane.IndexActive id → mid.plane.IndexActive id) ∧
            ∃ t', mid.running thread = some t' ∧ t'.runId = t.runId ∧ t'.rank = t.rank ∧
              (t'.forgotten = true ∨ mid.plane.IndexActive t'.workerId) := by
        cases hforgotten : t.forgotten with
        | true =>
            exact ⟨c, rfl, hc, rfl, rfl, fun _ _ => rfl, fun _ h => h, t, ht, rfl, rfl,
              Or.inl hforgotten⟩
        | false => exact sendHeartbeat_spec hc ht hforgotten now
      cases hforgotten : t'.forgotten with
      | false =>
          have hactive := hlive.resolve_left fun htrue => nomatch hforgotten.symm.trans htrue
          refine ⟨mid, ?_, .turn ht hkept hlength (fun id hid => Or.inl (hissued ▸ hid)) hothers
            (fun _ _ _ _ hactive => hspared _ hactive) ht' (Prod.ext hrun hrank) hactive⟩
          simp only [revive, ht, hmid, Option.bind_some, reregister, ht', hforgotten,
            Bool.false_eq_true, if_false]
      | true =>
          have hfresh' : mid.fresh (ids thread) = true := by
            rw [fresh, hissued]
            exact hfresh
          obtain ⟨c', hstep, hkept', hissued', hlength', hothers', hspared', u, hu, hrun', hrank',
            _, hactive⟩ := registerAgain_spec hkept ht' hforgotten hfresh' now
          refine ⟨c', ?_, .turn ht hkept' (hlength'.trans hlength) ?_
            (fun i hi => (hothers' i hi).trans (hothers i hi)) ?_ hu
            (Prod.ext (hrun'.trans hrun) (hrank'.trans hrank)) hactive⟩
          · simp only [revive, ht, hmid, Option.bind_some, reregister, ht', hforgotten, if_true,
              hstep]
          · intro id hid
            rw [hissued', hissued] at hid
            rcases List.mem_cons.mp hid with rfl | hold
            · exact Or.inr rfl
            · exact Or.inl hold
          · intro i v hi hv hlive
            have hv' : mid.running i = some v := by
              rw [running, hothers i hi]
              exact hv
            exact hspared' i v hi hv' (hspared _ hlive)

/-- The turns of some threads, one after the other. -/
theorem revived_of_turns {ids : Nat → String} (hc : c.Kept) (now : Nat) {positions : List Nat}
    (hnodup : positions.Nodup) (hfresh : ∀ i ∈ positions, c.fresh (ids i) = true)
    (hdistinct : ∀ i ∈ positions, ∀ j ∈ positions, ids i = ids j → i = j) :
    ∃ c', positions.foldlM (revive ids now) c = some c' ∧ Revived ids c c' positions := by
  induction positions using List.reverseRecOn with
  | nil => exact ⟨c, rfl, .refl hc⟩
  | append_singleton positions last ih =>
      obtain ⟨hbefore, _, hlast⟩ := List.nodup_append.mp hnodup
      have hlast : last ∉ positions :=
        fun hmem => hlast last hmem last (List.mem_singleton_self last) rfl
      obtain ⟨mid, hturns, hmid⟩ := ih hbefore
        (fun i hi => hfresh i (List.mem_append_left _ hi))
        (fun i hi j hj => hdistinct i (List.mem_append_left _ hi) j (List.mem_append_left _ hj))
      have hin : last ∈ positions ++ [last] :=
        List.mem_append_right _ (List.mem_singleton_self last)
      have hnew : mid.fresh (ids last) = true := by
        have hfirst := hfresh last hin
        rw [fresh, Bool.and_eq_true, decide_eq_true_eq] at hfirst ⊢
        refine ⟨hfirst.1, fun hmem => ?_⟩
        rcases hmid.issued _ hmem with hold | ⟨i, hi, heq⟩
        · exact hfirst.2 hold
        · exact hlast (hdistinct last hin i (List.mem_append_left _ hi) heq ▸ hi)
      obtain ⟨c', hturn, hc'⟩ := revive_spec hmid.kept hnew now
      refine ⟨c', ?_, hmid.trans hc' hlast⟩
      rw [List.foldlM_append, hturns]
      simp only [List.foldlM_cons, List.foldlM_nil, Option.bind_eq_bind, Option.bind_some, hturn,
        pure]

/-- The running threads of a run. -/
def threadsOf (c : TrainingCluster) (runId : String) : List HeartbeatThread :=
  c.threads.filter fun t => !t.stopped && decide (t.runId = runId)

/-- A run whose running threads all have active workers counts each of them. -/
theorem length_threadsOf_le (hc : c.Kept)
    (hactive : ∀ i t, c.running i = some t → c.plane.IndexActive t.workerId) (runId : String) :
    (c.threadsOf runId).length ≤ c.plane.coordinator.liveWorkerCount runId := by
  obtain ⟨⟨r, hsteady⟩, hlone⟩ := hc
  have hmember : ∀ t ∈ c.threads, t.stopped = false →
      ∃ m, r.members t.workerId = some m ∧ m.status = .active ∧ t.Owns m := by
    intro t ht hrunning
    obtain ⟨i, hi⟩ := List.getElem?_of_mem ht
    obtain ⟨m, hm, hstatus⟩ := (hsteady.rostered.shows.indexActive_iff _).mp
      (hactive i t (running_eq_some.mpr ⟨hi, hrunning⟩))
    exact ⟨m, hm, hstatus, (hsteady.threads t ht hrunning).2.2 m hm⟩
  have hof : ∀ t ∈ c.threadsOf runId, t ∈ c.threads ∧ t.stopped = false ∧ t.runId = runId := by
    intro t ht
    obtain ⟨hmem, hboth⟩ := List.mem_filter.mp ht
    rw [Bool.and_eq_true, Bool.not_eq_true', decide_eq_true_eq] at hboth
    exact ⟨hmem, hboth⟩
  have hnodup : ((c.threadsOf runId).map (·.workerId)).Nodup := by
    have hapart : c.threads.Pairwise fun t u => t.stopped = false → u.stopped = false →
        t.runId = u.runId → t.rank ≠ u.rank := by
      rw [List.pairwise_iff_getElem]
      intro i j hi hj hlt ht hu hrun hrank
      have heq := hlone i j c.threads[i] c.threads[j] (List.getElem?_eq_getElem hi)
        (List.getElem?_eq_getElem hj) ht hu hrun hrank
      omega
    refine List.Pairwise.map _ ?_ (List.Pairwise.and_mem.mp (hapart.filter _))
    intro t u hboth heq
    obtain ⟨ht, hu, hne⟩ := hboth
    obtain ⟨htmem, htlive, htrun⟩ := hof t ht
    obtain ⟨humem, hulive, hurun⟩ := hof u hu
    obtain ⟨m, hm, _, howns⟩ := hmember t htmem htlive
    obtain ⟨m', hm', _, howns'⟩ := hmember u humem hulive
    rw [heq, hm'] at hm
    obtain rfl := Option.some.inj hm
    exact hne htlive hulive (htrun.trans hurun.symm) (howns.rank.symm.trans howns'.rank)
  have hsubset : (c.threadsOf runId).map (·.workerId) ⊆
      ((c.plane.coordinator.listWorkers runId).filter
        fun worker => decide (worker.status = .active)).map (·.workerId) := by
    intro id hid
    obtain ⟨t, ht, rfl⟩ := List.mem_map.mp hid
    obtain ⟨htmem, htlive, htrun⟩ := hof t ht
    obtain ⟨m, hm, hstatus, howns⟩ := hmember t htmem htlive
    have hplain := (hsteady.threads t htmem htlive).2.1
    have hlisted : m.inListing runId = true :=
      (Member.inListing_iff (hsteady.orderly.plain _ m hm) (htrun ▸ hplain)).mpr
        (howns.runId.trans htrun)
    refine List.mem_map.mpr ⟨m.record, List.mem_filter.mpr ⟨?_, ?_⟩, ?_⟩
    · exact (hsteady.rostered.shows.mem_listWorkers hm).mpr hlisted
    · exact decide_eq_true (howns.recorded.trans hstatus)
    · exact (hsteady.rostered.shows.ids _ m hm).1
  calc (c.threadsOf runId).length = ((c.threadsOf runId).map (·.workerId)).length := by
        rw [List.length_map]
    _ ≤ (((c.plane.coordinator.listWorkers runId).filter
          fun worker => decide (worker.status = .active)).map (·.workerId)).length :=
        (hnodup.subperm hsubset).length_le
    _ = c.plane.coordinator.liveWorkerCount runId := by
        rw [List.length_map, WorkerCoordinator.liveWorkerCount, List.countP_eq_length_filter]

/-- Clusters with the same running threads at every position have as many of a run. -/
theorem length_threadsOf_eq (hlength : c'.threads.length = c.threads.length)
    (hplace : ∀ i, (c'.running i).map (·.place) = (c.running i).map (·.place)) (runId : String) :
    (c'.threadsOf runId).length = (c.threadsOf runId).length := by
  let key (t : HeartbeatThread) : Option (String × Int) :=
    if t.stopped then none else some t.place
  have hkey : ∀ (c : TrainingCluster) (i : Nat) (hi : i < c.threads.length),
      (c.running i).map (·.place) = key c.threads[i] := by
    intro c i hi
    rw [running, List.getElem?_eq_getElem hi, Option.filter_some]
    cases hstopped : c.threads[i].stopped <;> simp [key, hstopped]
  have hsame : c'.threads.map key = c.threads.map key := by
    refine List.ext_getElem (by rw [List.length_map, List.length_map, hlength]) ?_
    intro i hi hi'
    rw [List.length_map] at hi hi'
    rw [List.getElem_map, List.getElem_map, ← hkey c' i hi, ← hkey c i hi', hplace]
  have hcount : ∀ c : TrainingCluster, (c.threadsOf runId).length =
      (c.threads.map key).countP fun place => place.any (·.1 = runId) := by
    intro c
    rw [threadsOf, ← List.countP_eq_length_filter, List.countP_map]
    refine List.countP_congr fun t _ => ?_
    cases hstopped : t.stopped <;> simp [key, hstopped, HeartbeatThread.place]
  rw [hcount, hcount, hsame]

/-- **Every thread finds back.**  After any considerate run, one undisturbed turn of
each thread ends with its worker active in all three views, as the worker of its
own run and rank; and no run that all its threads still run for lacks a quorum. -/
theorem round_revives {store : KVStore} {deadThreshold : Nat}
    {events : List (ClusterEvent × Nat)}
    (hconsiderate : Guarded step Considerate (init store deadThreshold) events)
    (hrun : run step (init store deadThreshold) events = some c) {ids : Nat → String}
    (hfresh : ∀ i < c.threads.length, c.fresh (ids i) = true)
    (hdistinct : ∀ i < c.threads.length, ∀ j < c.threads.length, ids i = ids j → i = j)
    (now : Nat) :
    ∃ c', c.round ids now = some c' ∧
      (∀ thread t, c.running thread = some t →
        ∃ t' worker, c'.running thread = some t' ∧
          c'.plane.getWorker t'.workerId = some worker ∧
          worker.runId = t.runId ∧ worker.rank = t.rank ∧
          c'.plane.IndexActive t'.workerId ∧ c'.plane.RecordActive t'.workerId ∧
          c'.plane.LeaseAlive t'.workerId) ∧
      ∀ runId numWorkers, numWorkers ≤ (c.threadsOf runId).length →
        c'.plane.coordinator.lacksQuorum runId numWorkers = false := by
  obtain ⟨c', hround, hc'⟩ := revived_of_turns (kept_of_run hconsiderate hrun) now
    List.nodup_range (fun i hi => hfresh i (List.mem_range.mp hi))
    (fun i hi j hj => hdistinct i (List.mem_range.mp hi) j (List.mem_range.mp hj))
  have hactive : ∀ i t, c'.running i = some t → c'.plane.IndexActive t.workerId := by
    intro i t ht
    have hi := (List.getElem?_eq_some_iff.mp (running_eq_some.mp ht).1).1
    exact hc'.active i (List.mem_range.mpr (hc'.length ▸ hi)) t ht
  refine ⟨c', hround, ?_, ?_⟩
  · intro thread t ht
    obtain ⟨t', ht', hplace⟩ : ∃ t', c'.running thread = some t' ∧ t'.place = t.place := by
      have hplaces := hc'.place thread
      rw [ht, Option.map_some] at hplaces
      exact Option.map_eq_some_iff.mp hplaces
    obtain ⟨hrunId, hrank⟩ := Prod.ext_iff.mp hplace
    obtain ⟨⟨r, hsteady⟩, _⟩ := hc'.kept
    obtain ⟨hget, hrunning⟩ := running_eq_some.mp ht'
    have hlive := hactive thread t' ht'
    obtain ⟨m, hm, hstatus⟩ := (hsteady.rostered.shows.indexActive_iff _).mp hlive
    have howns := (hsteady.threads t' (List.mem_of_getElem? hget) hrunning).2.2 m hm
    have hrecorded : m.record.status = .active := howns.recorded.trans hstatus
    have hshows := hsteady.rostered.shows
    refine ⟨t', m.indexed, ht', by rw [hshows.index, hm, Option.map_some],
      howns.runId.trans hrunId, howns.rank.trans hrank, hlive,
      ⟨m.record, hshows.mem_of_member hm, (hshows.ids _ m hm).1, hrecorded⟩, ?_⟩
    have halive := (hsteady.rostered.sound.valid _ m hm).alive_iff.mpr hstatus
    rw [Member.alive, Option.any_eq_true] at halive
    obtain ⟨lease, hlease, halive⟩ := halive
    exact ⟨lease, by rw [hshows.leases, hm, Option.bind_some, hlease], halive⟩
  · intro runId numWorkers hquorum
    have hcount := length_threadsOf_le hc'.kept hactive runId
    rw [length_threadsOf_eq hc'.length hc'.place] at hcount
    rw [WorkerCoordinator.lacksQuorum, Bool.and_eq_false_iff, decide_eq_false_iff_not]
    exact Or.inr (by omega)

/-- Ids for two threads. -/
def rockyIds (thread : Nat) : String :=
  if thread = 0 then "0000000000b4" else "0000000000b5"

/-- Both threads find back, and the run of the two has its quorum. -/
theorem round_revives_rocky :
    ∃ c', rockyCluster.round rockyIds 60 = some c' ∧
      c'.plane.coordinator.lacksQuorum "00000000000000a1" 2 = false ∧
      rockyCluster.plane.coordinator.liveWorkerCount "00000000000000a1" = 0 := by
  have hfresh : ∀ i < rockyCluster.threads.length, rockyCluster.fresh (rockyIds i) = true := by
    decide +kernel
  obtain ⟨c', hround, _, hquorum⟩ := round_revives (by decide +kernel) run_rockyEvents hfresh
    (by decide +kernel) 60
  exact ⟨c', hround, hquorum "00000000000000a1" 2 (by decide +kernel), by decide +kernel⟩

end TrainingCluster

end CheckpointRuntime
