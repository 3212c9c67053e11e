import CheckpointRuntime.WorkerLiveness

/-!
# Ranks

A rank of a run belongs to at most one active worker, and the ranks that are
handed out automatically are new.  The counter of a run is above every rank
that was ever given in it, since no worker that was ever registered is
forgotten: its record stays, and so does its rank.
-/

namespace CheckpointRuntime

open PartialRun WorkerPlane

namespace WorkerPlane

/-- The worker that an event registers, as `register_worker` returns it. -/
def registeredBy (s : WorkerPlane) (event : WorkerEvent × Nat) : Option WorkerInfo :=
  match event.1 with
  | .op (.register runId hostname rank workerId) =>
      some (s.registerWorker runId hostname rank workerId event.2).2
  | _ => none

/-- The workers that were registered along a run. -/
def registered : WorkerPlane → List (WorkerEvent × Nat) → List WorkerInfo
  | _, [] => []
  | s, event :: events =>
      match s.step event with
      | none => []
      | some next => (s.registeredBy event).toList ++ registered next events

/-- The rank that a registration without a rank gets. -/
def automaticRank (s : WorkerPlane) (runId : String) : Int := (s.nextRank runId).2

theorem rank_registerWorker (s : WorkerPlane) (runId hostname : String) (rank : Option Int)
    (workerId : String) (now : Nat) :
    (s.registerWorker runId hostname rank workerId now).2.rank =
      rank.getD (s.automaticRank runId) := by
  cases rank <;> rfl

end WorkerPlane

/-- The roster has a worker with the run and the rank it was registered with. -/
def Roster.Remembers (r : Roster) (worker : WorkerInfo) : Prop :=
  ∃ m, r.members worker.workerId = some m ∧ m.record.runId = worker.runId ∧
    m.record.rank = worker.rank

namespace Roster.Remembers

variable {r : Roster} {worker : WorkerInfo}

theorem update (h : r.Remembers worker) {f : String → Member → Member}
    (hf : ∀ id m, Member.SameOrigin m (f id m)) : (r.update f).Remembers worker := by
  obtain ⟨m, hm, hrun, hrank⟩ := h
  obtain ⟨_, hrunId, hsame⟩ := hf worker.workerId m
  exact ⟨f worker.workerId m, by rw [members_update, hm, Option.map_some], hrunId.trans hrun,
    hsame.trans hrank⟩

theorem edit (h : r.Remembers worker) {workerId : String} {f : Member → Member}
    (hf : ∀ m, Member.SameOrigin m (f m)) : (r.edit workerId f).Remembers worker :=
  h.update (Member.sameOrigin_edit hf workerId)

theorem add (h : r.Remembers worker) {workerId : String} (hnew : r.members workerId = none)
    (m : Member) : (r.add workerId m).Remembers worker := by
  obtain ⟨old, hold, hrest⟩ := h
  refine ⟨old, (if_neg ?_).trans hold, hrest⟩
  intro hid
  rw [hid, hnew] at hold
  cases hold

/-- **One operation.**  No worker is forgotten, and none changes its rank. -/
theorem serve (h : r.Remembers worker) {op : WorkerOp}
    (hnew : ∀ runId hostname rank workerId, op = .register runId hostname rank workerId →
      r.members workerId = none) (now : Nat) : (r.serve op now).Remembers worker := by
  cases op with
  | register runId hostname rank workerId =>
      have hfresh := hnew runId hostname rank workerId rfl
      cases rank with
      | none =>
          have hcounted : (r.setNextRank runId (r.nextRank runId + 1)).Remembers worker := h
          exact hcounted.add hfresh _
      | some rank =>
          have hcounted : (r.setNextRank runId
            (max (r.nextRank runId) (rank + 1))).Remembers worker := h
          have hretired := hcounted.update (f := fun _ => Member.superseded runId rank)
            fun _ m => m.sameOrigin_superseded runId rank
          refine hretired.add ?_ _
          show (r.members workerId).map (Member.superseded runId rank) = none
          rw [hfresh, Option.map_none]
  | heartbeat workerId step => exact h.edit fun m => m.sameOrigin_heard step now
  | deregister workerId => exact h.edit fun _ => ⟨rfl, rfl, rfl⟩
  | workerFailure workerId => exact h.edit fun _ => ⟨rfl, rfl, rfl⟩
  | restartGroup runId => exact h.update fun _ m => m.sameOrigin_restarted runId

end Roster.Remembers

/-- The managers show a roster that has a worker. -/
def WorkerPlane.Knows (worker : WorkerInfo) (s : WorkerPlane) : Prop :=
  ∃ r, Rostered s r ∧ r.Remembers worker

namespace WorkerPlane.Knows

variable {s s' : WorkerPlane} {worker : WorkerInfo}

theorem serve (h : s.Knows worker) {op : WorkerOp × Nat}
    (hserve : s.serve op = some s') : s'.Knows worker := by
  obtain ⟨r, hrostered, hr⟩ := h
  refine ⟨_, hrostered.serve hserve, hr.serve ?_ op.2⟩
  intro runId hostname rank workerId hop
  unfold WorkerPlane.serve at hserve
  rw [hop] at hserve
  obtain ⟨hfresh, _⟩ := Option.ite_none_right_eq_some.mp hserve
  exact (hrostered.shows.members_of_fresh hfresh).2

/-- **One step.**  A restart rebuilds every worker from its record. -/
theorem step (h : s.Knows worker) {event : WorkerEvent × Nat}
    (hstep : s.step event = some s') : s'.Knows worker := by
  cases step_cases hstep with
  | ops hrun =>
      exact run_invariant WorkerPlane.serve (fun _ _ _ ht hserve => ht.serve hserve) h hrun
  | restart coordinator _ hworkers hs' =>
      subst hs'
      obtain ⟨r, hrostered, hr⟩ := h
      exact ⟨_, ⟨hrostered.shows.rehydrate hrostered.sound.ranked hworkers _ _,
        hrostered.sound.rehydrated event.2⟩, hr.update fun _ _ => ⟨rfl, rfl, rfl⟩⟩
  | other _ _ hworkers hheartbeats hmanager =>
      obtain ⟨r, hrostered, hr⟩ := h
      exact ⟨r, hrostered.other hworkers hheartbeats hmanager, hr⟩

/-- A worker that has just been registered is known. -/
theorem of_registeredBy {r : Roster} (h : Rostered s r) {event : WorkerEvent × Nat}
    (hworker : s.registeredBy event = some worker) (hstep : s.step event = some s') :
    s'.Knows worker := by
  obtain ⟨event, now⟩ := event
  unfold registeredBy at hworker
  dsimp only at hworker
  split at hworker
  · next runId hostname rank workerId =>
    obtain rfl := Option.some.inj hworker
    have hserved : Rostered s' (r.serve (.register runId hostname rank workerId) now) :=
      h.serve hstep
    refine ⟨_, hserved, ?_⟩
    cases rank with
    | none =>
        refine ⟨_, if_pos rfl, rfl, ?_⟩
        show r.nextRank runId = s.manager.rankCounters runId
        rw [h.shows.ranks]
    | some rank => exact ⟨_, if_pos rfl, rfl, rfl⟩
  · cases hworker

/-- **Every worker that a run has registered is known in the end.** -/
theorem of_registered {r : Roster} (hs : Rostered s r) {events : List (WorkerEvent × Nat)}
    (hworker : worker ∈ registered s events)
    (hrun : run WorkerPlane.step s events = some s') : s'.Knows worker := by
  induction events generalizing s r with
  | nil => cases hworker
  | cons event events ih =>
      obtain ⟨next, hnext, hrest⟩ := run_cons_some _ hrun
      rw [registered, hnext] at hworker
      obtain ⟨r', hrostered⟩ := hs.step hnext
      rcases List.mem_append.mp hworker with hfirst | hlater
      · have hknown := of_registeredBy hs (Option.mem_toList.mp hfirst) hnext
        exact run_invariant WorkerPlane.step (fun _ _ _ ht hstep => ht.step hstep) hknown hrest
      · exact ih hrostered hlater hrest

/-- The counter of its run is above the rank of a worker that is known. -/
theorem rank_lt (h : s.Knows worker) : worker.rank < s.automaticRank worker.runId := by
  obtain ⟨r, hrostered, m, hm, hrun, hrank⟩ := h
  have hbound := (hrostered.sound.ranked worker.runId).2 (Or.inr ⟨_, m, hm, hrun, rfl⟩)
  have hcounter : s.automaticRank worker.runId = r.nextRank worker.runId :=
    congrFun hrostered.shows.ranks worker.runId
  omega

end WorkerPlane.Knows

namespace WorkerPlane

/-- No two active records of a run have one rank. -/
theorem active_worker_unique {store : KVStore} {deadThreshold : Nat} {s : WorkerPlane}
    {events : List (WorkerEvent × Nat)} (hplain : ∀ event ∈ events, event.1.Plain)
    (h : run step (.init store deadThreshold) events = some s) {worker worker' : WorkerInfo}
    (hworker : worker ∈ s.coordinator.workers.rows)
    (hworker' : worker' ∈ s.coordinator.workers.rows) (hrun : worker.runId = worker'.runId)
    (hrank : worker.rank = worker'.rank) (hactive : worker.status = .active)
    (hactive' : worker'.status = .active) : worker = worker' := by
  obtain ⟨r, hrostered, hr⟩ := Orderly.of_run hplain h
  obtain ⟨m, hm, rfl⟩ := hrostered.shows.member_of_mem hworker
  obtain ⟨m', hm', rfl⟩ := hrostered.shows.member_of_mem hworker'
  have hid := hr.unique _ _ m m' hm hm' hrun hrank hactive hactive'
  rw [hid, hm'] at hm
  rw [Option.some.inj hm]

/-- **At most one active worker per rank.**  In every state that a control
plane reaches with run ids as `create_run` makes them, no two active records of
a run have one rank, and a registration without a rank gets one that no worker
of its run ever had. -/
theorem one_active_worker_per_rank {store : KVStore} {deadThreshold : Nat} {s : WorkerPlane}
    {events : List (WorkerEvent × Nat)} (hplain : ∀ event ∈ events, event.1.Plain)
    (h : run step (.init store deadThreshold) events = some s) :
    (∀ worker ∈ s.coordinator.workers.rows, ∀ worker' ∈ s.coordinator.workers.rows,
      worker.runId = worker'.runId → worker.rank = worker'.rank → worker.status = .active →
        worker'.status = .active → worker = worker') ∧
    ∀ runId hostname workerId now, ∀ worker ∈ registered (.init store deadThreshold) events,
      worker.runId = runId →
        worker.rank ≠ (s.registerWorker runId hostname none workerId now).2.rank := by
  constructor
  · intro worker hworker worker' hworker' hrun hrank hactive hactive'
    exact active_worker_unique hplain h hworker hworker' hrun hrank hactive hactive'
  · intro runId hostname workerId now worker hworker hrun
    have hknown := Knows.of_registered (rostered_init store deadThreshold) hworker h
    have hlt := hknown.rank_lt
    rw [rank_registerWorker, Option.getD_none, ← hrun]
    omega

/-- Rank 0 has registered three times and rank 1 once: the last registration is
the active one, and the next automatic rank is 2. -/
theorem one_active_worker_per_rank_lively :
    ((∀ worker ∈ livelyState.coordinator.workers.rows,
      ∀ worker' ∈ livelyState.coordinator.workers.rows,
      worker.runId = worker'.runId → worker.rank = worker'.rank → worker.status = .active →
        worker'.status = .active → worker = worker') ∧
    ∀ runId hostname workerId now, ∀ worker ∈ registered (.init .etcdKVStore 15) livelyEvents,
      worker.runId = runId →
        worker.rank ≠ (livelyState.registerWorker runId hostname none workerId now).2.rank) ∧
    livelyState.automaticRank "00000000000000a1" = 2 :=
  ⟨one_active_worker_per_rank (by decide +kernel) run_livelyEvents, by decide +kernel⟩

end WorkerPlane

end CheckpointRuntime
