import CheckpointRuntime.WorkerRosterRuns

/-!
# Do the three views of liveness agree?

Index, record and lease.  The index and the lease always agree; the record
agrees with them as long as a listing of one run has no worker of another, which
the ids that `create_run` makes ensure.  With that every rank of a run has at
most one active record.
-/

namespace CheckpointRuntime

open PartialRun WorkerPlane

/-- An id as `create_run` makes them, as far as keys are concerned: it is not
empty and has no slash. -/
def PlainRunId (runId : String) : Prop := runId ≠ "" ∧ '/' ∉ runId.toList

instance (runId : String) : Decidable (PlainRunId runId) :=
  inferInstanceAs (Decidable (_ ∧ _))

/-- The run of an operation has a plain id. -/
def WorkerOp.Plain : WorkerOp → Prop
  | .register runId _ _ _ | .restartGroup runId => PlainRunId runId
  | .heartbeat _ _ | .deregister _ | .workerFailure _ => True

def WorkerEvent.Plain : WorkerEvent → Prop
  | .op served => served.Plain
  | .checkWorkers _ _ | .restart | .other _ => True

instance (op : WorkerOp) : Decidable op.Plain := by
  cases op <;> unfold WorkerOp.Plain <;> infer_instance

instance (event : WorkerEvent) : Decidable event.Plain := by
  cases event <;> unfold WorkerEvent.Plain <;> infer_instance

theorem Member.inListing_iff {m : Member} {runId : String} (hm : PlainRunId m.record.runId)
    (hrun : PlainRunId runId) : m.inListing runId = true ↔ m.record.runId = runId := by
  rw [inListing, List.isPrefixOf_iff_prefix]
  exact listingPrefix_isPrefix_iff hrun.1 hrun.2 hm.2

namespace Roster

/-- Run ids are plain, active records are those of active workers, and a rank of
a run has at most one. -/
structure Orderly (r : Roster) : Prop where
  plain : ∀ id m, r.members id = some m → PlainRunId m.record.runId
  recorded : ∀ id m, r.members id = some m → m.record.status = .active → m.status = .active
  unique : ∀ id id' m m', r.members id = some m → r.members id' = some m' →
    m.record.runId = m'.record.runId → m.record.rank = m'.record.rank →
    m.record.status = .active → m'.record.status = .active → id = id'

theorem orderly_empty : empty.Orderly := by
  constructor
  · intro id m hm
    cases hm
  · intro id m hm
    cases hm
  · intro id id' m m' hm
    cases hm

/-- A change of each worker by itself that makes no record active. -/
theorem Orderly.update {r : Roster} (hr : r.Orderly) {f : String → Member → Member}
    (hf : ∀ id m, Member.SameOrigin m (f id m))
    (hactive : ∀ id m, r.members id = some m → (f id m).record.status = .active →
      m.record.status = .active)
    (hstatus : ∀ id m, r.members id = some m → (f id m).record.status = .active →
      (f id m).status = .active) : (r.update f).Orderly := by
  constructor
  · intro id m' hm'
    obtain ⟨m, hm, rfl⟩ := Option.map_eq_some_iff.mp hm'
    rw [(hf id m).2.1]
    exact hr.plain id m hm
  · intro id m' hm'
    obtain ⟨m, hm, rfl⟩ := Option.map_eq_some_iff.mp hm'
    exact hstatus id m hm
  · intro id id' found found' hfound hfound' hrun hrank hlive hlive'
    obtain ⟨m, hm, rfl⟩ := Option.map_eq_some_iff.mp hfound
    obtain ⟨m', hm', rfl⟩ := Option.map_eq_some_iff.mp hfound'
    rw [(hf id m).2.1, (hf id' m').2.1] at hrun
    rw [(hf id m).2.2, (hf id' m').2.2] at hrank
    exact hr.unique id id' m m' hm hm' hrun hrank (hactive id m hm hlive)
      (hactive id' m' hm' hlive')

theorem Orderly.edit {r : Roster} (hr : r.Orderly) {workerId : String} {f : Member → Member}
    (hf : ∀ m, Member.SameOrigin m (f m))
    (hactive : ∀ m, r.members workerId = some m → (f m).record.status = .active →
      m.record.status = .active)
    (hstatus : ∀ m, r.members workerId = some m → (f m).record.status = .active →
      (f m).status = .active) : (r.edit workerId f).Orderly := by
  refine hr.update (Member.sameOrigin_edit hf workerId) ?_ ?_
  · intro id m hm
    split
    · next hid => exact hactive m (hid ▸ hm)
    · exact fun h => h
  · intro id m hm
    split
    · next hid => exact hstatus m (hid ▸ hm)
    · exact hr.recorded id m hm

/-- A registration whose rank no active record of its run has. -/
theorem Orderly.add {r : Roster} (hr : r.Orderly) {runId : String} (hrun : PlainRunId runId)
    {rank : Int}
    (hfree : ∀ id m, r.members id = some m → m.record.runId = runId → m.record.rank = rank →
      m.record.status ≠ .active) (hostname workerId : String) (now : Nat) :
    (r.add workerId (.new runId rank hostname workerId now)).Orderly := by
  have hcases : ∀ id m, (r.add workerId (.new runId rank hostname workerId now)).members id =
      some m → (id = workerId ∧ m = .new runId rank hostname workerId now) ∨
        r.members id = some m := by
    intro id m hm
    have hif : (if id = workerId then some (Member.new runId rank hostname workerId now)
      else r.members id) = some m := hm
    split at hif
    · next hid => exact Or.inl ⟨hid, (Option.some.inj hif).symm⟩
    · exact Or.inr hif
  constructor
  · intro id m hm
    rcases hcases id m hm with ⟨_, rfl⟩ | hold
    · exact hrun
    · exact hr.plain id m hold
  · intro id m hm hactive
    rcases hcases id m hm with ⟨_, rfl⟩ | hold
    · rfl
    · exact hr.recorded id m hold hactive
  · intro id id' m m' hm hm' hsameRun hsameRank hactive hactive'
    rcases hcases id m hm with ⟨hid, rfl⟩ | hold
    · rcases hcases id' m' hm' with ⟨hid', _⟩ | hold'
      · rw [hid, hid']
      · exact absurd hactive' (hfree id' m' hold' hsameRun.symm hsameRank.symm)
    · rcases hcases id' m' hm' with ⟨_, rfl⟩ | hold'
      · exact absurd hactive (hfree id m hold hsameRun hsameRank)
      · exact hr.unique id id' m m' hold hold' hsameRun hsameRank hactive hactive'

/-- **One operation.** -/
theorem Orderly.serve {r : Roster} (hr : r.Orderly) (hsound : r.Sound) {op : WorkerOp}
    (hop : op.Plain) (now : Nat) : (r.serve op now).Orderly := by
  cases op with
  | register runId hostname rank workerId =>
      cases rank with
      | none =>
          have hcounted : (r.setNextRank runId (r.nextRank runId + 1)).Orderly :=
            ⟨hr.plain, hr.recorded, hr.unique⟩
          refine hcounted.add hop ?_ hostname workerId now
          -- the counter is above every rank of the run
          intro id m hm hrun hrank _
          have hbound := (hsound.ranked runId).2 (Or.inr ⟨id, m, hm, hrun, rfl⟩)
          omega
      | some rank =>
          have hcounted : (r.setNextRank runId (max (r.nextRank runId) (rank + 1))).Orderly :=
            ⟨hr.plain, hr.recorded, hr.unique⟩
          have hretired : ((r.setNextRank runId (max (r.nextRank runId) (rank + 1))).update
              fun _ => .superseded runId rank).Orderly := by
            refine hcounted.update (fun _ m => m.sameOrigin_superseded runId rank) ?_ ?_
            · intro id m _
              unfold Member.superseded
              split
              · simp
              · exact fun h => h
            · intro id m hm
              unfold Member.superseded
              split
              · simp
              · exact hr.recorded id m hm
          refine hretired.add hop ?_ hostname workerId now
          -- an active record of the rank has just been retired
          intro id m' hm' hrun hrank hactive
          obtain ⟨m, hm, rfl⟩ := Option.map_eq_some_iff.mp hm'
          unfold Member.superseded at hrun hrank hactive
          dsimp only at hrun hrank hactive
          split at hactive
          · cases hactive
          · next hno =>
            rw [if_neg hno] at hrun hrank
            have hstatus := hr.recorded id m hm hactive
            exact hno ⟨hrun, (hsound.valid id m hm).active_listed hstatus, hrank, hstatus⟩
  | heartbeat workerId step =>
      refine hr.edit (fun m => m.sameOrigin_heard step now) ?_ ?_
      · intro m hm
        unfold Member.heard
        split
        · next hactive => exact fun _ => (hsound.valid _ m hm).active_record hactive
        · exact fun h => h
      · intro m hm
        unfold Member.heard
        split
        · next hactive => exact fun _ => hactive
        · exact hr.recorded _ m hm
  | deregister workerId =>
      refine hr.edit (fun _ => ⟨rfl, rfl, rfl⟩) ?_ ?_
      · intro m _ hactive
        cases hactive
      · intro m _ hactive
        cases hactive
  | workerFailure workerId =>
      refine hr.edit (fun _ => ⟨rfl, rfl, rfl⟩) ?_ ?_
      · intro m _ hactive
        cases hactive
      · intro m _ hactive
        cases hactive
  | restartGroup runId =>
      refine hr.update (fun _ m => m.sameOrigin_restarted runId) ?_ ?_
      · intro id m _
        unfold Member.restarted
        split
        · dsimp only
          split
          · simp
          · exact fun h => h
        · exact fun h => h
      · intro id m hm
        unfold Member.restarted
        split
        · next hin =>
          have hrun := (Member.inListing_iff (hr.plain id m hm) hop).mp hin
          dsimp only
          split
          · simp
          · next hno => exact fun hactive => absurd ⟨hactive, hrun⟩ hno
        · exact hr.recorded id m hm

theorem Orderly.rehydrated {r : Roster} (hr : r.Orderly) (now : Nat) :
    (r.update fun _ => .rehydrated now).Orderly :=
  hr.update (fun _ _ => ⟨rfl, rfl, rfl⟩) (fun _ _ _ h => h) (fun _ _ _ h => h)

end Roster

/-- The managers show an orderly roster. -/
def WorkerPlane.Orderly (s : WorkerPlane) : Prop := ∃ r, Rostered s r ∧ r.Orderly

theorem WorkerPlane.orderly_init (store : KVStore) (deadThreshold : Nat) :
    (init store deadThreshold).Orderly :=
  ⟨_, rostered_init store deadThreshold, Roster.orderly_empty⟩

namespace WorkerPlane.Orderly

theorem serve {s s' : WorkerPlane} (hs : s.Orderly) {op : WorkerOp} (hop : op.Plain) {now : Nat}
    (h : s.serve (op, now) = some s') : s'.Orderly := by
  obtain ⟨r, hrostered, hr⟩ := hs
  exact ⟨_, hrostered.serve h, hr.serve hrostered.sound hop now⟩

theorem run {s s' : WorkerPlane} (hs : s.Orderly) {ops : List WorkerOp}
    (hops : ∀ op ∈ ops, op.Plain) {now : Nat}
    (h : PartialRun.run WorkerPlane.serve s (ops.map fun op => (op, now)) = some s') :
    s'.Orderly := by
  induction ops generalizing s with
  | nil =>
      obtain rfl := Option.some.inj h
      exact hs
  | cons op ops ih =>
      obtain ⟨next, hnext, hrest⟩ := run_cons_some _ h
      have hserved := hs.serve (hops op List.mem_cons_self) hnext
      exact ih hserved (fun o ho => hops o (List.mem_cons_of_mem _ ho)) hrest

/-- A scan restarts the groups of runs with plain ids only. -/
theorem checkWorker {s : WorkerPlane} (hs : s.Orderly) (clock : String → Nat)
    (restarts : String → Bool) (id : String) :
    (WorkerPlane.checkWorker clock restarts s id).Orderly := by
  refine hs.run ?_ (s.run_checkOps clock restarts id 0)
  obtain ⟨r, hrostered, hr⟩ := hs
  intro op hop
  unfold checkOps at hop
  split at hop
  · cases hop
  · next lease hlease =>
    rw [hrostered.shows.leases] at hlease
    obtain ⟨m, hm, hlease⟩ := Option.bind_eq_some_iff.mp hlease
    have hplain : PlainRunId lease.runId := by
      rw [hrostered.shows.leaseRuns id m lease hm hlease]
      exact hr.plain id m hm
    split at hop
    · split at hop
      · rcases List.mem_cons.mp hop with rfl | hop
        · trivial
        · rw [List.mem_singleton.mp hop]
          exact hplain
      · rw [List.mem_singleton.mp hop]
        trivial
    · cases hop

theorem checkWorkers {s : WorkerPlane} (hs : s.Orderly) (clock : String → Nat)
    (restarts : String → Bool) (ids : List String) :
    (ids.foldl (WorkerPlane.checkWorker clock restarts) s).Orderly := by
  induction ids generalizing s with
  | nil => exact hs
  | cons id ids ih => exact ih (hs.checkWorker clock restarts id)

theorem step {s s' : WorkerPlane} (hs : s.Orderly) {event : WorkerEvent × Nat}
    (hevent : event.1.Plain) (h : s.step event = some s') : s'.Orderly := by
  obtain ⟨event, now⟩ := event
  cases event with
  | op op => exact hs.serve hevent h
  | checkWorkers clock restarts =>
      obtain rfl := Option.some.inj h
      exact hs.checkWorkers clock restarts _
  | restart =>
      obtain rfl := Option.some.inj h
      obtain ⟨r, hrostered, hr⟩ := hs
      refine ⟨_, ⟨hrostered.shows.rehydrate hrostered.sound.ranked ?_ _ _,
        hrostered.sound.rehydrated now⟩, hr.rehydrated now⟩
      rfl
  | other coordinator =>
      obtain rfl := Option.some.inj h
      obtain ⟨r, hrostered, hr⟩ := hs
      exact ⟨r, hrostered.other rfl rfl rfl, hr⟩

/-- Every state that a run with plain run ids reaches is orderly. -/
theorem of_run {store : KVStore} {deadThreshold : Nat} {s : WorkerPlane}
    {events : List (WorkerEvent × Nat)} (hplain : ∀ event ∈ events, event.1.Plain)
    (h : PartialRun.run WorkerPlane.step (.init store deadThreshold) events = some s) :
    s.Orderly := by
  exact guarded_invariant WorkerPlane.step (fun _ _ _ ht hevent hstep => ht.step hevent hstep)
    (orderly_init store deadThreshold) (guarded_of_forall _ _ hplain) h

end WorkerPlane.Orderly

namespace WorkerPlane

/-- The index has a worker as active. -/
def IndexActive (s : WorkerPlane) (id : String) : Prop :=
  ∃ worker, s.getWorker id = some worker ∧ worker.status = .active

/-- The store has an active record of a worker. -/
def RecordActive (s : WorkerPlane) (id : String) : Prop :=
  ∃ worker ∈ s.coordinator.workers.rows, worker.workerId = id ∧ worker.status = .active

/-- A worker has a lease that is alive. -/
def LeaseAlive (s : WorkerPlane) (id : String) : Prop :=
  ∃ lease, s.getLease id = some lease ∧ lease.isAlive = true

/-- **The three views agree.**  In every state that a control plane reaches with
run ids as `create_run` makes them, a worker is active in the index exactly if
it is so in its record, and exactly if its lease is alive. -/
theorem three_views_agree {store : KVStore} {deadThreshold : Nat} {s : WorkerPlane}
    {events : List (WorkerEvent × Nat)} (hplain : ∀ event ∈ events, event.1.Plain)
    (h : run step (.init store deadThreshold) events = some s) (id : String) :
    (s.IndexActive id ↔ s.RecordActive id) ∧ (s.RecordActive id ↔ s.LeaseAlive id) := by
  obtain ⟨r, hrostered, hr⟩ := Orderly.of_run hplain h
  have hindex : s.IndexActive id ↔ ∃ m, r.members id = some m ∧ m.status = .active := by
    unfold IndexActive
    rw [hrostered.shows.index]
    cases r.members id <;> simp [Member.indexed]
  have hrecord : s.RecordActive id ↔ ∃ m, r.members id = some m ∧ m.record.status = .active := by
    constructor
    · intro hactive
      obtain ⟨worker, hworker, rfl, hstatus⟩ := hactive
      obtain ⟨m, hm, rfl⟩ := hrostered.shows.member_of_mem hworker
      exact ⟨m, hm, hstatus⟩
    · intro hactive
      obtain ⟨m, hm, hstatus⟩ := hactive
      exact ⟨m.record, hrostered.shows.mem_of_member hm, (hrostered.shows.ids id m hm).1, hstatus⟩
  have hlease : s.LeaseAlive id ↔ ∃ m, r.members id = some m ∧ m.alive = true := by
    unfold LeaseAlive
    rw [hrostered.shows.leases]
    cases r.members id with
    | none => simp
    | some m => simp [Member.alive, Option.any_eq_true]
  rw [hindex, hrecord, hlease]
  constructor
  · constructor
    · intro hactive
      obtain ⟨m, hm, hstatus⟩ := hactive
      exact ⟨m, hm, (hrostered.sound.valid id m hm).active_record hstatus⟩
    · intro hactive
      obtain ⟨m, hm, hstatus⟩ := hactive
      exact ⟨m, hm, hr.recorded id m hm hstatus⟩
  · constructor
    · intro hactive
      obtain ⟨m, hm, hstatus⟩ := hactive
      exact ⟨m, hm, (hrostered.sound.valid id m hm).alive_iff.mpr (hr.recorded id m hm hstatus)⟩
    · intro halive
      obtain ⟨m, hm, halive⟩ := halive
      have hvalid := hrostered.sound.valid id m hm
      exact ⟨m, hm, hvalid.active_record (hvalid.alive_iff.mp halive)⟩

/-- Two ranks of which the first registers again, a scan that finds the second
one dead and restarts the group, and a restart of the process. -/
def livelyEvents : List (WorkerEvent × Nat) :=
  [(.op (.register "00000000000000a1" "host-0" none "0000000000b0"), 1),
    (.op (.register "00000000000000a1" "host-1" none "0000000000b1"), 2),
    (.op (.register "00000000000000a1" "host-0" (some 0) "0000000000b2"), 20),
    (.op (.heartbeat "0000000000b2" 5), 21),
    (.checkWorkers (fun _ => 25) fun _ => true, 25),
    (.op (.register "00000000000000a1" "host-0" (some 0) "0000000000b3"), 26), (.restart, 30)]

/-- The state afterwards. -/
def livelyState : WorkerPlane :=
  (run step (.init .etcdKVStore 15) livelyEvents).get (by decide +kernel)

theorem run_livelyEvents : run step (.init .etcdKVStore 15) livelyEvents = some livelyState :=
  (Option.some_get _).symm

/-- The last registration is alive in all three views, the first in none. -/
theorem three_views_agree_lively :
    ((livelyState.IndexActive "0000000000b3" ↔ livelyState.RecordActive "0000000000b3") ∧
      (livelyState.RecordActive "0000000000b3" ↔ livelyState.LeaseAlive "0000000000b3")) ∧
    ((livelyState.getWorker "0000000000b3").map (·.status) = some .active) :=
  ⟨three_views_agree (by decide +kernel) run_livelyEvents "0000000000b3", by decide +kernel⟩

end WorkerPlane

end CheckpointRuntime
