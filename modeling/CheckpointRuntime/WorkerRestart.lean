import CheckpointRuntime.WorkerRanks

/-!
# Does anybody notice that the managers were replaced?

Fresh managers show every worker as its record has it: listed in its run, with
the status of the record, and leased if it is active.  Two states whose workers
differ in their leases only answer alike, now and later.  So a replacement goes
unnoticed exactly if every worker was listed with the status of its record.
-/

namespace CheckpointRuntime

open PartialRun WorkerPlane

/-! ## What the managers are asked -/

/-- An operation of the worker manager, or a replacement of both managers. -/
inductive ManagerEvent
  | op (op : WorkerOp)
  | replace

namespace WorkerPlane

/-- Let one thing happen to the managers, if it can. -/
def manage (s : WorkerPlane) (event : ManagerEvent × Nat) : Option WorkerPlane :=
  match event.1 with
  | .op op => s.serve (op, event.2)
  | .replace => some (s.replaceManagers event.2)

/-- The ids and the statuses of the workers of a run. -/
def standings (s : WorkerPlane) (runId : String) : List (String × WorkerStatus) :=
  (s.getRunWorkers runId).map fun worker => (worker.workerId, worker.status)

/-- A heartbeat is accepted. -/
def accepts (s : WorkerPlane) (id : String) (step : Int) (now : Nat) : Bool :=
  (s.updateWorkerHeartbeat id step now).2.isSome

/-- Two states answer alike.  The order in which the workers of a run are
returned has no meaning. -/
structure SameAnswers (s s' : WorkerPlane) : Prop where
  standings : ∀ runId, (s.standings runId).Perm (s'.standings runId)
  activeCount : ∀ runId, s.activeWorkerCount runId = s'.activeWorkerCount runId
  status : ∀ id, (s.getWorker id).map (·.status) = (s'.getWorker id).map (·.status)
  accepts : ∀ id step now, s.accepts id step now = s'.accepts id step now
  nextRank : ∀ runId, s.automaticRank runId = s'.automaticRank runId

/-- If the managers are replaced now, no answer is ever another one. -/
def ReplacementInvisible (s : WorkerPlane) : Prop :=
  ∀ now events t, run manage s events = some t →
    ∃ t', run manage (s.replaceManagers now) events = some t' ∧ SameAnswers t t'

/-- A state in which an operation keeps every worker listed with the status of
its record: nobody who is known leaves, and a group restart finds dead workers
and active ones of its own run only. -/
def OpKeepsRecords (s : WorkerPlane) : WorkerOp → Prop
  | .deregister workerId => s.getWorker workerId = none
  | .restartGroup runId => ∀ worker ∈ s.coordinator.listWorkers runId,
      worker.status = .dead ∨ worker.status = .active ∧ worker.runId = runId
  | .register _ _ _ _ | .heartbeat _ _ | .workerFailure _ => True

def KeepsRecords (s : WorkerPlane) (event : ManagerEvent × Nat) : Prop :=
  match event.1 with
  | .op op => s.OpKeepsRecords op
  | .replace => True

end WorkerPlane

/-! ## Leases apart -/

/-- A worker without its lease. -/
def Member.unleased (m : Member) : Member := { m with lease := none }

theorem Member.eq_of_unleased_eq {m m' : Member} (h : m.unleased = m'.unleased) :
    m' = { m with lease := m'.lease } := by
  obtain ⟨record, status, lease, listed⟩ := m
  obtain ⟨record', status', lease', listed'⟩ := m'
  simp only [unleased, Member.mk.injEq, true_and] at h
  obtain ⟨rfl, rfl, rfl⟩ := h
  rfl

namespace Roster

/-- The roster without its leases. -/
def unleased (r : Roster) : Roster := r.update fun _ => .unleased

variable {r r' : Roster}

theorem nextRank_eq_of_unleased_eq (h : r.unleased = r'.unleased) : r.nextRank = r'.nextRank :=
  congrArg (·.nextRank) h

/-- The same worker in two rosters that differ in their leases only. -/
theorem member_of_unleased_eq (h : r.unleased = r'.unleased) {id : String} {m : Member}
    (hm : r.members id = some m) : ∃ lease, r'.members id = some { m with lease := lease } := by
  have hid : (r.members id).map Member.unleased = (r'.members id).map Member.unleased :=
    congrFun (congrArg (·.members) h) id
  rw [hm, Option.map_some] at hid
  obtain ⟨m', hm', heq⟩ := Option.map_eq_some_iff.mp hid.symm
  exact ⟨m'.lease, by rw [hm', Member.eq_of_unleased_eq heq.symm]⟩

theorem members_eq_none_of_unleased_eq (h : r.unleased = r'.unleased) {id : String}
    (hm : r.members id = none) : r'.members id = none := by
  have hid : (r.members id).map Member.unleased = (r'.members id).map Member.unleased :=
    congrFun (congrArg (·.members) h) id
  rwa [hm, Option.map_none, eq_comm, Option.map_eq_none_iff] at hid

/-- A question about a worker that does not look at its lease. -/
theorem exists_member_congr (h : r.unleased = r'.unleased) {id : String} {p : Member → Prop}
    (hp : ∀ m lease, p m → p { m with lease := lease }) :
    (∃ m, r.members id = some m ∧ p m) ↔ ∃ m, r'.members id = some m ∧ p m := by
  constructor
  · intro hm
    obtain ⟨m, hm, hpm⟩ := hm
    obtain ⟨lease, hm'⟩ := member_of_unleased_eq h hm
    exact ⟨_, hm', hp m lease hpm⟩
  · intro hm
    obtain ⟨m, hm, hpm⟩ := hm
    obtain ⟨lease, hm'⟩ := member_of_unleased_eq h.symm hm
    exact ⟨_, hm', hp m lease hpm⟩

/-- A change of each worker by itself that does not look at leases. -/
theorem unleased_update_congr (h : r.unleased = r'.unleased) {f : String → Member → Member}
    (hf : ∀ id m lease, (f id { m with lease := lease }).unleased = (f id m).unleased) :
    (r.update f).unleased = (r'.update f).unleased := by
  have hnext : r.nextRank = r'.nextRank := nextRank_eq_of_unleased_eq h
  refine ext_members ?_ hnext
  intro id
  show ((r.members id).map (f id)).map Member.unleased =
    ((r'.members id).map (f id)).map Member.unleased
  cases hm : r.members id with
  | none => rw [members_eq_none_of_unleased_eq h hm]
  | some m =>
      obtain ⟨lease, hm'⟩ := member_of_unleased_eq h hm
      simp only [hm', Option.map_some, hf]

theorem unleased_edit_congr (h : r.unleased = r'.unleased) (workerId : String)
    {f : Member → Member}
    (hf : ∀ m lease, (f { m with lease := lease }).unleased = (f m).unleased) :
    (r.edit workerId f).unleased = (r'.edit workerId f).unleased := by
  apply unleased_update_congr h
  intro id m lease
  split
  · exact hf m lease
  · rfl

theorem unleased_add_congr (h : r.unleased = r'.unleased) (runId : String) (next : Int)
    (workerId : String) (m : Member) :
    ((r.setNextRank runId next).add workerId m).unleased =
      ((r'.setNextRank runId next).add workerId m).unleased := by
  refine ext_members ?_ ?_
  · intro id
    show (if id = workerId then some m else r.members id).map Member.unleased =
      (if id = workerId then some m else r'.members id).map Member.unleased
    split
    · rfl
    · exact congrFun (congrArg (·.members) h) id
  · show (fun id => if id = runId then next else r.nextRank id) =
      fun id => if id = runId then next else r'.nextRank id
    rw [nextRank_eq_of_unleased_eq h]

/-- **One operation.**  What becomes of a roster, leases apart, does not depend
on its leases. -/
theorem unleased_serve_congr (h : r.unleased = r'.unleased) (op : WorkerOp) (now : Nat) :
    (r.serve op now).unleased = (r'.serve op now).unleased := by
  have hnext := nextRank_eq_of_unleased_eq h
  cases op with
  | register runId hostname rank workerId =>
      cases rank with
      | none =>
          unfold serve
          dsimp only
          rw [hnext]
          exact unleased_add_congr h _ _ _ _
      | some rank =>
          have hretired : (r.update fun _ => .superseded runId rank).unleased =
              (r'.update fun _ => .superseded runId rank).unleased := by
            apply unleased_update_congr h
            intro _ m lease
            unfold Member.superseded
            dsimp only
            split <;> rfl
          unfold serve
          dsimp only
          rw [hnext]
          exact unleased_add_congr hretired _ _ _ _
  | heartbeat workerId step =>
      apply unleased_edit_congr h workerId
      intro m lease
      unfold Member.heard
      dsimp only
      split <;> rfl
  | deregister workerId => exact unleased_edit_congr h workerId fun _ _ => rfl
  | workerFailure workerId => exact unleased_edit_congr h workerId fun _ _ => rfl
  | restartGroup runId =>
      apply unleased_update_congr h
      intro _ m lease
      unfold Member.restarted Member.inListing
      dsimp only
      split <;> rfl

theorem unleased_rehydrated_congr (h : r.unleased = r'.unleased) (now : Nat) :
    (r.update fun _ => .rehydrated now).unleased =
      (r'.update fun _ => .rehydrated now).unleased := by
  apply unleased_update_congr h
  intro _ _ _
  rfl

/-- Every worker is listed in its run with the status of its record. -/
def Recorded (r : Roster) : Prop :=
  ∀ id m, r.members id = some m → m.listed = true ∧ m.status = m.record.status

/-- Then fresh managers differ in their leases only. -/
theorem Recorded.rehydrated (h : r.Recorded) (now : Nat) :
    r.unleased = (r.update fun _ => .rehydrated now).unleased := by
  rw [unleased, unleased, update_update]
  apply update_congr
  intro id m hm
  obtain ⟨hlisted, hstatus⟩ := h id m hm
  simp [Member.unleased, Member.rehydrated, hlisted, hstatus]

end Roster

/-! ## What the answers depend on -/

namespace Shows

variable {s s' : WorkerPlane} {r r' : Roster}

/-- The workers of a run are those of its set. -/
theorem ids_getRunWorkers (h : Shows s r) (runId : String) :
    (s.getRunWorkers runId).map (·.workerId) = s.manager.runWorkers runId := by
  have hknown : ∀ id ∈ s.manager.runWorkers runId,
      (s.getWorker id).map (·.workerId) = some id := by
    intro id hid
    obtain ⟨m, hm, _⟩ := (h.sets runId id).mp hid
    rw [h.getWorker_member hm, Option.map_some]
    exact congrArg some (h.ids id m hm).1
  rw [getRunWorkers, List.map_filterMap]
  calc (s.manager.runWorkers runId).filterMap (fun id => (s.getWorker id).map (·.workerId))
      = (s.manager.runWorkers runId).filterMap some := List.filterMap_congr hknown
    _ = s.manager.runWorkers runId := List.filterMap_some

theorem nodup_standings (h : Shows s r) (runId : String) : (s.standings runId).Nodup := by
  apply List.Nodup.of_map Prod.fst
  have hids : (s.standings runId).map Prod.fst = (s.getRunWorkers runId).map (·.workerId) :=
    List.map_map
  rw [hids, h.ids_getRunWorkers]
  exact h.nodup runId

theorem mem_standings (h : Shows s r) {runId id : String} {status : WorkerStatus} :
    (id, status) ∈ s.standings runId ↔ ∃ m, r.members id = some m ∧ m.record.runId = runId ∧
      m.listed = true ∧ m.status = status := by
  constructor
  · intro hmem
    obtain ⟨worker, hworker, hpair⟩ := List.mem_map.mp hmem
    obtain ⟨id', hid', hfound⟩ := List.mem_filterMap.mp hworker
    obtain ⟨m, hm, hrun, hlisted⟩ := (h.sets runId id').mp hid'
    rw [h.getWorker_member hm] at hfound
    obtain rfl := Option.some.inj hfound
    obtain ⟨hid, hstatus⟩ := Prod.mk.inj hpair
    have hsame : id' = id := (h.ids id' m hm).1.symm.trans hid
    exact ⟨m, hsame ▸ hm, hrun, hlisted, hstatus⟩
  · intro hmem
    obtain ⟨m, hm, hrun, hlisted, hstatus⟩ := hmem
    refine List.mem_map.mpr ⟨m.indexed, ?_, Prod.ext (h.ids id m hm).1 hstatus⟩
    exact List.mem_filterMap.mpr ⟨id, (h.sets runId id).mpr ⟨m, hm, hrun, hlisted⟩,
      h.getWorker_member hm⟩

/-- The active workers of a run are counted by their standings. -/
theorem activeWorkerCount_eq (s : WorkerPlane) (runId : String) :
    s.activeWorkerCount runId =
      (s.standings runId).countP fun standing => decide (standing.2 = .active) := by
  rw [activeWorkerCount, standings, List.countP_map]
  rfl

/-- Heartbeats of active workers, and of no others, are accepted. -/
theorem accepts_iff (h : Shows s r) (id : String) (step : Int) (now : Nat) :
    s.accepts id step now = true ↔ ∃ m, r.members id = some m ∧ m.status = .active := by
  unfold accepts updateWorkerHeartbeat
  rw [h.index]
  cases hm : r.members id with
  | none => simp
  | some m =>
      have hrecord : s.coordinator.getWorkerRecord m.indexed.runId id = some m.record := by
        rw [h.records _ _ (h.ids id m hm).2, hm, Option.bind_some]
        exact if_pos rfl
      have hstatus : m.indexed.status = m.status := rfl
      by_cases hactive : m.status = .active
      · simp [hstatus, hactive, WorkerCoordinator.heartbeat, WorkerCoordinator.editWorker, hrecord]
      · simp [hstatus, hactive]

/-- Rosters that differ in their leases only answer alike. -/
theorem sameAnswers (h : Shows s r) (h' : Shows s' r') (hsame : r.unleased = r'.unleased) :
    SameAnswers s s' := by
  have hstandings : ∀ runId, (s.standings runId).Perm (s'.standings runId) := by
    intro runId
    rw [List.perm_ext_iff_of_nodup (h.nodup_standings runId) (h'.nodup_standings runId)]
    intro standing
    rw [h.mem_standings, h'.mem_standings]
    exact Roster.exists_member_congr hsame fun _ _ hm => hm
  constructor
  · exact hstandings
  · intro runId
    rw [activeWorkerCount_eq, activeWorkerCount_eq]
    exact (hstandings runId).countP_eq _
  · intro id
    rw [h.index, h'.index]
    cases hm : r.members id with
    | none => rw [Roster.members_eq_none_of_unleased_eq hsame hm]
    | some m =>
        obtain ⟨lease, hm'⟩ := Roster.member_of_unleased_eq hsame hm
        rw [hm']
        rfl
  · intro id step now
    rw [Bool.eq_iff_iff, h.accepts_iff, h'.accepts_iff]
    exact Roster.exists_member_congr hsame fun _ _ hm => hm
  · intro runId
    show s.manager.rankCounters runId = s'.manager.rankCounters runId
    rw [h.ranks, h'.ranks, Roster.nextRank_eq_of_unleased_eq hsame]

end Shows

/-! ## A replacement -/

/-- The operations that can occur. -/
def Roster.Admits (r : Roster) : WorkerOp → Prop
  | .register _ _ _ workerId => isWorkerId workerId = true ∧ r.members workerId = none
  | .workerFailure workerId => ∃ m, r.members workerId = some m ∧ m.status = .active
  | .heartbeat _ _ | .deregister _ | .restartGroup _ => True

theorem Roster.admits_congr {r r' : Roster} (h : r.unleased = r'.unleased) {op : WorkerOp}
    (hop : r.Admits op) : r'.Admits op := by
  cases op with
  | register _ _ _ _ => exact ⟨hop.1, members_eq_none_of_unleased_eq h hop.2⟩
  | workerFailure _ => exact (exists_member_congr h fun _ _ hm => hm).mp hop
  | heartbeat _ _ => trivial
  | deregister _ => trivial
  | restartGroup _ => trivial

namespace Rostered

variable {s s' : WorkerPlane} {r r' : Roster}

theorem admits (h : Rostered s r) {op : WorkerOp} {now : Nat}
    (hserve : s.serve (op, now) = some s') : r.Admits op := by
  cases op with
  | register _ _ _ _ =>
      obtain ⟨hfresh, _⟩ := Option.ite_none_right_eq_some.mp hserve
      exact h.shows.members_of_fresh hfresh
  | workerFailure workerId =>
      obtain ⟨lease, hlease, halive, _⟩ := WorkerPlane.serve_workerFailure_eq_some hserve
      rw [h.shows.leases] at hlease
      obtain ⟨m, hm, hlease⟩ := Option.bind_eq_some_iff.mp hlease
      refine ⟨m, hm, (h.sound.valid workerId m hm).alive_iff.mp ?_⟩
      rw [Member.alive, hlease, Option.any_some, halive]
  | heartbeat _ _ => trivial
  | deregister _ => trivial
  | restartGroup _ => trivial

theorem exists_serve (h : Rostered s r) {op : WorkerOp} (hop : r.Admits op) (now : Nat) :
    ∃ s', s.serve (op, now) = some s' := by
  cases op with
  | register runId hostname rank workerId =>
      refine ⟨_, if_pos ?_⟩
      rw [freshWorkerId, Bool.and_eq_true, decide_eq_true_eq]
      refine ⟨hop.1, ?_⟩
      intro hmem
      obtain ⟨worker, hworker, hid⟩ := List.mem_map.mp hmem
      obtain ⟨m, hm, _⟩ := h.shows.member_of_mem hworker
      rw [hid, hop.2] at hm
      cases hm
  | workerFailure workerId =>
      obtain ⟨m, hm, hactive⟩ := hop
      have halive := (h.sound.valid workerId m hm).alive_iff.mpr hactive
      obtain ⟨lease, hlease, halive⟩ := (Option.any_eq_true ..).mp halive
      have hfound : s.getLease workerId = some lease := (h.shows.getLease_member hm).trans hlease
      refine ⟨s.declareDead lease, ?_⟩
      unfold WorkerPlane.serve
      simp only [hfound, halive, if_true]
  | heartbeat _ _ => exact ⟨_, rfl⟩
  | deregister _ => exact ⟨_, rfl⟩
  | restartGroup _ => exact ⟨_, rfl⟩

theorem replaceManagers (h : Rostered s r) (now : Nat) :
    Rostered (s.replaceManagers now) (r.update fun _ => .rehydrated now) := by
  refine ⟨h.shows.rehydrate h.sound.ranked ?_ _ _, h.sound.rehydrated now⟩
  rfl

theorem manage (h : Rostered s r) {event : ManagerEvent × Nat}
    (hevent : s.manage event = some s') : ∃ r', Rostered s' r' := by
  obtain ⟨event, now⟩ := event
  cases event with
  | op op =>
      have hserve : s.serve (op, now) = some s' := hevent
      exact ⟨_, h.serve hserve⟩
  | replace =>
      obtain rfl := Option.some.inj hevent
      exact ⟨_, h.replaceManagers now⟩

end Rostered

/-- Two states whose workers differ in their leases only. -/
def WorkerPlane.Alike (s s' : WorkerPlane) : Prop :=
  ∃ r r', Rostered s r ∧ Rostered s' r' ∧ r.unleased = r'.unleased

/-- **One event.**  What one of two such states can do the other one can do too,
and they stay alike. -/
theorem WorkerPlane.Alike.manage {s s' t : WorkerPlane} (h : Alike s s')
    {event : ManagerEvent × Nat} (hevent : s.manage event = some t) :
    ∃ t', s'.manage event = some t' ∧ Alike t t' := by
  obtain ⟨r, r', hs, hs', hsame⟩ := h
  obtain ⟨event, now⟩ := event
  cases event with
  | op op =>
      have hserve : s.serve (op, now) = some t := hevent
      have hadmits := Roster.admits_congr hsame (hs.admits hserve)
      obtain ⟨t', hserve'⟩ := hs'.exists_serve hadmits now
      exact ⟨t', hserve', _, _, hs.serve hserve, hs'.serve hserve',
        Roster.unleased_serve_congr hsame op now⟩
  | replace =>
      obtain rfl := Option.some.inj hevent
      exact ⟨_, rfl, _, _, hs.replaceManagers now, hs'.replaceManagers now,
        Roster.unleased_rehydrated_congr hsame now⟩

namespace Rostered

variable {s s' : WorkerPlane} {r : Roster}

/-- **One replacement.**  It goes unnoticed exactly if every worker is listed
with the status of its record. -/
theorem replacementInvisible_iff (h : Rostered s r) :
    s.ReplacementInvisible ↔ r.Recorded := by
  constructor
  · intro hinvisible id m hm
    obtain ⟨t', ht', hanswers⟩ := hinvisible 0 [] s rfl
    obtain rfl := Option.some.inj ht'
    have hreplaced := (h.replaceManagers 0).shows
    have hm' : (r.update fun _ => .rehydrated 0).members id = some (m.rehydrated 0) := by
      rw [Roster.members_update, hm, Option.map_some]
    constructor
    · have hlisted : (id, m.record.status) ∈ (s.replaceManagers 0).standings m.record.runId :=
        hreplaced.mem_standings.mpr ⟨_, hm', rfl, rfl, rfl⟩
      rw [← (hanswers.standings m.record.runId).mem_iff, h.shows.mem_standings] at hlisted
      obtain ⟨found, hfound, _, hlisted, _⟩ := hlisted
      obtain rfl := Option.some.inj (hm.symm.trans hfound)
      exact hlisted
    · have hstatus := hanswers.status id
      rw [h.shows.getWorker_member hm, hreplaced.getWorker_member hm'] at hstatus
      exact Option.some.inj hstatus
  · intro hrecorded now events t ht
    have halike : Alike s (s.replaceManagers now) :=
      ⟨_, _, h, h.replaceManagers now, hrecorded.rehydrated now⟩
    obtain ⟨t', ht', hend⟩ := run_simulation WorkerPlane.manage (R := Alike)
      (fun _ _ _ _ halike hevent => halike.manage hevent) halike ht
    obtain ⟨q, q', hq, hq', hsame⟩ := hend
    exact ⟨t', ht', hq.shows.sameAnswers hq'.shows hsame⟩

end Rostered

/-! ## Which operations keep the records true -/

namespace Rostered

variable {s s' : WorkerPlane} {r : Roster}

/-- A change of each worker by itself keeps the workers listed with the status
of their records exactly if it does so for each. -/
theorem recorded_update_iff {f : String → Member → Member} :
    (r.update f).Recorded ↔ ∀ id m, r.members id = some m →
      (f id m).listed = true ∧ (f id m).status = (f id m).record.status := by
  constructor
  · intro h id m hm
    exact h id (f id m) (by rw [Roster.members_update, hm, Option.map_some])
  · intro h id m' hm'
    obtain ⟨m, hm, rfl⟩ := Option.map_eq_some_iff.mp hm'
    exact h id m hm

/-- The same for a change of one worker. -/
theorem recorded_edit_iff (hr : r.Recorded) {workerId : String} {f : Member → Member} :
    (r.edit workerId f).Recorded ↔ ∀ m, r.members workerId = some m →
      (f m).listed = true ∧ (f m).status = (f m).record.status := by
  rw [Roster.edit, recorded_update_iff]
  constructor
  · intro h m hm
    have hself := h workerId m hm
    rwa [if_pos rfl] at hself
  · intro h id m hm
    split
    · next hid => exact h m (hid ▸ hm)
    · exact hr id m hm

theorem recorded_add {workerId : String} (hr : r.Recorded) {m : Member}
    (hm : m.listed = true ∧ m.status = m.record.status) : (r.add workerId m).Recorded := by
  intro id found hfound
  have hcases : (if id = workerId then some m else r.members id) = some found := hfound
  split at hcases
  · obtain rfl := Option.some.inj hcases
    exact hm
  · exact hr id found hcases

/-- **One operation.** -/
theorem recorded_serve_iff (h : Rostered s r) (hr : r.Recorded) (op : WorkerOp) (now : Nat) :
    (r.serve op now).Recorded ↔ s.OpKeepsRecords op := by
  cases op with
  | register runId hostname rank workerId =>
      refine iff_of_true ?_ trivial
      cases rank with
      | none =>
          have hcounted : (r.setNextRank runId (r.nextRank runId + 1)).Recorded := hr
          exact recorded_add hcounted ⟨rfl, rfl⟩
      | some rank =>
          refine recorded_add (recorded_update_iff.mpr ?_) ⟨rfl, rfl⟩
          intro id m hm
          obtain ⟨hlisted, hstatus⟩ := hr id m hm
          unfold Member.superseded
          split
          · exact ⟨hlisted, rfl⟩
          · exact ⟨hlisted, hstatus⟩
  | heartbeat workerId step =>
      refine iff_of_true ((recorded_edit_iff hr).mpr ?_) trivial
      intro m hm
      obtain ⟨hlisted, hstatus⟩ := hr workerId m hm
      unfold Member.heard
      split
      · next hactive => exact ⟨hlisted, hactive⟩
      · exact ⟨hlisted, hstatus⟩
  | deregister workerId =>
      have hknown : s.OpKeepsRecords (.deregister workerId) ↔ r.members workerId = none := by
        show s.getWorker workerId = none ↔ _
        rw [h.shows.index, Option.map_eq_none_iff]
      refine (recorded_edit_iff hr).trans (Iff.trans ?_ hknown.symm)
      rw [Option.eq_none_iff_forall_ne_some]
      constructor
      · intro hall m hm
        exact Bool.noConfusion (hall m hm).1
      · exact fun hnone m hm => absurd hm (hnone m)
  | workerFailure workerId =>
      refine iff_of_true ((recorded_edit_iff hr).mpr ?_) trivial
      exact fun m hm => ⟨(hr workerId m hm).1, rfl⟩
  | restartGroup runId =>
      rw [Roster.serve, recorded_update_iff]
      constructor
      · intro hall worker hworker
        have hrow := ((WorkerCoordinator.mem_listWorkers ..).mp hworker).1
        obtain ⟨m, hm, rfl⟩ := h.shows.member_of_mem hrow
        have hin := (h.shows.mem_listWorkers hm).mp hworker
        have hstatus := (hall _ m hm).2
        rw [Member.restarted, if_pos hin] at hstatus
        dsimp only at hstatus
        split at hstatus
        · next hactive => exact Or.inr hactive
        · exact Or.inl hstatus.symm
      · intro hall id m hm
        obtain ⟨hlisted, hstatus⟩ := hr id m hm
        unfold Member.restarted
        split
        · next hin =>
          refine ⟨hlisted, ?_⟩
          rcases hall m.record ((h.shows.mem_listWorkers hm).mpr hin) with hdead | hactive
          · have hno : ¬ (m.record.status = .active ∧ m.record.runId = runId) := by
              intro hboth
              rw [hdead] at hboth
              cases hboth.1
            dsimp only
            rw [if_neg hno, hdead]
          · dsimp only
            rw [if_pos hactive]
        · exact ⟨hlisted, hstatus⟩

/-- **One event.**  From a state in which a replacement would go unnoticed, it
leads to such a state exactly if it keeps the records true. -/
theorem replacementInvisible_manage_iff (h : Rostered s r) (hs : s.ReplacementInvisible)
    {event : ManagerEvent × Nat} (hevent : s.manage event = some s') :
    s'.ReplacementInvisible ↔ s.KeepsRecords event := by
  have hr := h.replacementInvisible_iff.mp hs
  obtain ⟨event, now⟩ := event
  cases event with
  | op op =>
      have hserve : s.serve (op, now) = some s' := hevent
      rw [(h.serve hserve).replacementInvisible_iff, h.recorded_serve_iff hr]
      rfl
  | replace =>
      obtain rfl := Option.some.inj hevent
      refine iff_of_true ((h.replaceManagers now).replacementInvisible_iff.mpr ?_) trivial
      exact recorded_update_iff.mpr fun _ _ _ => ⟨rfl, rfl⟩

end Rostered

namespace WorkerPlane

theorem replacementInvisible_init (store : KVStore) (deadThreshold : Nat) :
    (init store deadThreshold).ReplacementInvisible := by
  rw [(rostered_init store deadThreshold).replacementInvisible_iff]
  intro id m hm
  cases hm

/-- **Worker-manager restarts are invisible, exactly.**  In a run of the worker
manager no replacement would be noticed at any point exactly when no worker
that is known deregisters, and no group restart lists a worker whose record is
neither dead nor an active one of its run. -/
theorem restarts_invisible_iff (store : KVStore) (deadThreshold : Nat)
    (events : List (ManagerEvent × Nat)) :
    Throughout manage ReplacementInvisible (init store deadThreshold) events ↔
      Guarded manage KeepsRecords (init store deadThreshold) events :=
  throughout_iff_guarded manage (I := fun s => ∃ r, Rostered s r)
    (fun _ _ _ ⟨_, hs⟩ hevent => hs.manage hevent)
    (fun _ _ _ ⟨_, hs⟩ hgood hevent => hs.replacementInvisible_manage_iff hgood hevent)
    ⟨_, rostered_init store deadThreshold⟩ (replacementInvisible_init store deadThreshold)

/-- The only worker of a run has left. -/
def departedState : WorkerPlane :=
  (run manage (.init .inMemoryKVStore 15)
    [(.op (.register "00000000000000a1" "host" none "0000000000b0"), 1),
      (.op (.deregister "0000000000b0"), 2)]).get (by decide +kernel)

/-- It comes back with fresh managers. -/
theorem departed_worker_comes_back :
    departedState.standings "00000000000000a1" = [] ∧
    (departedState.replaceManagers 3).standings "00000000000000a1" =
      [("0000000000b0", .deregistered)] ∧
    ¬ departedState.ReplacementInvisible := by
  have hbefore : departedState.standings "00000000000000a1" = [] := by decide +kernel
  have hafter : (departedState.replaceManagers 3).standings "00000000000000a1" =
      [("0000000000b0", .deregistered)] := by decide +kernel
  refine ⟨hbefore, hafter, ?_⟩
  intro hinvisible
  obtain ⟨t', ht', hanswers⟩ := hinvisible 3 [] departedState rfl
  obtain rfl := Option.some.inj ht'
  have hsame := (hanswers.standings "00000000000000a1").length_eq
  rw [hbefore, hafter] at hsame
  cases hsame

end WorkerPlane

end CheckpointRuntime
