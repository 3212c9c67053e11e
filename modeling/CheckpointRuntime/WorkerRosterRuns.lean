import CheckpointRuntime.WorkerRoster
import Mathlib.Order.Bounds.Basic

/-!
# The roster over a run

`shows_serve` says that the managers and the roster stay connected when both
serve an operation.  A scan of the leases is a sequence of failure callbacks
and group restarts, and a restart of the process rebuilds every worker from its
record.  What every step keeps of the roster is `Sound`.
-/

namespace CheckpointRuntime

open KeyedTable PartialRun WorkerPlane

namespace Shows

section
variable {s : WorkerPlane} {r : Roster}

/-- An operation that goes through a list of workers and changes each alike. -/
theorem foldl {α : Type} (op : WorkerPlane → α → WorkerPlane) (key : α → String)
    (f : Member → Member) (before : Roster) (l : List α)
    (hop : ∀ t q, ∀ a ∈ l, Shows t q → q.members (key a) = before.members (key a) →
      Shows (op t a) (q.edit (key a) f))
    (hl : (l.map key).Nodup) (h : Shows s r)
    (hsame : ∀ a ∈ l, r.members (key a) = before.members (key a)) :
    Shows (l.foldl op s) (r.update fun id m => if id ∈ l.map key then f m else m) := by
  induction l generalizing s r with
  | nil =>
      have hid : (r.update fun id m => if id ∈ ([] : List α).map key then f m else m) = r := by
        refine Roster.ext_members ?_ rfl
        intro id
        simp [Roster.update]
      rw [hid]
      exact h
  | cons a l ih =>
      obtain ⟨hnotMem, hl⟩ := List.nodup_cons.mp hl
      have hfirst := hop s r a List.mem_cons_self h (hsame a List.mem_cons_self)
      have hrest : ∀ b ∈ l, (r.edit (key a) f).members (key b) = before.members (key b) := by
        intro b hb
        have hne : key b ≠ key a := by
          intro heq
          exact hnotMem (heq ▸ List.mem_map_of_mem hb)
        rw [Roster.members_edit, if_neg hne]
        exact hsame b (List.mem_cons_of_mem _ hb)
      have hall := ih (fun t q b hb => hop t q b (List.mem_cons_of_mem _ hb)) hl hfirst hrest
      rw [Roster.edit, Roster.update_update] at hall
      rwa [Roster.update_congr] at hall
      intro id m _
      by_cases heq : id = key a
      · subst heq
        simp [hnotMem]
      · simp [heq]

/-- An operation that leaves out only workers that it would not change. -/
theorem foldl_all {α : Type} (op : WorkerPlane → α → WorkerPlane) (key : α → String)
    (f : Member → Member) (l : List α)
    (hop : ∀ t q, ∀ a ∈ l, Shows t q → q.members (key a) = r.members (key a) →
      Shows (op t a) (q.edit (key a) f))
    (hl : (l.map key).Nodup) (h : Shows s r)
    (hrest : ∀ id m, r.members id = some m → id ∉ l.map key → f m = m) :
    Shows (l.foldl op s) (r.update fun _ => f) := by
  have hall := h.foldl op key f r l hop hl (fun _ _ => rfl)
  rwa [Roster.update_congr] at hall
  intro id m hm
  split
  · rfl
  · next hnotMem => exact (hrest id m hm hnotMem).symm

theorem setRankCounter (h : Shows s r) (runId : String) (next : Int) :
    Shows (s.setRankCounter runId next) (r.setNextRank runId next) := by
  refine ⟨h.ids, h.index, h.records, h.recordIds, h.leases, h.leaseRuns, h.sets, h.nodup, ?_⟩
  show (fun id => if id = runId then next else s.manager.rankCounters id) = _
  rw [h.ranks]
  rfl

/-- A fresh id belongs to no worker. -/
theorem members_of_fresh (h : Shows s r) {workerId : String}
    (hfresh : s.freshWorkerId workerId = true) :
    isWorkerId workerId = true ∧ r.members workerId = none := by
  rw [freshWorkerId, Bool.and_eq_true, decide_eq_true_eq] at hfresh
  refine ⟨hfresh.1, ?_⟩
  cases hm : r.members workerId with
  | none => rfl
  | some m =>
      have hid := (h.ids workerId m hm).1
      exact absurd (List.mem_map.mpr ⟨m.record, h.mem_of_member hm, hid⟩) hfresh.2

/-- All registrations of a rank in a run are retired. -/
theorem supersedeAll (h : Shows s r) (runId : String) (rank : Int) :
    Shows ((s.manager.runWorkers runId).foldl (WorkerPlane.supersede runId rank) s)
      (r.update fun _ => .superseded runId rank) := by
  refine h.foldl_all (WorkerPlane.supersede runId rank) id (.superseded runId rank)
    (s.manager.runWorkers runId) ?_ ?_ ?_
  · intro t q workerId hmem ht hsame
    obtain ⟨m, hm, hlisted⟩ := (h.sets runId workerId).mp hmem
    have hmem' := (ht.sets runId workerId).mpr ⟨m, hsame.trans hm, hlisted⟩
    exact ht.supersede hmem' rank
  · rw [List.map_id]
    exact h.nodup runId
  · intro id m hm hnotMem
    refine if_neg fun hin => hnotMem ?_
    rw [List.map_id, h.sets]
    exact ⟨m, hm, hin.1, hin.2.1⟩

/-- The rows of the store have distinct worker ids. -/
theorem nodup_workerIds (h : Shows s r) :
    (s.coordinator.workers.rows.map (·.workerId)).Nodup := by
  have hrows : s.coordinator.workers.rows.Nodup := s.coordinator.workers.distinct.of_map _
  apply hrows.map_on
  intro a ha b hb hid
  obtain ⟨m, hm, rfl⟩ := h.member_of_mem ha
  obtain ⟨m', hm', rfl⟩ := h.member_of_mem hb
  rw [hid, hm'] at hm
  rw [Option.some.inj hm]

/-- A listing has the records of the workers whose keys it asks for. -/
theorem mem_listWorkers (h : Shows s r) {runId id : String} {m : Member}
    (hm : r.members id = some m) :
    m.record ∈ s.coordinator.listWorkers runId ↔ m.inListing runId = true := by
  rw [WorkerCoordinator.mem_listWorkers, Member.inListing, List.isPrefixOf_iff_prefix]
  exact and_iff_right (h.mem_of_member hm)

theorem restartGroup (h : Shows s r) (runId : String) :
    Shows (s.restartGroup runId) (r.update fun _ => .restarted runId) := by
  have hlisting : (s.coordinator.listWorkers runId).Sublist s.coordinator.workers.rows :=
    List.filter_sublist
  refine h.foldl_all (WorkerPlane.restartWorker runId) (·.workerId) (.restarted runId)
    (s.coordinator.listWorkers runId) ?_ (h.nodup_workerIds.sublist (hlisting.map _)) ?_
  · intro t q worker hmem ht hsame
    obtain ⟨m, hm, hrecord⟩ := h.member_of_mem (hlisting.subset hmem)
    have hin : m.inListing runId = true := (h.mem_listWorkers hm).mp (hrecord ▸ hmem)
    exact ht.restartWorker (hsame.trans hm) hrecord hin
  · intro id m hm hnotMem
    refine if_neg fun hin => hnotMem ?_
    exact List.mem_map.mpr ⟨m.record, (h.mem_listWorkers hm).mpr hin, (h.ids id m hm).1⟩

/-- **One operation.**  The managers and the roster stay connected. -/
theorem serve {s' : WorkerPlane} (h : Shows s r) {op : WorkerOp} {now : Nat}
    (hserve : s.serve (op, now) = some s') : Shows s' (r.serve op now) := by
  cases op with
  | register runId hostname rank workerId =>
      obtain ⟨hfresh, hsome⟩ := Option.ite_none_right_eq_some.mp hserve
      obtain rfl := Option.some.inj hsome
      obtain ⟨hid, hnew⟩ := h.members_of_fresh hfresh
      have hrank : s.manager.rankCounters runId = r.nextRank runId := by rw [h.ranks]
      cases rank with
      | none =>
          have hcounted := h.setRankCounter runId (r.nextRank runId + 1)
          have henrolled := hcounted.enroll hid hnew runId hostname (r.nextRank runId) now
          show Shows ((s.setRankCounter runId (s.manager.rankCounters runId + 1)).enroll runId
            (s.manager.rankCounters runId) hostname workerId now).1 _
          rw [hrank]
          exact henrolled
      | some rank =>
          have hcounted := h.setRankCounter runId (max (r.nextRank runId) (rank + 1))
          have hretired := hcounted.supersedeAll runId rank
          have hnew' : ((r.setNextRank runId (max (r.nextRank runId) (rank + 1))).update
              fun _ => .superseded runId rank).members workerId = none := by
            simp [Roster.update, Roster.setNextRank, hnew]
          have henrolled := hretired.enroll hid hnew' runId hostname rank now
          simp only [WorkerPlane.registerWorker, hrank]
          exact henrolled
  | heartbeat workerId step =>
      obtain rfl := Option.some.inj hserve
      exact h.heartbeat workerId step now
  | deregister workerId =>
      obtain rfl := Option.some.inj hserve
      exact h.deregisterWorker workerId
  | workerFailure workerId =>
      obtain ⟨lease, hlease, _, rfl⟩ := WorkerPlane.serve_workerFailure_eq_some hserve
      have hid : lease.workerId = workerId := s.heartbeats.leases.key_of_find hlease
      rw [← hid] at hlease ⊢
      exact h.declareDead hlease
  | restartGroup runId =>
      obtain rfl := Option.some.inj hserve
      exact h.restartGroup runId

end

end Shows

/-! ## Rehydration -/

namespace WorkerPlane

/-- One persisted worker is restored. -/
theorem getWorker_rehydrateWorker (s : WorkerPlane) (worker : WorkerInfo) (now : Nat)
    (id : String) : (rehydrateWorker now s worker).getWorker id =
      if id = worker.workerId then some worker else s.getWorker id := by
  unfold rehydrateWorker
  dsimp only
  split <;> exact s.getWorker_setWorker id worker

theorem getLease_rehydrateWorker (s : WorkerPlane) (worker : WorkerInfo) (now : Nat)
    (id : String) : (rehydrateWorker now s worker).getLease id =
      if worker.status = .active ∧ id = worker.workerId then
        some { workerId := worker.workerId, runId := worker.runId, lastHeartbeat := now }
      else s.getLease id := by
  unfold rehydrateWorker
  dsimp only
  by_cases hactive : worker.status = .active
  · simp only [hactive, if_true, true_and]
    exact getLease_setLease ..
  · simp only [hactive, if_false, false_and]
    rfl

theorem manager_rehydrateWorker (s : WorkerPlane) (worker : WorkerInfo) (now : Nat) :
    (rehydrateWorker now s worker).coordinator = s.coordinator ∧
      (rehydrateWorker now s worker).manager =
        (((s.setWorker worker).addToRun worker.runId worker.workerId).setRankCounter worker.runId
          (max (s.manager.rankCounters worker.runId) (worker.rank + 1))).manager := by
  unfold rehydrateWorker
  dsimp only
  split <;> exact ⟨rfl, rfl⟩

/-- Rehydrating only reads the store. -/
theorem coordinator_rehydrate (coordinator : WorkerCoordinator) (deadThreshold now : Nat) :
    (rehydrate coordinator deadThreshold now).coordinator = coordinator := by
  unfold rehydrate
  suffices h : ∀ (l : List WorkerInfo) (s : WorkerPlane),
      (l.foldl (rehydrateWorker now) s).coordinator = s.coordinator from h _ _
  intro l
  induction l with
  | nil => exact fun _ => rfl
  | cons worker l ih => exact fun s => (ih _).trans (manager_rehydrateWorker s worker now).1

section
variable {s : WorkerPlane} {now : Nat}

/-- What a list of persisted workers, each with an id of its own, restores. -/
structure Restored (s : WorkerPlane) (now : Nat) (l : List WorkerInfo) (t : WorkerPlane) :
    Prop where
  coordinator : t.coordinator = s.coordinator
  known : ∀ worker ∈ l, t.getWorker worker.workerId = some worker
  unknown : ∀ id, id ∉ l.map (·.workerId) → t.getWorker id = s.getWorker id
  leased : ∀ worker ∈ l, worker.status = .active → t.getLease worker.workerId =
    some { workerId := worker.workerId, runId := worker.runId, lastHeartbeat := now }
  notLeased : ∀ id, (∀ worker ∈ l, worker.workerId = id → worker.status ≠ .active) →
    t.getLease id = s.getLease id
  sets : ∀ runId id, id ∈ t.manager.runWorkers runId ↔
    (∃ worker ∈ l, worker.workerId = id ∧ worker.runId = runId) ∨ id ∈ s.manager.runWorkers runId
  nodup : (∀ runId, (s.manager.runWorkers runId).Nodup) →
    ∀ runId, (t.manager.runWorkers runId).Nodup
  ranks : ∀ runId, IsGreatest
    {n | n = s.manager.rankCounters runId ∨
      ∃ worker ∈ l, worker.runId = runId ∧ n = worker.rank + 1} (t.manager.rankCounters runId)

theorem runWorkers_rehydrateWorker (s : WorkerPlane) (worker : WorkerInfo) (now : Nat)
    (runId : String) : (rehydrateWorker now s worker).manager.runWorkers runId =
      if runId = worker.runId then (s.manager.runWorkers runId).insert worker.workerId
      else s.manager.runWorkers runId := by
  rw [(manager_rehydrateWorker s worker now).2]
  rfl

theorem rankCounters_rehydrateWorker (s : WorkerPlane) (worker : WorkerInfo) (now : Nat)
    (runId : String) : (rehydrateWorker now s worker).manager.rankCounters runId =
      if runId = worker.runId then max (s.manager.rankCounters runId) (worker.rank + 1)
      else s.manager.rankCounters runId := by
  rw [(manager_rehydrateWorker s worker now).2]
  show (if runId = worker.runId then _ else _) = _
  split
  · next h => rw [h]
  · rfl

theorem Restored.nil : Restored s now [] s := by
  constructor
  · rfl
  · simp
  · intro id _
    rfl
  · simp
  · intro id _
    rfl
  · simp
  · exact id
  · intro runId
    constructor
    · exact Or.inl rfl
    · intro n hn
      rcases hn with rfl | ⟨worker, hworker, _⟩
      · exact le_refl _
      · cases hworker

theorem Restored.cons {worker : WorkerInfo} {l : List WorkerInfo} {t : WorkerPlane}
    (hnotMem : worker.workerId ∉ l.map (·.workerId))
    (h : Restored (rehydrateWorker now s worker) now l t) : Restored s now (worker :: l) t := by
  constructor
  · exact h.coordinator.trans (manager_rehydrateWorker s worker now).1
  · intro w hw
    rcases List.mem_cons.mp hw with rfl | hw
    · rw [h.unknown _ hnotMem, getWorker_rehydrateWorker, if_pos rfl]
    · exact h.known w hw
  · intro id hid
    rw [List.map_cons, List.mem_cons, not_or] at hid
    rw [h.unknown id hid.2, getWorker_rehydrateWorker, if_neg hid.1]
  · intro w hw hactive
    rcases List.mem_cons.mp hw with rfl | hw
    · rw [h.notLeased, getLease_rehydrateWorker, if_pos ⟨hactive, rfl⟩]
      intro other hother hid
      exact absurd (hid ▸ List.mem_map_of_mem hother) hnotMem
    · exact h.leased w hw hactive
  · intro id hid
    rw [h.notLeased id fun w hw => hid w (List.mem_cons_of_mem _ hw), getLease_rehydrateWorker,
      if_neg]
    intro hboth
    exact hid worker List.mem_cons_self hboth.2.symm hboth.1
  · intro runId id
    rw [h.sets, runWorkers_rehydrateWorker]
    by_cases hrun : runId = worker.runId
    · rw [if_pos hrun, List.mem_insert_iff]
      simp only [List.mem_cons, exists_eq_or_imp, hrun, and_true, @eq_comm _ id worker.workerId]
      exact or_left_comm.trans or_assoc.symm
    · rw [if_neg hrun]
      have hrun' : worker.runId ≠ runId := fun heq => hrun heq.symm
      simp only [List.mem_cons, exists_eq_or_imp, hrun', and_false, false_or]
  · intro hs
    apply h.nodup
    intro runId
    rw [runWorkers_rehydrateWorker]
    split
    · exact (hs runId).insert
    · exact hs runId
  · intro runId
    obtain ⟨hmem, hbound⟩ := h.ranks runId
    have hcounter := rankCounters_rehydrateWorker s worker now runId
    have hmax : s.manager.rankCounters runId ≤
          (rehydrateWorker now s worker).manager.rankCounters runId ∧
        (worker.runId = runId →
          worker.rank + 1 ≤ (rehydrateWorker now s worker).manager.rankCounters runId) := by
      rw [hcounter]
      split
      · exact ⟨le_max_left _ _, fun _ => le_max_right _ _⟩
      · next hrun => exact ⟨le_refl _, fun heq => absurd heq.symm hrun⟩
    have htop := hbound (Or.inl rfl)
    constructor
    · rcases hmem with heq | ⟨w, hw, hrun, heq⟩
      · rw [heq, hcounter]
        split
        · next hrun =>
          rcases max_choice (s.manager.rankCounters runId) (worker.rank + 1) with hleft | hright
          · exact Or.inl hleft
          · exact Or.inr ⟨worker, List.mem_cons_self, hrun.symm, hright⟩
        · exact Or.inl rfl
      · exact Or.inr ⟨w, List.mem_cons_of_mem _ hw, hrun, heq⟩
    · intro n hn
      rcases hn with rfl | ⟨w, hw, hrun, rfl⟩
      · exact hmax.1.trans htop
      · rcases List.mem_cons.mp hw with rfl | hw
        · exact (hmax.2 hrun).trans htop
        · exact hbound (Or.inr ⟨w, hw, hrun, rfl⟩)

theorem restored_foldl {l : List WorkerInfo} (hl : (l.map (·.workerId)).Nodup) :
    Restored s now l (l.foldl (rehydrateWorker now) s) := by
  induction l generalizing s with
  | nil => exact .nil
  | cons worker l ih =>
      obtain ⟨hnotMem, hl⟩ := List.nodup_cons.mp hl
      exact (ih hl).cons hnotMem

end

end WorkerPlane

/-! ## What every step keeps -/

namespace Member

/-- The index and the lease agree on whether the worker is alive; an active or
fenced worker is recorded as such, and an active one is in the set of its
run. -/
structure Valid (m : Member) : Prop where
  alive_iff : m.alive = true ↔ m.status = .active
  active_record : m.status = .active → m.record.status = .active
  fenced_record : m.status.fenced = true → m.record.status = m.status
  active_listed : m.status = .active → m.listed = true

theorem valid_new (runId : String) (rank : Int) (hostname workerId : String) (now : Nat) :
    (new runId rank hostname workerId now).Valid := by
  constructor <;> simp [new, alive]

theorem Valid.superseded {m : Member} (hm : m.Valid) (runId : String) (rank : Int) :
    (m.superseded runId rank).Valid := by
  unfold Member.superseded
  split
  · constructor <;> simp [alive]
  · exact hm

theorem valid_deregistered (m : Member) : m.deregistered.Valid := by
  constructor <;> simp [deregistered, alive]

theorem Valid.heard {m : Member} (hm : m.Valid) (step : Int) (now : Nat) :
    (m.heard step now).Valid := by
  unfold Member.heard
  split
  · next hactive =>
    have halive := hm.alive_iff.mpr hactive
    constructor
    · refine iff_of_true ?_ hactive
      cases hlease : m.lease with
      | none => simp [alive, hlease] at halive
      | some lease => simp [alive, WorkerLease.touch]
    · simp
    · simp [hactive, WorkerStatus.fenced]
    · exact fun _ => hm.active_listed hactive
  · exact hm

theorem valid_died (m : Member) : m.died.Valid := by
  constructor
  · cases hlease : m.lease <;> simp [died, alive, hlease]
  · simp [died]
  · simp [died, WorkerStatus.fenced]
  · simp [died]

theorem Valid.restarted {m : Member} (hm : m.Valid) (runId : String) :
    (m.restarted runId).Valid := by
  unfold Member.restarted
  split
  · constructor <;> simp [alive, WorkerStatus.fenced]
  · exact hm

theorem valid_rehydrated (m : Member) (now : Nat) : (m.rehydrated now).Valid := by
  constructor
  · by_cases hactive : m.record.status = .active <;> simp [rehydrated, alive, hactive]
  · exact id
  · exact fun _ => rfl
  · exact fun _ => rfl

theorem sameOrigin_superseded (m : Member) (runId : String) (rank : Int) :
    m.SameOrigin (m.superseded runId rank) := by
  unfold superseded
  split <;> exact ⟨rfl, rfl, rfl⟩

theorem sameOrigin_heard (m : Member) (step : Int) (now : Nat) :
    m.SameOrigin (m.heard step now) := by
  unfold heard
  split <;> exact ⟨rfl, rfl, rfl⟩

theorem sameOrigin_restarted (m : Member) (runId : String) :
    m.SameOrigin (m.restarted runId) := by
  unfold restarted
  split
  · refine ⟨?_, ?_, ?_⟩ <;> dsimp only <;> split <;> rfl
  · exact ⟨rfl, rfl, rfl⟩

/-- A change of one worker alone. -/
theorem sameOrigin_edit {f : Member → Member} (hf : ∀ m, SameOrigin m (f m))
    (workerId id : String) (m : Member) : SameOrigin m (if id = workerId then f m else m) := by
  split
  · exact hf m
  · exact ⟨rfl, rfl, rfl⟩

theorem Valid.edit {f : Member → Member} (hf : ∀ m, m.Valid → (f m).Valid)
    (workerId id : String) {m : Member} (hm : m.Valid) :
    (if id = workerId then f m else m).Valid := by
  split
  · exact hf m hm
  · exact hm

end Member

namespace Roster

/-- The next automatic rank of a run is the least one that is not negative and
larger than every rank that a worker of the run was ever given. -/
def Ranked (r : Roster) : Prop :=
  ∀ runId, IsGreatest
    {n | n = 0 ∨ ∃ id m, r.members id = some m ∧ m.record.runId = runId ∧ n = m.record.rank + 1}
    (r.nextRank runId)

theorem Ranked.update {r : Roster} (hr : r.Ranked) {f : String → Member → Member}
    (hf : ∀ id m, Member.SameOrigin m (f id m)) : (r.update f).Ranked := by
  intro runId
  have hset : {n | n = 0 ∨ ∃ id m, (r.update f).members id = some m ∧
        m.record.runId = runId ∧ n = m.record.rank + 1} =
      {n | n = 0 ∨ ∃ id m, r.members id = some m ∧ m.record.runId = runId ∧
        n = m.record.rank + 1} := by
    ext n
    apply or_congr_right
    constructor
    · intro h
      obtain ⟨id, m', hm', hrun, hn⟩ := h
      obtain ⟨m, hm, rfl⟩ := Option.map_eq_some_iff.mp hm'
      obtain ⟨_, hrunId, hrank⟩ := hf id m
      exact ⟨id, m, hm, hrunId.symm.trans hrun, by rw [hn, hrank]⟩
    · intro h
      obtain ⟨id, m, hm, hrun, hn⟩ := h
      obtain ⟨_, hrunId, hrank⟩ := hf id m
      have hupdated : (r.update f).members id = some (f id m) := by
        rw [members_update, hm, Option.map_some]
      exact ⟨id, f id m, hupdated, hrunId.trans hrun, by rw [hn, hrank]⟩
  rw [hset]
  exact hr runId

theorem Ranked.add {r : Roster} (hr : r.Ranked) {workerId : String}
    (hnew : r.members workerId = none) {m : Member} {runId : String}
    (hrun : m.record.runId = runId) :
    ((r.setNextRank runId (max (r.nextRank runId) (m.record.rank + 1))).add workerId m).Ranked := by
  intro runId'
  obtain ⟨hmem, hbound⟩ := hr runId'
  have hmembers : ∀ id, ((r.setNextRank runId (max (r.nextRank runId)
      (m.record.rank + 1))).add workerId m).members id =
        if id = workerId then some m else r.members id := fun _ => rfl
  have hnext : ((r.setNextRank runId (max (r.nextRank runId)
      (m.record.rank + 1))).add workerId m).nextRank runId' =
        if runId' = runId then max (r.nextRank runId) (m.record.rank + 1)
        else r.nextRank runId' := rfl
  -- the old workers are still there
  have hkept : ∀ n, (n = 0 ∨ ∃ id m, r.members id = some m ∧ m.record.runId = runId' ∧
      n = m.record.rank + 1) → n = 0 ∨ ∃ id found,
        (if id = workerId then some m else r.members id) = some found ∧
          found.record.runId = runId' ∧ n = found.record.rank + 1 := by
    intro n hn
    apply hn.imp id
    intro hold
    obtain ⟨id, old, hold, hrest⟩ := hold
    refine ⟨id, old, ?_, hrest⟩
    rw [if_neg, hold]
    intro hid
    rw [hid, hnew] at hold
    cases hold
  simp only [hmembers, hnext]
  constructor
  · split
    · next hsame =>
      rcases max_choice (r.nextRank runId) (m.record.rank + 1) with hleft | hright
      · rw [hleft, ← hsame]
        exact hkept _ hmem
      · rw [hright]
        exact Or.inr ⟨workerId, m, if_pos rfl, hrun.trans hsame.symm, rfl⟩
    · exact hkept _ hmem
  · intro n hn
    have hgrows : r.nextRank runId' ≤
        if runId' = runId then max (r.nextRank runId) (m.record.rank + 1)
        else r.nextRank runId' := by
      split
      · next hsame =>
        rw [hsame]
        exact le_max_left _ _
      · exact le_refl _
    rcases hn with hzero | ⟨id, found, hfound, hrun', hn⟩
    · exact (hbound (Or.inl hzero)).trans hgrows
    · split at hfound
      · obtain rfl := Option.some.inj hfound
        rw [if_pos (hrun'.symm.trans hrun), hn]
        exact le_max_right _ _
      · exact (hbound (Or.inr ⟨id, found, hfound, hrun', hn⟩)).trans hgrows

/-- What an operation does to the workers: each one keeps its origin and stays
valid, and a registration adds one more. -/
theorem serve_origins (r : Roster) (op : WorkerOp) (now : Nat) :
    ∃ f, (∀ id m, Member.SameOrigin m (f id m)) ∧ (∀ id m, m.Valid → (f id m).Valid) ∧
      (r.serve op now = r.update f ∨
        ∃ runId hostname rank workerId m, op = .register runId hostname rank workerId ∧
          m.Valid ∧ m.record.runId = runId ∧ r.serve op now =
            ((r.update f).setNextRank runId
              (max (r.nextRank runId) (m.record.rank + 1))).add workerId m) := by
  cases op with
  | register runId hostname rank workerId =>
      cases rank with
      | none =>
          have hnext : r.nextRank runId + 1 = max (r.nextRank runId) (r.nextRank runId + 1) :=
            (max_eq_right (by omega)).symm
          refine ⟨fun _ m => m, fun _ _ => ⟨rfl, rfl, rfl⟩, fun _ _ hm => hm,
            Or.inr ⟨runId, hostname, none, workerId,
              .new runId (r.nextRank runId) hostname workerId now, rfl, Member.valid_new ..,
              rfl, ?_⟩⟩
          have hsame : r.update (fun _ m => m) = r :=
            ext_members (fun id => by rw [members_update, Option.map_id']) rfl
          unfold Roster.serve
          dsimp only
          rw [hsame, hnext]
          rfl
      | some rank =>
          exact ⟨fun _ => .superseded runId rank, fun _ m => m.sameOrigin_superseded runId rank,
            fun _ _ hm => hm.superseded runId rank, Or.inr ⟨runId, hostname, some rank, workerId,
              .new runId rank hostname workerId now, rfl, Member.valid_new .., rfl, rfl⟩⟩
  | heartbeat workerId step =>
      exact ⟨_, Member.sameOrigin_edit (fun m => m.sameOrigin_heard step now) workerId,
        fun id _ => Member.Valid.edit (fun _ hm => hm.heard step now) workerId id, Or.inl rfl⟩
  | deregister workerId =>
      exact ⟨_, Member.sameOrigin_edit (f := Member.deregistered) (fun _ => ⟨rfl, rfl, rfl⟩)
          workerId,
        fun id _ => Member.Valid.edit (fun m _ => m.valid_deregistered) workerId id, Or.inl rfl⟩
  | workerFailure workerId =>
      exact ⟨_, Member.sameOrigin_edit (f := Member.died) (fun _ => ⟨rfl, rfl, rfl⟩)
          workerId,
        fun id _ => Member.Valid.edit (fun m _ => m.valid_died) workerId id, Or.inl rfl⟩
  | restartGroup runId =>
      exact ⟨_, fun _ m => m.sameOrigin_restarted runId, fun _ _ hm => hm.restarted runId,
        Or.inl rfl⟩

theorem Ranked.serve {r : Roster} (hr : r.Ranked) {op : WorkerOp}
    (hnew : ∀ runId hostname rank workerId, op = .register runId hostname rank workerId →
      r.members workerId = none) (now : Nat) : (r.serve op now).Ranked := by
  obtain ⟨f, hf, -, hserved | ⟨runId, hostname, rank, workerId, m, hop, -, hrun, hserved⟩⟩ :=
    r.serve_origins op now
  · exact hserved ▸ hr.update hf
  · have hfresh : (r.update f).members workerId = none := by
      rw [members_update, hnew runId hostname rank workerId hop, Option.map_none]
    rw [hserved]
    exact (hr.update hf).add hfresh hrun

/-- What every step keeps of the roster. -/
structure Sound (r : Roster) : Prop where
  valid : ∀ id m, r.members id = some m → m.Valid
  ranked : r.Ranked

theorem Sound.update {r : Roster} (hr : r.Sound) {f : String → Member → Member}
    (hf : ∀ id m, Member.SameOrigin m (f id m))
    (hvalid : ∀ id m, r.members id = some m → (f id m).Valid) : (r.update f).Sound := by
  refine ⟨?_, hr.ranked.update hf⟩
  intro id m' hm'
  obtain ⟨m, hm, rfl⟩ := Option.map_eq_some_iff.mp hm'
  exact hvalid id m hm

theorem Sound.add {r : Roster} (hr : r.Sound) {workerId : String}
    (hnew : r.members workerId = none) {m : Member} {runId : String} (hrun : m.record.runId = runId)
    (hm : m.Valid) :
    ((r.setNextRank runId (max (r.nextRank runId) (m.record.rank + 1))).add workerId m).Sound := by
  refine ⟨?_, hr.ranked.add hnew hrun⟩
  intro id found hfound
  have hcases : (if id = workerId then some m else r.members id) = some found := hfound
  split at hcases
  · exact Option.some.inj hcases ▸ hm
  · exact hr.valid id found hcases

theorem Sound.serve {r : Roster} (hr : r.Sound) {op : WorkerOp}
    (hnew : ∀ runId hostname rank workerId, op = .register runId hostname rank workerId →
      r.members workerId = none) (now : Nat) : (r.serve op now).Sound := by
  obtain ⟨f, hf, hkeeps, hserved | ⟨runId, hostname, rank, workerId, m, hop, hm, hrun, hserved⟩⟩ :=
    r.serve_origins op now
  · rw [hserved]
    exact hr.update hf fun id m hm => hkeeps id m (hr.valid id m hm)
  · have hfresh : (r.update f).members workerId = none := by
      rw [members_update, hnew runId hostname rank workerId hop, Option.map_none]
    rw [hserved]
    exact (hr.update hf fun id m hm => hkeeps id m (hr.valid id m hm)).add hfresh hrun hm

theorem Sound.rehydrated {r : Roster} (hr : r.Sound) (now : Nat) :
    (r.update fun _ => .rehydrated now).Sound :=
  hr.update (fun _ _ => ⟨rfl, rfl, rfl⟩) fun _ m _ => m.valid_rehydrated now

/-- The roster without workers. -/
def empty : Roster where
  members := fun _ => none
  nextRank := fun _ => 0

theorem sound_empty : empty.Sound := by
  constructor
  · intro id m hm
    cases hm
  · intro runId
    refine ⟨Or.inl rfl, ?_⟩
    intro n hn
    rcases hn with rfl | ⟨id, m, hm, _⟩
    · exact le_refl _
    · cases hm

end Roster

section
variable {s t : WorkerPlane} {r : Roster} {coordinator : WorkerCoordinator} {deadThreshold now : Nat}

/-- A worker that is not in the roster has no record. -/
theorem Shows.ne_of_none (h : Shows s r) {id : String} (hm : r.members id = none) :
    ∀ worker ∈ s.coordinator.workers.rows, worker.workerId ≠ id := by
  intro worker hworker hid
  obtain ⟨m, hfound, _⟩ := h.member_of_mem hworker
  rw [hid, hm] at hfound
  cases hfound

/-- The index has every worker as its record. -/
theorem Shows.index_restored (h : Shows s r)
    (ht : Restored (blank coordinator deadThreshold) now s.coordinator.workers.rows t)
    (id : String) : t.getWorker id = ((r.members id).map (·.rehydrated now)).map (·.indexed) := by
  cases hm : r.members id with
  | none =>
      apply ht.unknown id
      intro hmem
      obtain ⟨worker, hworker, hid⟩ := List.mem_map.mp hmem
      exact h.ne_of_none hm worker hworker hid
  | some m =>
      have hknown := ht.known m.record (h.mem_of_member hm)
      rw [(h.ids id m hm).1] at hknown
      exact hknown

/-- The workers with an active record have a lease. -/
theorem Shows.leases_restored (h : Shows s r)
    (ht : Restored (blank coordinator deadThreshold) now s.coordinator.workers.rows t)
    (id : String) : t.getLease id = ((r.members id).map (·.rehydrated now)).bind (·.lease) := by
  cases hm : r.members id with
  | none =>
      exact ht.notLeased id fun worker hworker hid => absurd hid (h.ne_of_none hm worker hworker)
  | some m =>
      have hid := (h.ids id m hm).1
      by_cases hactive : m.record.status = .active
      · have hleased := ht.leased m.record (h.mem_of_member hm) hactive
        rw [hid] at hleased
        simp [Member.rehydrated, hactive, hleased, hid]
      · have hnot : t.getLease id = none := by
          apply ht.notLeased id
          intro worker hworker hid'
          obtain ⟨found, hfound, hrecord⟩ := h.member_of_mem hworker
          rw [hid', hm] at hfound
          obtain rfl := Option.some.inj hfound
          exact hrecord ▸ hactive
        simp [Member.rehydrated, hactive, hnot]

/-- The set of a run has all its workers. -/
theorem Shows.sets_restored (h : Shows s r)
    (ht : Restored (blank coordinator deadThreshold) now s.coordinator.workers.rows t)
    (runId id : String) : id ∈ t.manager.runWorkers runId ↔
      ∃ m, (r.members id).map (·.rehydrated now) = some m ∧ m.record.runId = runId ∧
        m.listed = true := by
  rw [ht.sets]
  constructor
  · intro hin
    rcases hin with ⟨worker, hworker, rfl, hrun⟩ | hold
    · obtain ⟨m, hm, rfl⟩ := h.member_of_mem hworker
      exact ⟨m.rehydrated now, by rw [hm, Option.map_some], hrun, rfl⟩
    · cases hold
  · intro hin
    obtain ⟨m', hm', hrun, _⟩ := hin
    obtain ⟨m, hm, rfl⟩ := Option.map_eq_some_iff.mp hm'
    exact Or.inl ⟨m.record, h.mem_of_member hm, (h.ids id m hm).1, hrun⟩

/-- The next rank of a run is one above the ranks of its records. -/
theorem Shows.ranks_restored (h : Shows s r) (hr : r.Ranked)
    (ht : Restored (blank coordinator deadThreshold) now s.coordinator.workers.rows t) :
    t.manager.rankCounters = r.nextRank := by
  funext runId
  have hset : {n | n = (blank coordinator deadThreshold).manager.rankCounters runId ∨
        ∃ worker ∈ s.coordinator.workers.rows, worker.runId = runId ∧ n = worker.rank + 1} =
      {n | n = 0 ∨ ∃ id m, r.members id = some m ∧ m.record.runId = runId ∧
        n = m.record.rank + 1} := by
    ext n
    apply or_congr_right
    constructor
    · intro hin
      obtain ⟨worker, hworker, hrun, hn⟩ := hin
      obtain ⟨m, hm, rfl⟩ := h.member_of_mem hworker
      exact ⟨_, m, hm, hrun, hn⟩
    · intro hin
      obtain ⟨id, m, hm, hrun, hn⟩ := hin
      exact ⟨m.record, h.mem_of_member hm, hrun, hn⟩
  have hrank := ht.ranks runId
  rw [hset] at hrank
  exact hrank.unique (hr runId)

end

/-- Fresh managers show every worker as its record has it. -/
theorem Shows.rehydrate {s : WorkerPlane} {r : Roster} (h : Shows s r) (hr : r.Ranked)
    {coordinator : WorkerCoordinator} (hworkers : coordinator.workers = s.coordinator.workers)
    (deadThreshold now : Nat) :
    Shows (rehydrate coordinator deadThreshold now) (r.update fun _ => .rehydrated now) := by
  have hrestored : Restored (blank coordinator deadThreshold) now s.coordinator.workers.rows
      (WorkerPlane.rehydrate coordinator deadThreshold now) := by
    rw [WorkerPlane.rehydrate, WorkerCoordinator.listWorkers_all, hworkers]
    exact restored_foldl h.nodup_workerIds
  constructor
  · intro id m' hm'
    obtain ⟨m, hm, rfl⟩ := Option.map_eq_some_iff.mp hm'
    exact h.ids id m hm
  · exact h.index_restored hrestored
  · intro runId id hslash
    rw [hrestored.coordinator, Roster.members_update]
    refine Eq.trans ?_ ((h.records runId id hslash).trans ?_)
    · show coordinator.workers.find _ = s.coordinator.workers.find _
      rw [hworkers]
    · cases r.members id <;> rfl
  · rw [hrestored.coordinator]
    exact hworkers ▸ h.recordIds
  · exact h.leases_restored hrestored
  · intro id m' lease hm' hlease
    obtain ⟨m, hm, rfl⟩ := Option.map_eq_some_iff.mp hm'
    obtain ⟨_, hlease⟩ := Option.ite_none_right_eq_some.mp hlease
    obtain rfl := Option.some.inj hlease
    rfl
  · exact h.sets_restored hrestored
  · exact hrestored.nodup fun _ => List.nodup_nil
  · exact h.ranks_restored hr hrestored

/-- The managers show a sound roster. -/
structure Rostered (s : WorkerPlane) (r : Roster) : Prop where
  shows : Shows s r
  sound : r.Sound

theorem shows_init (store : KVStore) (deadThreshold : Nat) :
    Shows (WorkerPlane.init store deadThreshold) .empty := by
  constructor
  · intro id m hm
    cases hm
  · intro id
    rfl
  · intro runId id _
    rfl
  · intro worker hworker
    cases hworker
  · intro id
    rfl
  · intro id m _ hm
    cases hm
  · intro runId id
    simp [WorkerPlane.init, blank, Roster.empty]
  · intro runId
    exact List.nodup_nil
  · rfl

theorem rostered_init (store : KVStore) (deadThreshold : Nat) :
    Rostered (WorkerPlane.init store deadThreshold) .empty :=
  ⟨shows_init store deadThreshold, Roster.sound_empty⟩

theorem Rostered.serve {s s' : WorkerPlane} {r : Roster} (h : Rostered s r) {op : WorkerOp}
    {now : Nat} (hserve : s.serve (op, now) = some s') : Rostered s' (r.serve op now) := by
  refine ⟨h.shows.serve hserve, h.sound.serve ?_ now⟩
  intro runId hostname rank workerId hop
  subst hop
  obtain ⟨hfresh, _⟩ := Option.ite_none_right_eq_some.mp hserve
  exact (h.shows.members_of_fresh hfresh).2

/-- A change to runs and checkpoints shows the same roster. -/
theorem Shows.other {s s' : WorkerPlane} {r : Roster} (h : Shows s r)
    (hworkers : s'.coordinator.workers = s.coordinator.workers)
    (hheartbeats : s'.heartbeats = s.heartbeats) (hmanager : s'.manager = s.manager) :
    Shows s' r := by
  obtain ⟨coordinator, heartbeats, manager⟩ := s'
  obtain rfl : heartbeats = s.heartbeats := hheartbeats
  obtain rfl : manager = s.manager := hmanager
  refine ⟨h.ids, h.index, ?_, ?_, h.leases, h.leaseRuns, h.sets, h.nodup, h.ranks⟩
  · intro runId id hslash
    rw [← h.records runId id hslash]
    show coordinator.workers.find _ = s.coordinator.workers.find _
    rw [hworkers]
  · exact hworkers ▸ h.recordIds

theorem Rostered.other {s s' : WorkerPlane} {r : Roster} (h : Rostered s r)
    (hworkers : s'.coordinator.workers = s.coordinator.workers)
    (hheartbeats : s'.heartbeats = s.heartbeats) (hmanager : s'.manager = s.manager) :
    Rostered s' r :=
  ⟨h.shows.other hworkers hheartbeats hmanager, h.sound⟩

/-! ## Scans and restarts -/

namespace WorkerPlane

/-- What a scan does about one lease. -/
def checkOps (s : WorkerPlane) (clock : String → Nat) (restarts : String → Bool)
    (workerId : String) : List WorkerOp :=
  match s.getLease workerId with
  | none => []
  | some lease =>
      if lease.isAlive ∧ lease.lastHeartbeat + s.heartbeats.deadThreshold < clock workerId then
        if restarts workerId then [.workerFailure workerId, .restartGroup lease.runId]
        else [.workerFailure workerId]
      else
        []

/-- What a scan does about the leases of a list. -/
def scanOps (clock : String → Nat) (restarts : String → Bool) :
    WorkerPlane → List String → List WorkerOp
  | _, [] => []
  | s, id :: ids =>
      s.checkOps clock restarts id ++ scanOps clock restarts (checkWorker clock restarts s id) ids

theorem run_checkOps (s : WorkerPlane) (clock : String → Nat) (restarts : String → Bool)
    (workerId : String) (now : Nat) :
    run WorkerPlane.serve s ((s.checkOps clock restarts workerId).map fun op => (op, now)) =
      some (checkWorker clock restarts s workerId) := by
  unfold checkOps checkWorker
  cases hlease : s.getLease workerId with
  | none => rfl
  | some lease =>
      dsimp only
      split
      · next hexpired =>
        have hfails : s.serve (.workerFailure workerId, now) = some (s.declareDead lease) := by
          simp only [serve, hlease, hexpired.1, if_true]
        split
        · rw [List.map_cons, run_cons, hfails, Option.bind_some]
          rfl
        · rw [List.map_cons, run_cons, hfails, Option.bind_some]
          rfl
      · rfl

/-- A scan is a run of failure callbacks and group restarts. -/
theorem run_scanOps (clock : String → Nat) (restarts : String → Bool) (now : Nat)
    (s : WorkerPlane) (ids : List String) :
    run WorkerPlane.serve s ((scanOps clock restarts s ids).map fun op => (op, now)) =
      some (ids.foldl (checkWorker clock restarts) s) := by
  induction ids generalizing s with
  | nil => rfl
  | cons id ids ih =>
      rw [scanOps, List.map_append, run_append, run_checkOps, Option.bind_some, ih]
      rfl

/-- The operations that an event consists of. -/
def opsOf (s : WorkerPlane) (event : WorkerEvent × Nat) : List (WorkerOp × Nat) :=
  match event.1 with
  | .op op => [(op, event.2)]
  | .checkWorkers clock restarts =>
      (scanOps clock restarts s (s.heartbeats.leases.rows.map (·.workerId))).map
        fun op => (op, event.2)
  | .restart | .other _ => []

/-- What a step is: a run of operations, a restart, or something that leaves the
workers alone. -/
inductive Stepped (s : WorkerPlane) (event : WorkerEvent × Nat) (s' : WorkerPlane) : Prop
  | ops (h : run WorkerPlane.serve s (s.opsOf event) = some s')
  | restart (coordinator : WorkerCoordinator) (hevent : event.1 = .restart)
      (hworkers : coordinator.workers = s.coordinator.workers)
      (h : s' = rehydrate coordinator s.heartbeats.deadThreshold event.2)
  | other (coordinator : Coordinator) (hevent : event.1 = .other coordinator)
      (hworkers : s'.coordinator.workers = s.coordinator.workers)
      (hheartbeats : s'.heartbeats = s.heartbeats) (hmanager : s'.manager = s.manager)

theorem step_cases {s s' : WorkerPlane} {event : WorkerEvent × Nat}
    (h : s.step event = some s') : Stepped s event s' := by
  obtain ⟨event, now⟩ := event
  cases event with
  | op op =>
      apply Stepped.ops
      show run WorkerPlane.serve s [(op, now)] = some s'
      rw [run_cons]
      have hserve : s.serve (op, now) = some s' := h
      rw [hserve]
      rfl
  | checkWorkers clock restarts =>
      apply Stepped.ops
      obtain rfl := Option.some.inj h
      exact run_scanOps ..
  | restart =>
      obtain rfl := Option.some.inj h
      refine .restart _ rfl ?_ rfl
      rfl
  | other coordinator =>
      obtain rfl := Option.some.inj h
      exact .other coordinator rfl rfl rfl rfl

end WorkerPlane

/-- What operations do to a roster, one after another. -/
theorem Rostered.run {s s' : WorkerPlane} {r : Roster} (h : Rostered s r)
    {ops : List (WorkerOp × Nat)} (hrun : run WorkerPlane.serve s ops = some s') :
    Rostered s' (ops.foldl (fun r op => r.serve op.1 op.2) r) := by
  induction ops generalizing s r with
  | nil =>
      obtain rfl := Option.some.inj hrun
      exact h
  | cons op ops ih =>
      obtain ⟨next, hnext, hrest⟩ := run_cons_some _ hrun
      exact ih (h.serve hnext) hrest

/-- **One step.**  Every step shows a sound roster again. -/
theorem Rostered.step {s s' : WorkerPlane} {r : Roster} (h : Rostered s r)
    {event : WorkerEvent × Nat} (hstep : s.step event = some s') : ∃ r', Rostered s' r' := by
  cases step_cases hstep with
  | ops hrun => exact ⟨_, h.run hrun⟩
  | restart coordinator _ hworkers hs' =>
      subst hs'
      exact ⟨_, h.shows.rehydrate h.sound.ranked hworkers _ _, h.sound.rehydrated event.2⟩
  | other _ _ hworkers hheartbeats hmanager => exact ⟨r, h.other hworkers hheartbeats hmanager⟩

/-- Every run of the control plane leaves its workers as a roster describes
them. -/
theorem exists_rostered {store : KVStore} {deadThreshold : Nat} {s : WorkerPlane}
    {events : List (WorkerEvent × Nat)}
    (h : run WorkerPlane.step (.init store deadThreshold) events = some s) :
    ∃ r, Rostered s r :=
  run_invariant WorkerPlane.step (I := fun s => ∃ r, Rostered s r)
    (fun _ _ _ ⟨_, ht⟩ hstep => ht.step hstep) ⟨_, rostered_init store deadThreshold⟩ h

end CheckpointRuntime
