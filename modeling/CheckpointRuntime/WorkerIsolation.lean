import CheckpointRuntime.WorkerFences
import CheckpointRuntime.WorkerRanks

/-!
# Runs and their workers

A listing asks for all keys under the id of its run.  The key of a worker
starts with the id of its own run, and nothing forbids a slash in there: a run
whose id continues another id after a slash appears in the listing of that
other run as well, is counted with it and restarted with it.  Without such ids
every listing has the workers of its run and no others.
-/

namespace CheckpointRuntime

open PartialRun WorkerPlane

/-! ## Keys -/

/-- The keys under a joined id are those of the id and of its continuations. -/
theorem append_slash_prefix_iff {a b c : List Char} (hc : '/' ∉ c) :
    a ++ ['/'] <+: b ++ '/' :: c ↔ b = a ∨ a ++ ['/'] <+: b := by
  constructor
  · intro h
    obtain ⟨rest, hrest⟩ := h
    rw [List.append_assoc] at hrest
    rcases List.append_eq_append_iff.mp hrest with ⟨mid, hb, hmid⟩ | ⟨mid, ha, hmid⟩
    · cases mid with
      | nil => exact Or.inl (by simpa using hb)
      | cons ch mid =>
          obtain ⟨rfl, _⟩ := List.cons.inj hmid
          exact Or.inr ⟨mid, by simp [hb]⟩
    · cases mid with
      | nil => exact Or.inl (by simpa using ha.symm)
      | cons ch mid =>
          obtain ⟨_, rfl⟩ := List.cons.inj hmid
          exact absurd (List.mem_append_right _ List.mem_cons_self) hc
  · intro h
    rcases h with rfl | hb
    · exact ⟨c, by simp⟩
    · exact hb.trans (List.prefix_append _ _)

/-- A listing finds the workers of its run, and those of every run whose id
continues it after a slash. -/
theorem listingPrefix_isPrefix_iff_continues {runId runId' id : String} (hne : runId ≠ "")
    (hid : '/' ∉ id.toList) :
    (listingPrefix runId).toList <+: (workerKey runId' id).toList ↔
      runId' = runId ∨ runId.toList ++ ['/'] <+: runId'.toList := by
  rw [listingPrefix_isPrefix_workerKey_iff hne, append_slash_prefix_iff hid, String.toList_inj]

/-- A slash after the first character makes an id the continuation of another. -/
theorem slash_mem_tail_iff {runId : String} :
    '/' ∈ runId.toList.tail ↔
      ∃ start : String, start ≠ "" ∧ start.toList ++ ['/'] <+: runId.toList := by
  constructor
  · intro h
    obtain ⟨first, rest, hchars⟩ : ∃ first rest, runId.toList = first :: rest := by
      cases hchars : runId.toList with
      | nil => simp [hchars] at h
      | cons first rest => exact ⟨first, rest, rfl⟩
    rw [hchars, List.tail_cons] at h
    obtain ⟨before, after, hsplit⟩ := List.append_of_mem h
    refine ⟨String.ofList (first :: before), ?_, after, ?_⟩
    · intro hempty
      have hnil := congrArg String.toList hempty
      simp at hnil
    · simp [hchars, hsplit]
  · intro h
    obtain ⟨start, hne, after, hrun⟩ := h
    cases hchars : start.toList with
    | nil => exact absurd (String.toList_inj.mp (by simp [hchars])) hne
    | cons first before =>
        rw [← hrun, hchars]
        simp

/-! ## What is asked about the workers of a run -/

namespace WorkerCoordinator

variable (c : WorkerCoordinator) (runId : String)

/-- The workers that were registered with the id. -/
def ownWorkers : List WorkerInfo :=
  c.workers.rows.filter fun worker => decide (worker.runId = runId)

/-- `_with_live_worker_count`. -/
def liveWorkerCount : Nat :=
  (c.listWorkers runId).countP fun worker => decide (worker.status = .active)

/-- The reconciliation loop asks for a restart of the group of a recovering run. -/
def lacksQuorum (numWorkers : Nat) : Bool :=
  !(c.listWorkers runId).isEmpty && decide (c.liveWorkerCount runId < numWorkers)

end WorkerCoordinator

/-- What is read and changed for a run is its own. -/
structure WorkerPlane.Isolated (s : WorkerPlane) (registered : List WorkerInfo)
    (runId : String) : Prop where
  /-- The listing has the workers that were registered with the id, each once. -/
  nodup : ((s.coordinator.listWorkers runId).map (·.workerId)).Nodup
  listed : ∀ id, id ∈ (s.coordinator.listWorkers runId).map (·.workerId) ↔
    ∃ worker ∈ registered, worker.runId = runId ∧ worker.workerId = id
  /-- The count and the quorum are those of its own workers. -/
  counted : s.coordinator.liveWorkerCount runId =
    (s.coordinator.ownWorkers runId).countP fun worker => decide (worker.status = .active)
  quorum : ∀ numWorkers, s.coordinator.lacksQuorum runId numWorkers =
    (!(s.coordinator.ownWorkers runId).isEmpty &&
      decide ((s.coordinator.ownWorkers runId).countP
        (fun worker => decide (worker.status = .active)) < numWorkers))
  /-- A group restart leaves the workers of other runs alone. -/
  restarted : ∀ id worker, s.getWorker id = some worker → worker.runId ≠ runId →
    (s.restartGroup runId).getWorker id = some worker ∧
    (s.restartGroup runId).getLease id = s.getLease id ∧
    (s.restartGroup runId).coordinator.getWorkerRecord worker.runId id =
      s.coordinator.getWorkerRecord worker.runId id

/-! ## Where workers come from -/

/-- The roster has a worker of a run. -/
def Roster.Has (r : Roster) (runId id : String) : Prop :=
  ∃ m, r.members id = some m ∧ m.record.runId = runId

namespace Roster.Has

variable {r : Roster} {runId id : String}

theorem of_update {f : String → Member → Member} (hf : ∀ id m, Member.SameOrigin m (f id m))
    (h : (r.update f).Has runId id) : r.Has runId id := by
  obtain ⟨m', hm', hrun⟩ := h
  obtain ⟨m, hm, rfl⟩ := Option.map_eq_some_iff.mp hm'
  exact ⟨m, hm, (hf id m).2.1.symm.trans hrun⟩

theorem of_edit {workerId : String} {f : Member → Member} (hf : ∀ m, Member.SameOrigin m (f m))
    (h : (r.edit workerId f).Has runId id) : r.Has runId id :=
  of_update (Member.sameOrigin_edit hf workerId) h

/-- A worker that is added is the only new one. -/
theorem of_add {workerId : String} {m : Member} (h : (r.add workerId m).Has runId id) :
    r.Has runId id ∨ id = workerId ∧ m.record.runId = runId := by
  obtain ⟨m', hm', hrun⟩ := h
  have hm' : (if id = workerId then some m else r.members id) = some m' := hm'
  split at hm'
  · next hid =>
    obtain rfl := Option.some.inj hm'
    exact Or.inr ⟨hid, hrun⟩
  · exact Or.inl ⟨m', hm', hrun⟩

/-- **One operation.**  Only a registration adds a worker. -/
theorem of_serve {op : WorkerOp} {now : Nat} (h : (r.serve op now).Has runId id) :
    r.Has runId id ∨ ∃ hostname rank, op = .register runId hostname rank id := by
  cases op with
  | register runId' hostname rank workerId =>
      cases rank with
      | none =>
          rcases of_add h with hold | ⟨rfl, hnew⟩
          · exact Or.inl hold
          · have hnew : runId' = runId := hnew
            exact Or.inr ⟨hostname, none, by rw [hnew]⟩
      | some rank =>
          rcases of_add h with hold | ⟨rfl, hnew⟩
          · exact Or.inl (of_update (fun _ m => m.sameOrigin_superseded runId' rank) hold)
          · have hnew : runId' = runId := hnew
            exact Or.inr ⟨hostname, some rank, by rw [hnew]⟩
  | heartbeat workerId step => exact Or.inl (of_edit (fun m => m.sameOrigin_heard step now) h)
  | deregister workerId =>
      exact Or.inl (of_edit (f := Member.deregistered) (fun _ => ⟨rfl, rfl, rfl⟩) h)
  | workerFailure workerId =>
      exact Or.inl (of_edit (f := Member.died) (fun _ => ⟨rfl, rfl, rfl⟩) h)
  | restartGroup other => exact Or.inl (of_update (fun _ m => m.sameOrigin_restarted other) h)

/-- Operations of a scan add no worker. -/
theorem of_scan {ops : List (WorkerOp × Nat)} (hops : ∀ op ∈ ops, op.1.OfScan)
    (h : (ops.foldl (fun r op => r.serve op.1 op.2) r).Has runId id) : r.Has runId id := by
  induction ops generalizing r with
  | nil => exact h
  | cons op ops ih =>
      have hrest := ih (fun op' hop' => hops op' (List.mem_cons_of_mem _ hop')) h
      rcases of_serve hrest with hold | ⟨hostname, rank, hregister⟩
      · exact hold
      · have hscan := hops op List.mem_cons_self
        rw [hregister] at hscan
        exact hscan.elim

end Roster.Has

/-- The managers show a roster that has workers of the given kind only. -/
def WorkerPlane.Comprises (s : WorkerPlane) (p : String → String → Prop) : Prop :=
  ∃ r, Rostered s r ∧ ∀ runId id, r.Has runId id → p runId id

namespace WorkerPlane

variable {s s' : WorkerPlane}

/-- **One step.**  The workers afterwards are those from before and the one that
the step registers. -/
theorem Comprises.step {p : String → String → Prop} (h : s.Comprises p)
    {event : WorkerEvent × Nat} (hstep : s.step event = some s') :
    s'.Comprises fun runId id => p runId id ∨
      ∃ worker ∈ (s.registeredBy event).toList, worker.runId = runId ∧ worker.workerId = id := by
  obtain ⟨r, hrostered, hr⟩ := h
  obtain ⟨event, now⟩ := event
  cases event with
  | op op =>
      refine ⟨_, hrostered.serve hstep, fun runId id hhas => ?_⟩
      rcases Roster.Has.of_serve hhas with hold | ⟨hostname, rank, rfl⟩
      · exact Or.inl (hr runId id hold)
      · refine Or.inr ⟨_, Option.mem_toList.mpr rfl, ?_⟩
        cases rank <;> exact ⟨rfl, rfl⟩
  | checkWorkers clock restarts =>
      cases step_cases hstep with
      | ops hrun =>
          refine ⟨_, hrostered.run hrun, fun runId id hhas => Or.inl (hr runId id ?_)⟩
          refine Roster.Has.of_scan (fun op hop => ?_) hhas
          obtain ⟨op', hop', rfl⟩ := List.mem_map.mp hop
          exact ofScan_scanOps _ _ _ _ op' hop'
      | restart _ hevent => cases hevent
      | other _ hevent => cases hevent
  | restart =>
      cases step_cases hstep with
      | ops hrun =>
          obtain rfl := Option.some.inj hrun
          exact ⟨r, hrostered, fun runId id hhas => Or.inl (hr runId id hhas)⟩
      | restart coordinator _ hworkers hs' =>
          subst hs'
          refine ⟨_, ⟨hrostered.shows.rehydrate hrostered.sound.ranked hworkers _ _,
            hrostered.sound.rehydrated now⟩, fun runId id hhas => Or.inl (hr runId id ?_)⟩
          exact Roster.Has.of_update (f := fun _ => .rehydrated now)
            (fun _ _ => ⟨rfl, rfl, rfl⟩) hhas
      | other _ hevent => cases hevent
  | other coordinator =>
      cases step_cases hstep with
      | ops hrun =>
          obtain rfl := Option.some.inj hrun
          exact ⟨r, hrostered, fun runId id hhas => Or.inl (hr runId id hhas)⟩
      | restart _ hevent => cases hevent
      | other _ _ hworkers hheartbeats hmanager =>
          exact ⟨r, hrostered.other hworkers hheartbeats hmanager,
            fun runId id hhas => Or.inl (hr runId id hhas)⟩

/-- **Every worker of a run was registered along it**, or was there before. -/
theorem Comprises.run {p : String → String → Prop} (h : s.Comprises p)
    {events : List (WorkerEvent × Nat)}
    (hrun : PartialRun.run WorkerPlane.step s events = some s') :
    s'.Comprises fun runId id => p runId id ∨
      ∃ worker ∈ registered s events, worker.runId = runId ∧ worker.workerId = id := by
  induction events generalizing s p with
  | nil =>
      obtain rfl := Option.some.inj hrun
      obtain ⟨r, hrostered, hr⟩ := h
      exact ⟨r, hrostered, fun runId id hhas => Or.inl (hr runId id hhas)⟩
  | cons event events ih =>
      obtain ⟨next, hnext, hrest⟩ := run_cons_some _ hrun
      obtain ⟨r, hrostered, hr⟩ := ih (h.step hnext) hrest
      refine ⟨r, hrostered, fun runId id hhas => ?_⟩
      rw [registered, hnext]
      rcases hr runId id hhas with (hold | ⟨worker, hworker, hids⟩) | ⟨worker, hworker, hids⟩
      · exact Or.inl hold
      · exact Or.inr ⟨worker, List.mem_append_left _ hworker, hids⟩
      · exact Or.inr ⟨worker, List.mem_append_right _ hworker, hids⟩

end WorkerPlane

/-! ## Isolation -/

section
variable {s : WorkerPlane} {r : Roster}

/-- Where no id continues another, a listing has the workers of its run. -/
theorem Rostered.listWorkers_eq (h : Rostered s r)
    (hplain : ∀ runId id, r.Has runId id → '/' ∉ runId.toList.tail) {runId : String}
    (hne : runId ≠ "") : s.coordinator.listWorkers runId = s.coordinator.ownWorkers runId := by
  apply List.filter_congr
  intro worker hworker
  obtain ⟨m, hm, hrecord⟩ := h.shows.member_of_mem hworker
  have hslash := hplain worker.runId worker.workerId ⟨m, hm, by rw [hrecord]⟩
  rw [Bool.eq_iff_iff, List.isPrefixOf_iff_prefix, decide_eq_true_eq,
    listingPrefix_isPrefix_iff_continues hne (h.shows.recordIds worker hworker)]
  apply or_iff_left
  intro hcontinues
  exact hslash (slash_mem_tail_iff.mpr ⟨runId, hne, hcontinues⟩)

/-- What was registered is still there. -/
theorem Rostered.has_of_knows (h : Rostered s r) {worker : WorkerInfo} (hknows : s.Knows worker) :
    r.Has worker.runId worker.workerId := by
  obtain ⟨r', hrostered, m, hm, hrun, _⟩ := hknows
  have hindex := hrostered.shows.getWorker_member hm
  rw [h.shows.index] at hindex
  obtain ⟨m', hm', heq⟩ := Option.map_eq_some_iff.mp hindex
  have hsame : m'.record.runId = m.record.runId := congrArg (·.runId) heq
  exact ⟨m', hm', hsame.trans hrun⟩

/-- A restart of the group of a run changes the workers in its listing only. -/
theorem Rostered.restartGroup_frame (h : Rostered s r) {runId id : String} {worker : WorkerInfo}
    (hworker : s.getWorker id = some worker)
    (hnot : id ∉ (s.coordinator.listWorkers runId).map (·.workerId)) :
    (s.restartGroup runId).getWorker id = some worker ∧
    (s.restartGroup runId).getLease id = s.getLease id ∧
    (s.restartGroup runId).coordinator.getWorkerRecord worker.runId id =
      s.coordinator.getWorkerRecord worker.runId id := by
  have hrestarted := h.shows.restartGroup runId
  have hfound := hworker
  rw [h.shows.index] at hfound
  obtain ⟨m, hm, rfl⟩ := Option.map_eq_some_iff.mp hfound
  obtain ⟨hid, hslash⟩ := h.shows.ids id m hm
  have hout : m.inListing runId ≠ true := by
    intro hin
    exact hnot (List.mem_map.mpr ⟨m.record, (h.shows.mem_listWorkers hm).mpr hin, hid⟩)
  have hsame : (r.update fun _ => .restarted runId).members id = some m := by
    rw [Roster.members_update, hm, Option.map_some, Member.restarted, if_neg hout]
  refine ⟨hrestarted.getWorker_member hsame, ?_, ?_⟩
  · rw [hrestarted.getLease_member hsame, h.shows.getLease_member hm]
  · rw [hrestarted.records _ _ hslash, h.shows.records _ _ hslash, hsame, hm]

end

namespace WorkerPlane

/-- **Isolation, exactly.**  After every run of the control plane each run id
has its own workers, exactly when no worker was registered with a run id that
has a slash after its first character. -/
theorem runs_isolated_iff {store : KVStore} {deadThreshold : Nat} {s : WorkerPlane}
    {events : List (WorkerEvent × Nat)}
    (h : run step (.init store deadThreshold) events = some s) :
    (∀ runId, runId ≠ "" → s.Isolated (registered (.init store deadThreshold) events) runId) ↔
      ∀ worker ∈ registered (.init store deadThreshold) events,
        '/' ∉ worker.runId.toList.tail := by
  have hinit : (init store deadThreshold).Comprises fun _ _ => False := by
    refine ⟨_, rostered_init store deadThreshold, fun runId id hhas => ?_⟩
    obtain ⟨m, hm, _⟩ := hhas
    cases hm
  obtain ⟨r, hrostered, hr⟩ := hinit.run h
  have hregistered : ∀ runId id, r.Has runId id ↔
      ∃ worker ∈ registered (.init store deadThreshold) events,
        worker.runId = runId ∧ worker.workerId = id := by
    intro runId id
    constructor
    · exact fun hhas => (hr runId id hhas).resolve_left not_false
    · intro h
      obtain ⟨worker, hworker, rfl, rfl⟩ := h
      exact hrostered.has_of_knows
        (Knows.of_registered (rostered_init store deadThreshold) hworker h)
  have hnodup : ∀ runId, ((s.coordinator.listWorkers runId).map (·.workerId)).Nodup := by
    intro runId
    exact hrostered.shows.nodup_workerIds.sublist (List.filter_sublist.map _)
  constructor
  · -- a continued id shows up in the listing of its beginning
    intro hall worker hworker hslash
    obtain ⟨start, hne, hcontinues⟩ := slash_mem_tail_iff.mp hslash
    obtain ⟨m, hm, hrun⟩ := (hregistered _ _).mpr ⟨worker, hworker, rfl, rfl⟩
    obtain ⟨hid, hidSlash⟩ := hrostered.shows.ids _ m hm
    have hin : m.record ∈ s.coordinator.listWorkers start := by
      rw [WorkerCoordinator.mem_listWorkers,
        listingPrefix_isPrefix_iff_continues hne (hid ▸ hidSlash), hrun]
      exact ⟨hrostered.shows.mem_of_member hm, Or.inr hcontinues⟩
    have hlisted := ((hall start hne).listed worker.workerId).mp
      (List.mem_map.mpr ⟨m.record, hin, hid⟩)
    obtain ⟨m', hm', hrun'⟩ := (hregistered _ _).mpr hlisted
    -- one worker would have been registered with both ids
    obtain rfl := Option.some.inj (hm.symm.trans hm')
    rw [← hrun, hrun'] at hcontinues
    have hlength := hcontinues.length_le
    simp at hlength
  · intro hplain runId hne
    have hids : ∀ runId id, r.Has runId id → '/' ∉ runId.toList.tail := by
      intro runId id hhas
      obtain ⟨worker, hworker, rfl, _⟩ := (hregistered runId id).mp hhas
      exact hplain worker hworker
    have hlisting := hrostered.listWorkers_eq hids hne
    have hlisted : ∀ id, id ∈ (s.coordinator.listWorkers runId).map (·.workerId) ↔
        r.Has runId id := by
      intro id
      rw [hlisting, List.mem_map]
      constructor
      · intro hin
        obtain ⟨worker, hworker, rfl⟩ := hin
        obtain ⟨hrow, hrun⟩ := List.mem_filter.mp hworker
        obtain ⟨m, hm, rfl⟩ := hrostered.shows.member_of_mem hrow
        exact ⟨m, hm, of_decide_eq_true hrun⟩
      · intro hhas
        obtain ⟨m, hm, hrun⟩ := hhas
        exact ⟨m.record, List.mem_filter.mpr ⟨hrostered.shows.mem_of_member hm,
          decide_eq_true hrun⟩, (hrostered.shows.ids id m hm).1⟩
    constructor
    · exact hnodup runId
    · intro id
      rw [hlisted, hregistered]
    · rw [WorkerCoordinator.liveWorkerCount, hlisting]
    · intro numWorkers
      rw [WorkerCoordinator.lacksQuorum, WorkerCoordinator.liveWorkerCount, hlisting]
    · intro id worker hworker hother
      refine hrostered.restartGroup_frame hworker fun hin => hother ?_
      obtain ⟨m, hm, hrun⟩ := (hlisted id).mp hin
      rw [hrostered.shows.getWorker_member hm] at hworker
      rw [← Option.some.inj hworker]
      exact hrun

/-- A worker of a run and a worker of another run whose id continues it. -/
def leakyEvents : List (WorkerEvent × Nat) :=
  [(.op (.register "llama" "host-0" (some 0) "0000000000b0"), 1),
    (.op (.register "llama/eval" "host-1" (some 0) "0000000000b1"), 2)]

def leakyState : WorkerPlane :=
  (run step (.init .inMemoryKVStore 15) leakyEvents).get (by decide +kernel)

/-- The listing of the first run has the worker of the second. -/
theorem run_listing_leaks :
    ¬ ∀ runId, runId ≠ "" →
      leakyState.Isolated (registered (.init .inMemoryKVStore 15) leakyEvents) runId := by
  intro hall
  have hlisted := ((hall "llama" (by decide)).listed "0000000000b1").mp (by decide +kernel)
  obtain ⟨worker, hworker, hrun, hid⟩ := hlisted
  revert worker
  decide +kernel

/-- Workers of two runs with ids as `create_run` makes them. -/
def plainEvents : List (WorkerEvent × Nat) :=
  [(.op (.register "00000000000000a1" "host-0" (some 0) "0000000000b0"), 1),
    (.op (.register "00000000000000a2" "host-1" (some 0) "0000000000b1"), 2),
    (.op (.register "00000000000000a1" "host-2" (some 1) "0000000000b2"), 3)]

/-- Such runs do not leak. -/
theorem runs_isolated_plain :
    ∃ s, run step (.init .inMemoryKVStore 15) plainEvents = some s ∧
      ∀ runId, runId ≠ "" →
        s.Isolated (registered (.init .inMemoryKVStore 15) plainEvents) runId := by
  have hserved : (run step (.init .inMemoryKVStore 15) plainEvents).isSome = true := by
    decide +kernel
  obtain ⟨s, hs⟩ := Option.isSome_iff_exists.mp hserved
  exact ⟨s, hs, (runs_isolated_iff hs).mpr (by decide +kernel)⟩

end WorkerPlane

end CheckpointRuntime
