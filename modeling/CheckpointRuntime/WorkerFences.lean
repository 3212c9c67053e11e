import CheckpointRuntime.WorkerRosterRuns

/-!
# Do superseded workers stay fenced?

A worker that was superseded or deregistered must hear 409 for ever: any other
answer lets its process register again and displace the newer one.  Every
operation keeps that up except the restart of a worker group, which marks every
worker that it lists as `DEAD` in the index.
-/

namespace CheckpointRuntime

open PartialRun WorkerPlane

namespace WorkerPlane

/-- The index says that a worker was superseded or deregistered. -/
def Fenced (s : WorkerPlane) (id : String) : Prop :=
  (s.getWorker id).any (·.status.fenced) = true

instance (s : WorkerPlane) (id : String) : Decidable (s.Fenced id) :=
  inferInstanceAs (Decidable (_ = true))

/-- Every heartbeat request of a worker is answered 409. -/
def Refuses (s : WorkerPlane) (id : String) : Prop :=
  ∀ step now, ∃ detail, (s.workerHeartbeat id step now).2 = .error ⟨409, detail⟩

/-- Fenced workers, and no others, are answered 409. -/
theorem refuses_iff (s : WorkerPlane) (id : String) : s.Refuses id ↔ s.Fenced id := by
  unfold Refuses Fenced workerHeartbeat
  cases hworker : s.getWorker id with
  | none =>
      refine iff_of_false ?_ (by simp)
      intro h
      obtain ⟨detail, hdetail⟩ := h 0 0
      simp [updateWorkerHeartbeat, hworker, ControlPlane.notFound] at hdetail
  | some worker =>
      simp only [Option.any_some]
      by_cases hfenced : worker.status.fenced = true
      · simp [hfenced]
      · refine iff_of_false ?_ hfenced
        intro h
        obtain ⟨detail, hdetail⟩ := h 0 0
        rw [if_neg hfenced] at hdetail
        cases hheard : (s.updateWorkerHeartbeat id 0 0).2 with
        | none => simp [hheard, ControlPlane.notFound] at hdetail
        | some updated => simp [hheard] at hdetail

/-- The fences of a state hold in a later one. -/
def KeepsFences (s s' : WorkerPlane) : Prop := ∀ id, s.Fenced id → s'.Refuses id

/-- In a run, a worker that has become superseded or deregistered is refused
ever after. -/
def FencesHold (s : WorkerPlane) (events : List (WorkerEvent × Nat)) : Prop :=
  Ordered step KeepsFences s events

/-- A group restart lists no fenced worker. -/
def OpSparesFences (s : WorkerPlane) (op : WorkerOp × Nat) : Prop :=
  match op.1 with
  | .restartGroup runId => ∀ worker ∈ s.coordinator.listWorkers runId, ¬ s.Fenced worker.workerId
  | _ => True

instance (s : WorkerPlane) (op : WorkerOp × Nat) : Decidable (s.OpSparesFences op) := by
  unfold OpSparesFences
  split <;> infer_instance

/-- No group restart of an event lists a fenced worker, be it the event itself
or a part of its scan. -/
def SparesFences (s : WorkerPlane) (event : WorkerEvent × Nat) : Prop :=
  Guarded serve OpSparesFences s (s.opsOf event)

instance (s : WorkerPlane) (event : WorkerEvent × Nat) : Decidable (s.SparesFences event) :=
  inferInstanceAs (Decidable (Guarded ..))

end WorkerPlane

section
variable {s s' : WorkerPlane} {r r' : Roster}

theorem Shows.fenced_iff (h : Shows s r) (id : String) :
    s.Fenced id ↔ ∃ m, r.members id = some m ∧ m.status.fenced = true := by
  rw [Fenced, h.index]
  cases r.members id <;> simp [Member.indexed]

/-- What changes each worker by itself keeps the fences if it keeps the status
of every fenced worker fenced. -/
theorem Shows.keepsFences (h : Shows s r) (h' : Shows s' r')
    (hkeeps : ∀ id m, r.members id = some m → m.status.fenced = true →
      ∃ m', r'.members id = some m' ∧ m'.status.fenced = true) : KeepsFences s s' := by
  intro id hfenced
  obtain ⟨m, hm, hstatus⟩ := (h.fenced_iff id).mp hfenced
  rw [refuses_iff, h'.fenced_iff]
  exact hkeeps id m hm hstatus

theorem Member.superseded_of_fenced {m : Member} (hm : m.status.fenced = true) (runId : String)
    (rank : Int) : m.superseded runId rank = m := by
  apply if_neg
  intro hall
  rw [hall.2.2.2] at hm
  cases hm

/-- No operation but a group restart takes down a fence. -/
theorem Rostered.keepsFences_serve (h : Rostered s r) {op : WorkerOp} {now : Nat}
    (hserve : s.serve (op, now) = some s') (hop : ∀ runId, op ≠ .restartGroup runId) :
    KeepsFences s s' := by
  have h' := h.serve hserve
  apply h.shows.keepsFences h'.shows
  intro id m hm hfenced
  have hnotActive : m.status ≠ .active := by
    intro hactive
    rw [hactive] at hfenced
    cases hfenced
  -- the worker that an operation is about, or another one
  have hedit : ∀ (workerId : String) (f : Member → Member),
      (id = workerId → (f m).status.fenced = true) →
      ∃ m', (r.edit workerId f).members id = some m' ∧ m'.status.fenced = true := by
    intro workerId f hf
    rw [Roster.members_edit]
    split
    · next hid => exact ⟨f m, by rw [← hid, hm, Option.map_some], hf hid⟩
    · exact ⟨m, hm, hfenced⟩
  cases op with
  | register runId hostname rank workerId =>
      obtain ⟨hfresh, _⟩ := Option.ite_none_right_eq_some.mp hserve
      have hne : id ≠ workerId := by
        intro hid
        have hnone := (h.shows.members_of_fresh hfresh).2
        rw [← hid, hm] at hnone
        cases hnone
      cases rank with
      | none => exact ⟨m, (if_neg hne).trans hm, hfenced⟩
      | some rank =>
          refine ⟨m, (if_neg hne).trans ?_, hfenced⟩
          have hsame := Member.superseded_of_fenced hfenced runId rank
          show (r.members id).map (.superseded runId rank) = some m
          rw [hm, Option.map_some, hsame]
  | heartbeat workerId step =>
      apply hedit workerId _
      intro _
      rw [Member.heard, if_neg hnotActive]
      exact hfenced
  | deregister workerId => exact hedit workerId _ fun _ => rfl
  | workerFailure workerId =>
      apply hedit workerId _
      intro hid
      -- its lease is alive, so it cannot be fenced
      simp only [WorkerPlane.serve] at hserve
      split at hserve
      · cases hserve
      · next lease hlease =>
        obtain ⟨halive, _⟩ := Option.ite_none_right_eq_some.mp hserve
        rw [← hid, h.shows.getLease_member hm] at hlease
        have hactive := (h.sound.valid id m hm).alive_iff.mp (by
          rw [Member.alive, hlease, Option.any_some, halive])
        exact absurd hactive hnotActive
  | restartGroup runId => exact absurd rfl (hop runId)

/-- A group restart takes down exactly the fences of the workers it lists. -/
theorem Rostered.keepsFences_restartGroup_iff (h : Rostered s r) (runId : String) :
    KeepsFences s (s.restartGroup runId) ↔
      ∀ worker ∈ s.coordinator.listWorkers runId, ¬ s.Fenced worker.workerId := by
  have h' := h.shows.restartGroup runId
  constructor
  · intro hkeeps worker hworker hfenced
    have hrow : worker ∈ s.coordinator.workers.rows :=
      ((WorkerCoordinator.mem_listWorkers ..).mp hworker).1
    obtain ⟨m, hm, hrecord⟩ := h.shows.member_of_mem hrow
    have hin : m.inListing runId = true := (h.shows.mem_listWorkers hm).mp (hrecord ▸ hworker)
    have hrefused := hkeeps worker.workerId hfenced
    rw [refuses_iff, h'.fenced_iff] at hrefused
    obtain ⟨m', hm', hstatus⟩ := hrefused
    rw [Roster.members_update, hm, Option.map_some] at hm'
    obtain rfl := Option.some.inj hm'
    rw [Member.restarted, if_pos hin] at hstatus
    cases hstatus
  · intro hspares
    apply h.shows.keepsFences h'
    intro id m hm hfenced
    refine ⟨m, ?_, hfenced⟩
    have hout : ¬ m.inListing runId = true := by
      intro hin
      have hid := (h.shows.ids id m hm).1
      apply hspares m.record ((h.shows.mem_listWorkers hm).mpr hin)
      rw [hid, h.shows.fenced_iff]
      exact ⟨m, hm, hfenced⟩
    rw [Roster.members_update, hm, Option.map_some, Member.restarted, if_neg hout]

/-- **One operation.** -/
theorem Rostered.keepsFences_serve_iff (h : Rostered s r) {op : WorkerOp} {now : Nat}
    (hserve : s.serve (op, now) = some s') : KeepsFences s s' ↔ s.OpSparesFences (op, now) := by
  by_cases hop : ∃ runId, op = .restartGroup runId
  · obtain ⟨runId, rfl⟩ := hop
    obtain rfl := Option.some.inj hserve
    exact h.keepsFences_restartGroup_iff runId
  · have hne : ∀ runId, op ≠ .restartGroup runId := fun runId heq => hop ⟨runId, heq⟩
    apply iff_of_true (h.keepsFences_serve hserve hne)
    cases op with
    | restartGroup runId => exact absurd rfl (hne runId)
    | register _ _ _ _ => trivial
    | heartbeat _ _ => trivial
    | deregister _ => trivial
    | workerFailure _ => trivial

/-! ## Scans -/

/-- The operations of a scan. -/
def WorkerOp.OfScan : WorkerOp → Prop
  | .workerFailure _ | .restartGroup _ => True
  | _ => False

theorem WorkerPlane.ofScan_scanOps (clock : String → Nat) (restarts : String → Bool)
    (s : WorkerPlane) (ids : List String) : ∀ op ∈ scanOps clock restarts s ids, op.OfScan := by
  induction ids generalizing s with
  | nil =>
      intro op hop
      cases hop
  | cons id ids ih =>
      intro op hop
      rcases List.mem_append.mp hop with hcheck | hrest
      · unfold checkOps at hcheck
        split at hcheck
        · cases hcheck
        · split at hcheck
          · split at hcheck
            · rcases List.mem_cons.mp hcheck with rfl | hcheck
              · trivial
              · rw [List.mem_singleton.mp hcheck]
                trivial
            · rw [List.mem_singleton.mp hcheck]
              trivial
          · cases hcheck
      · exact ih _ op hrest

/-- A scan fences nobody. -/
theorem Rostered.fenced_before_scan (h : Rostered s r) {op : WorkerOp} {now : Nat}
    (hscan : op.OfScan) (hserve : s.serve (op, now) = some s') {id : String}
    (hfenced : s'.Fenced id) : s.Fenced id := by
  have h' := h.serve hserve
  rw [h'.shows.fenced_iff] at hfenced
  rw [h.shows.fenced_iff]
  obtain ⟨m', hm', hstatus⟩ := hfenced
  -- a worker that the operation marks is `DEAD`
  have hupdate : ∀ f : String → Member → Member,
      (∀ id m, f id m = m ∨ (f id m).status = .dead) → r.serve op now = r.update f →
      ∃ m, r.members id = some m ∧ m.status.fenced = true := by
    intro f hf heq
    rw [heq] at hm'
    obtain ⟨m, hm, rfl⟩ := Option.map_eq_some_iff.mp hm'
    rcases hf id m with hsame | hdead
    · exact ⟨m, hm, hsame ▸ hstatus⟩
    · rw [hdead] at hstatus
      cases hstatus
  cases op with
  | workerFailure workerId =>
      refine hupdate _ ?_ rfl
      intro id m
      split
      · exact Or.inr rfl
      · exact Or.inl rfl
  | restartGroup runId =>
      refine hupdate _ ?_ rfl
      intro id m
      unfold Member.restarted
      split
      · exact Or.inr rfl
      · exact Or.inl rfl
  | register _ _ _ _ => cases hscan
  | heartbeat _ _ => cases hscan
  | deregister _ => cases hscan

/-- A scan keeps the fences exactly if each of its group restarts does: what it
takes down it does not put up again. -/
theorem Rostered.keepsFences_scan_iff (h : Rostered s r) {ops : List WorkerOp}
    (hops : ∀ op ∈ ops, op.OfScan) {now : Nat}
    (hrun : PartialRun.run WorkerPlane.serve s (ops.map fun op => (op, now)) = some s') :
    (∀ id, s'.Fenced id → s.Fenced id) ∧ (KeepsFences s s' ↔
      Guarded WorkerPlane.serve OpSparesFences s (ops.map fun op => (op, now))) := by
  induction ops generalizing s r with
  | nil =>
      obtain rfl := Option.some.inj hrun
      exact ⟨fun _ => id, iff_of_true (fun id hid => (refuses_iff s id).mpr hid) trivial⟩
  | cons op ops ih =>
      obtain ⟨next, hnext, hrest⟩ := run_cons_some _ hrun
      have hfirst := hops op List.mem_cons_self
      obtain ⟨hback, hiff⟩ := ih (h.serve hnext) (fun o ho => hops o (List.mem_cons_of_mem _ ho))
        hrest
      have hbefore : ∀ id, next.Fenced id → s.Fenced id :=
        fun id => h.fenced_before_scan hfirst hnext
      refine ⟨fun id hid => hbefore id (hback id hid), ?_⟩
      have hguarded : Guarded WorkerPlane.serve OpSparesFences s
          ((op :: ops).map fun op => (op, now)) ↔
            s.OpSparesFences (op, now) ∧
              Guarded WorkerPlane.serve OpSparesFences next (ops.map fun op => (op, now)) := by
        constructor
        · exact fun hall => hall next hnext
        · intro hboth other hother
          obtain rfl := Option.some.inj (hnext.symm.trans hother)
          exact hboth
      rw [hguarded, ← h.keepsFences_serve_iff hnext, ← hiff]
      simp only [KeepsFences, refuses_iff]
      constructor
      · exact fun hkeeps => ⟨fun id hid => hback id (hkeeps id hid),
          fun id hid => hkeeps id (hbefore id hid)⟩
      · exact fun hboth id hid => hboth.2 id (hboth.1 id hid)

/-- **One step.**  An event keeps the fences exactly if none of its group
restarts lists a fenced worker. -/
theorem Rostered.keepsFences_step_iff (h : Rostered s r) {event : WorkerEvent × Nat}
    (hstep : s.step event = some s') : KeepsFences s s' ↔ s.SparesFences event := by
  obtain ⟨event, now⟩ := event
  cases event with
  | op op =>
      have hserve : s.serve (op, now) = some s' := hstep
      rw [h.keepsFences_serve_iff hserve]
      constructor
      · exact fun hspares _ _ => ⟨hspares, trivial⟩
      · exact fun hall => (hall s' hserve).1
  | checkWorkers clock restarts =>
      obtain rfl := Option.some.inj hstep
      exact (h.keepsFences_scan_iff (ofScan_scanOps clock restarts s _) (run_scanOps ..)).2
  | restart =>
      refine iff_of_true ?_ trivial
      cases step_cases hstep with
      | ops hrun =>
          obtain rfl := Option.some.inj hrun
          exact fun id hid => (refuses_iff s id).mpr hid
      | restart coordinator _ hworkers hs' =>
          subst hs'
          apply h.shows.keepsFences (h.shows.rehydrate h.sound.ranked hworkers _ _)
          intro id m hm hfenced
          refine ⟨m.rehydrated now, by rw [Roster.members_update, hm, Option.map_some], ?_⟩
          have hrecord := (h.sound.valid id m hm).fenced_record hfenced
          show m.record.status.fenced = true
          rw [hrecord, hfenced]
      | other coordinator hevent _ _ _ => cases hevent
  | other coordinator =>
      obtain rfl := Option.some.inj hstep
      exact iff_of_true (fun id hid => (refuses_iff _ id).mpr hid) trivial

end

namespace WorkerPlane

/-- The same for a run. -/
theorem fencesHold_iff_sparesFences {s : WorkerPlane} (hs : ∃ r, Rostered s r)
    (events : List (WorkerEvent × Nat)) :
    FencesHold s events ↔ Guarded step SparesFences s events := by
  have hrefl : ∀ t : WorkerPlane, KeepsFences t t := fun t id => (refuses_iff t id).mpr
  have htrans : ∀ a b c : WorkerPlane, KeepsFences a b → KeepsFences b c → KeepsFences a c :=
    fun a b c hab hbc id hid => hbc id ((refuses_iff b id).mp (hab id hid))
  rw [FencesHold, ordered_iff_guarded step hrefl htrans]
  exact guarded_next_congr step (I := fun t => ∃ r, Rostered t r)
    (fun _ _ _ ⟨_, ht⟩ h => ht.step h) (fun _ _ _ ⟨_, ht⟩ h => ht.keepsFences_step_iff h) hs

/-- **Superseded workers stay fenced, exactly.**  In a run of the control plane
every worker that was superseded or deregistered is answered 409 ever after
exactly when no group restart lists such a worker. -/
theorem superseded_stay_fenced_iff (store : KVStore) (deadThreshold : Nat)
    (events : List (WorkerEvent × Nat)) :
    FencesHold (init store deadThreshold) events ↔
      Guarded step SparesFences (init store deadThreshold) events :=
  fencesHold_iff_sparesFences ⟨_, rostered_init store deadThreshold⟩ events

/-- Rank 0 registers again, and then the group of its run is restarted. -/
theorem group_restart_takes_down_fence :
    ¬ FencesHold (init .inMemoryKVStore 15)
      [(.op (.register "00000000000000a1" "host" (some 0) "0000000000b0"), 1),
        (.op (.register "00000000000000a1" "host" (some 0) "0000000000b1"), 2),
        (.op (.restartGroup "00000000000000a1"), 3)] := by
  rw [fencesHold_iff_sparesFences ⟨_, rostered_init ..⟩]
  decide +kernel

end WorkerPlane

end CheckpointRuntime
