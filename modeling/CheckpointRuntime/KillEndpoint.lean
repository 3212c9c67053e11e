import CheckpointRuntime.CoordinatorOperations
import CheckpointRuntime.WorkerFences
import CheckpointRuntime.WorkerLiveness
import Mathlib.Data.List.MinMax

/-!
# The kill endpoint

`demo_kill_worker` kills the worker containers and does at once what the heartbeat
timeout would do later: it fails the run, marks its workers dead and takes their
leases, "so HeartbeatManager won't re-trigger RecoveryManager".  `kill_silences` says
that this holds for as long as nobody registers for the run, however the process is
restarted meanwhile.
-/

namespace CheckpointRuntime

open KeyedTable PartialRun Coordinator

namespace WorkerPlane

/-! ## The handler -/

/-- The states of a run that has something to kill. -/
def killableStates : List RunState := [.running, .checkpointing, .committed, .recovering]

/-- The runs that a kill may be meant for: the supervised one, or without one those
with an active worker. -/
def killableRuns (s : WorkerPlane) (supervisedRunId : Option String) : List RunStatus :=
  s.coordinator.toCoordinator.listRuns.filter fun run =>
    decide (run.state ∈ killableStates) &&
      (decide (some run.runId = supervisedRunId) ||
        (supervisedRunId.isNone && (s.coordinator.listWorkers run.runId).any
          fun worker => decide (worker.status = .active)))

/-- The one that was updated last. -/
def killTarget (s : WorkerPlane) (supervisedRunId : Option String) : Option String :=
  ((s.killableRuns supervisedRunId).argmax RunStatus.updatedAt).map RunStatus.runId

/-- Mark a worker of the run dead, in the index and, if it has one, in its record. -/
def killWorker (runId : String) (s : WorkerPlane) (workerId : String) : WorkerPlane :=
  match s.getWorker workerId with
  | none => s
  | some worker =>
      if worker.runId = runId ∧ worker.status = .active then
        (s.setStatus workerId .dead).markWorkerDead runId workerId .dead
      else s

/-- Take a lease of the run. -/
def clearLease (runId : String) (s : WorkerPlane) (workerId : String) : WorkerPlane :=
  match s.getLease workerId with
  | none => s
  | some lease => if lease.runId = runId then s.unregister workerId else s

def killWorkers (s : WorkerPlane) (runId : String) : WorkerPlane :=
  (s.manager.workers.rows.map (·.workerId)).foldl (killWorker runId) s

def clearLeases (s : WorkerPlane) (runId : String) : WorkerPlane :=
  (s.heartbeats.leases.rows.map (·.workerId)).foldl (clearLease runId) s

/-- Fail the run; what `set_run_error` raises is logged. -/
def failKilledRun (s : WorkerPlane) (runId containerName : String) (now : Nat) : WorkerPlane :=
  let failed := s.coordinator.toCoordinator.setRunError runId
    ("Worker " ++ containerName ++ " killed (demo)") now
  { s with coordinator := { s.coordinator with toCoordinator := failed.1 } }

/-- `demo_kill_worker`, once the containers are killed. -/
def demoKillWorker (s : WorkerPlane) (containerName : String) (supervisedRunId : Option String)
    (now : Nat) : WorkerPlane :=
  match s.killTarget supervisedRunId with
  | none => s
  | some runId => ((s.failKilledRun runId containerName now).killWorkers runId).clearLeases runId

end WorkerPlane

/-- What may happen to a control plane with this endpoint. -/
inductive DemoEvent
  | worker (event : WorkerEvent)
  | kill (containerName : String) (supervisedRunId : Option String)

namespace WorkerPlane

def demoStep (s : WorkerPlane) (event : DemoEvent × Nat) : Option WorkerPlane :=
  match event.1 with
  | .worker worker => s.step (worker, event.2)
  | .kill containerName supervisedRunId =>
      some (s.demoKillWorker containerName supervisedRunId event.2)

end WorkerPlane

/-! ## A kill on the roster -/

theorem WorkerStatus.dead_ne_active : WorkerStatus.dead ≠ .active := by decide

namespace Member

/-- The first loop. -/
def struck (runId : String) (m : Member) : Member :=
  if m.record.runId = runId ∧ m.status = .active then
    { m with record := { m.record with status := .dead }, status := .dead }
  else m

/-- The second loop. -/
def unleasedIn (runId : String) (m : Member) : Member :=
  if m.record.runId = runId then { m with lease := none } else m

/-- Both loops. -/
def killed (runId : String) (m : Member) : Member := (m.struck runId).unleasedIn runId

theorem sameOrigin_struck (m : Member) (runId : String) : m.SameOrigin (m.struck runId) := by
  unfold struck
  split <;> exact ⟨rfl, rfl, rfl⟩

theorem sameOrigin_killed (m : Member) (runId : String) : m.SameOrigin (m.killed runId) := by
  unfold killed unleasedIn
  split <;> exact m.sameOrigin_struck runId

theorem killed_of_ne {m : Member} {runId : String} (h : m.record.runId ≠ runId) :
    m.killed runId = m := by
  have hstruck : m.struck runId = m := if_neg fun hboth => h hboth.1
  rw [killed, hstruck]
  exact if_neg h

/-- What a kill makes of a worker of the run. -/
theorem killed_spec {m : Member} {runId : String} (h : m.record.runId = runId) :
    (m.killed runId).lease = none ∧ (m.killed runId).status ≠ .active ∧
      (m.killed runId).listed = m.listed ∧
      ((m.status = .active ∧ (m.killed runId).status = .dead ∧
          (m.killed runId).record.status = .dead) ∨
        (m.status ≠ .active ∧ (m.killed runId).status = m.status ∧
          (m.killed runId).record = m.record)) := by
  have hrun : (m.struck runId).record.runId = runId := (m.sameOrigin_struck runId).2.1.trans h
  rw [killed, unleasedIn, if_pos hrun]
  by_cases hactive : m.status = .active
  · have hstruck : m.struck runId =
        { m with record := { m.record with status := .dead }, status := .dead } :=
      if_pos ⟨h, hactive⟩
    rw [hstruck]
    exact ⟨rfl, WorkerStatus.dead_ne_active, rfl, Or.inl ⟨hactive, rfl, rfl⟩⟩
  · have hstruck : m.struck runId = m := if_neg fun hboth => hactive hboth.2
    rw [hstruck]
    exact ⟨rfl, hactive, rfl, Or.inr ⟨hactive, rfl, rfl⟩⟩

theorem Valid.killed {m : Member} (hm : m.Valid) (runId : String) : (m.killed runId).Valid := by
  by_cases hrun : m.record.runId = runId
  · obtain ⟨hlease, hstatus, _, hcases⟩ := killed_spec hrun
    refine ⟨?_, fun h => absurd h hstatus, ?_, fun h => absurd h hstatus⟩
    · refine iff_of_false ?_ hstatus
      rw [alive, hlease]
      decide
    · intro hfenced
      rcases hcases with ⟨_, hdead, hrecord⟩ | ⟨_, hsame, hrecord⟩
      · rw [hdead, hrecord]
      · rw [hsame] at hfenced ⊢
        rw [hrecord]
        exact hm.fenced_record hfenced
  · rw [killed_of_ne hrun]
    exact hm

end Member

namespace Shows

variable {s : WorkerPlane} {r : Roster}

theorem killWorker (h : Shows s r) (runId workerId : String) :
    Shows (WorkerPlane.killWorker runId s workerId) (r.edit workerId (.struck runId)) := by
  cases hm : r.members workerId with
  | none =>
      have hworker : s.getWorker workerId = none := by rw [h.index, hm, Option.map_none]
      rw [Roster.edit_id (by simp [hm])]
      simp only [WorkerPlane.killWorker, hworker]
      exact h
  | some m =>
      have hworker := h.getWorker_member hm
      simp only [WorkerPlane.killWorker, hworker]
      by_cases hstruck : m.record.runId = runId ∧ m.status = .active
      · have hboth : m.indexed.runId = runId ∧ m.indexed.status = .active := hstruck
        rw [if_pos hboth]
        have hstatus := h.setStatus hm .dead
        have hmarked := hstatus.markWorkerDead (Roster.members_edit_self hm _) hstruck.1 .dead
        rw [Roster.edit_edit] at hmarked
        rwa [Roster.edit_congr] at hmarked
        intro m' hm'
        obtain rfl := Option.some.inj (hm.symm.trans hm')
        exact (if_pos hstruck).symm
      · have hnot : ¬ (m.indexed.runId = runId ∧ m.indexed.status = .active) := hstruck
        rw [if_neg hnot, Roster.edit_id]
        · exact h
        · intro m' hm'
          obtain rfl := Option.some.inj (hm.symm.trans hm')
          exact if_neg hstruck

theorem clearLease (h : Shows s r) (runId workerId : String) :
    Shows (WorkerPlane.clearLease runId s workerId) (r.edit workerId (.unleasedIn runId)) := by
  have hleases := h.leases workerId
  cases hm : r.members workerId with
  | none =>
      rw [hm, Option.bind_none] at hleases
      rw [Roster.edit_id (by simp [hm])]
      simp only [WorkerPlane.clearLease, hleases]
      exact h
  | some m =>
      rw [hm, Option.bind_some] at hleases
      cases hlease : m.lease with
      | none =>
          rw [hlease] at hleases
          simp only [WorkerPlane.clearLease, hleases]
          rw [Roster.edit_id]
          · exact h
          · intro m' hm'
            obtain rfl := Option.some.inj (hm.symm.trans hm')
            unfold Member.unleasedIn
            split
            · rw [← hlease]
            · rfl
      | some lease =>
          rw [hlease] at hleases
          simp only [WorkerPlane.clearLease, hleases]
          have hrun := h.leaseRuns workerId m lease hm hlease
          by_cases hsame : lease.runId = runId
          · rw [if_pos hsame]
            have hgone := h.unregister hm
            rwa [Roster.edit_congr] at hgone
            intro m' hm'
            obtain rfl := Option.some.inj (hm.symm.trans hm')
            exact (if_pos (hrun.symm.trans hsame)).symm
          · rw [if_neg hsame, Roster.edit_id]
            · exact h
            · intro m' hm'
              obtain rfl := Option.some.inj (hm.symm.trans hm')
              exact if_neg fun heq => hsame (hrun.trans heq)

/-- Both loops go through everything that there is. -/
theorem killWorkers (h : Shows s r) (runId : String) :
    Shows (s.killWorkers runId) (r.update fun _ => .struck runId) := by
  refine h.foldl_all (WorkerPlane.killWorker runId) id (.struck runId)
    (s.manager.workers.rows.map (·.workerId)) ?_ ?_ ?_
  · exact fun t q workerId _ ht _ => ht.killWorker runId workerId
  · rw [List.map_id]
    exact s.manager.workers.distinct
  · intro id m hm hnotMem
    have hworker := h.getWorker_member hm
    refine absurd ?_ hnotMem
    rw [List.map_id]
    exact List.mem_map.mpr ⟨m.indexed, (s.manager.workers.mem_of_find hworker),
      s.manager.workers.key_of_find hworker⟩

theorem clearLeases (h : Shows s r) (runId : String) :
    Shows (s.clearLeases runId) (r.update fun _ => .unleasedIn runId) := by
  refine h.foldl_all (WorkerPlane.clearLease runId) id (.unleasedIn runId)
    (s.heartbeats.leases.rows.map (·.workerId)) ?_ ?_ ?_
  · exact fun t q workerId _ ht _ => ht.clearLease runId workerId
  · rw [List.map_id]
    exact s.heartbeats.leases.distinct
  · intro id m hm hnotMem
    have hlease : m.lease = none := by
      cases hfound : m.lease with
      | none => rfl
      | some lease =>
          have hget : s.getLease id = some lease := (h.getLease_member hm).trans hfound
          refine absurd ?_ hnotMem
          rw [List.map_id]
          exact List.mem_map.mpr ⟨lease, s.heartbeats.leases.mem_of_find hget,
            s.heartbeats.leases.key_of_find hget⟩
    unfold Member.unleasedIn
    split
    · rw [← hlease]
    · rfl

/-- **What a kill does to the workers.** -/
theorem kill (h : Shows s r) (runId containerName : String) (now : Nat) :
    Shows (((s.failKilledRun runId containerName now).killWorkers runId).clearLeases runId)
      (r.update fun _ => .killed runId) := by
  have hfailed : Shows (s.failKilledRun runId containerName now) r := h.other rfl rfl rfl
  have hboth := (hfailed.killWorkers runId).clearLeases runId
  rwa [Roster.update_update] at hboth

end Shows

theorem Roster.Sound.killed {r : Roster} (hr : r.Sound) (runId : String) :
    (r.update fun _ => .killed runId).Sound :=
  hr.update (fun _ m => m.sameOrigin_killed runId) fun id m hm => (hr.valid id m hm).killed runId

theorem Roster.Orderly.killed {r : Roster} (hr : r.Orderly) (runId : String) :
    (r.update fun _ => .killed runId).Orderly := by
  have hactive : ∀ id m, r.members id = some m → (m.killed runId).record.status = .active →
      m.record.status = .active ∧ (m.killed runId).status = .active := by
    intro id m hm h
    by_cases hrun : m.record.runId = runId
    · obtain ⟨_, _, _, ⟨_, _, hdead⟩ | ⟨hstatus, _, hrecord⟩⟩ := Member.killed_spec hrun
      · rw [hdead] at h
        cases h
      · rw [hrecord] at h
        exact absurd (hr.recorded id m hm h) hstatus
    · rw [Member.killed_of_ne hrun] at h ⊢
      exact ⟨h, hr.recorded id m hm h⟩
  exact hr.update (fun _ m => m.sameOrigin_killed runId) (fun id m hm h => (hactive id m hm h).1)
    fun id m hm h => (hactive id m hm h).2

/-! ## Silence -/

/-- A worker without a lease that neither the index nor the store has as active. -/
structure Member.Quiet (m : Member) : Prop where
  unleased : m.lease = none
  status : m.status ≠ .active
  record : m.record.status ≠ .active

theorem Member.quiet_deregistered (m : Member) : m.deregistered.Quiet :=
  ⟨rfl, (show WorkerStatus.deregistered ≠ .active by decide),
    (show WorkerStatus.deregistered ≠ .active by decide)⟩

namespace Member.Quiet

variable {m : Member} (h : m.Quiet)
include h

theorem superseded (runId : String) (rank : Int) : (m.superseded runId rank).Quiet := by
  rw [Member.superseded, if_neg fun hall => h.status hall.2.2.2]
  exact h

theorem heard (step : Int) (now : Nat) : (m.heard step now).Quiet := by
  rw [Member.heard, if_neg h.status]
  exact h

theorem died : m.died.Quiet := by
  refine ⟨?_, WorkerStatus.dead_ne_active, WorkerStatus.dead_ne_active⟩
  rw [Member.died, h.unleased]
  rfl

theorem restarted (runId : String) : (m.restarted runId).Quiet := by
  unfold Member.restarted
  split
  · refine ⟨rfl, WorkerStatus.dead_ne_active, ?_⟩
    rw [if_neg fun hall => h.record hall.1]
    exact h.record
  · exact h

theorem rehydrated (now : Nat) : (m.rehydrated now).Quiet :=
  ⟨if_neg h.record, h.record, h.record⟩

theorem killed (runId : String) : (m.killed runId).Quiet := by
  by_cases hrun : m.record.runId = runId
  · obtain ⟨hlease, hstatus, _, ⟨_, _, hdead⟩ | ⟨_, _, hrecord⟩⟩ := Member.killed_spec hrun
    · exact ⟨hlease, hstatus, hdead ▸ WorkerStatus.dead_ne_active⟩
    · exact ⟨hlease, hstatus, hrecord ▸ h.record⟩
  · rw [Member.killed_of_ne hrun]
    exact h

end Member.Quiet

/-- All workers of a run are quiet. -/
def Roster.Silent (r : Roster) (runId : String) : Prop :=
  ∀ id m, r.members id = some m → m.record.runId = runId → m.Quiet

/-- The operation registers a worker of the run. -/
def WorkerOp.RegistersFor (runId : String) : WorkerOp → Prop
  | .register r _ _ _ => r = runId
  | .heartbeat _ _ | .deregister _ | .workerFailure _ | .restartGroup _ => False

instance (runId : String) : DecidablePred (WorkerOp.RegistersFor runId)
  | .register r _ _ _ => inferInstanceAs (Decidable (r = runId))
  | .heartbeat _ _ | .deregister _ | .workerFailure _ | .restartGroup _ =>
      inferInstanceAs (Decidable False)

def DemoEvent.RegistersFor (runId : String) : DemoEvent → Prop
  | .worker (.op op) => op.RegistersFor runId
  | .worker (.checkWorkers _ _) | .worker .restart | .worker (.other _) | .kill _ _ => False

instance (runId : String) : DecidablePred (DemoEvent.RegistersFor runId)
  | .worker (.op op) => inferInstanceAs (Decidable (op.RegistersFor runId))
  | .worker (.checkWorkers _ _) | .worker .restart | .worker (.other _) | .kill _ _ =>
      inferInstanceAs (Decidable False)

def DemoEvent.Plain : DemoEvent → Prop
  | .worker event => event.Plain
  | .kill _ _ => True

instance : DecidablePred DemoEvent.Plain
  | .worker event => inferInstanceAs (Decidable event.Plain)
  | .kill _ _ => inferInstanceAs (Decidable True)

namespace Roster.Silent

variable {r : Roster} {runId : String}

theorem update (h : r.Silent runId) {f : String → Member → Member}
    (hf : ∀ id m, Member.SameOrigin m (f id m)) (hquiet : ∀ id m, m.Quiet → (f id m).Quiet) :
    (r.update f).Silent runId := by
  intro id m' hm' hrun
  obtain ⟨m, hm, rfl⟩ := Option.map_eq_some_iff.mp hm'
  exact hquiet id m (h id m hm ((hf id m).2.1.symm.trans hrun))

theorem edit (h : r.Silent runId) {workerId : String} {f : Member → Member}
    (hf : ∀ m, Member.SameOrigin m (f m)) (hquiet : ∀ m, m.Quiet → (f m).Quiet) :
    (r.edit workerId f).Silent runId := by
  refine h.update (Member.sameOrigin_edit hf workerId) ?_
  intro id m hm
  split
  · exact hquiet m hm
  · exact hm

/-- A worker of another run. -/
theorem add (h : r.Silent runId) (workerId : String) {m : Member} (hm : m.record.runId ≠ runId) :
    (r.add workerId m).Silent runId := by
  intro id found hfound hrun
  have hcases : (if id = workerId then some m else r.members id) = some found := hfound
  split at hcases
  · obtain rfl := Option.some.inj hcases
    exact absurd hrun hm
  · exact h id found hcases hrun

theorem serve (h : r.Silent runId) {op : WorkerOp} (hop : ¬ op.RegistersFor runId) (now : Nat) :
    (r.serve op now).Silent runId := by
  cases op with
  | register r' hostname rank workerId =>
      cases rank with
      | none => exact add (r := r.setNextRank _ _) h workerId hop
      | some rank =>
          refine add ?_ workerId hop
          exact update (r := r.setNextRank _ _) h (fun _ m => m.sameOrigin_superseded r' rank)
            fun _ _ hm => hm.superseded r' rank
  | heartbeat workerId step =>
      exact h.edit (fun m => m.sameOrigin_heard step now) fun _ hm => hm.heard step now
  | deregister workerId => exact h.edit (fun _ => ⟨rfl, rfl, rfl⟩) fun m _ => m.quiet_deregistered
  | workerFailure workerId => exact h.edit (fun _ => ⟨rfl, rfl, rfl⟩) fun _ hm => hm.died
  | restartGroup r' =>
      exact h.update (fun _ m => m.sameOrigin_restarted r') fun _ _ hm => hm.restarted r'

end Roster.Silent

/-- The managers show a roster on which the run is silent. -/
def WorkerPlane.Silenced (s : WorkerPlane) (runId : String) : Prop :=
  ∃ r, Rostered s r ∧ r.Silent runId

namespace WorkerPlane

variable {s s' : WorkerPlane} {runId : String}

theorem Silenced.run (h : s.Silenced runId) {ops : List (WorkerOp × Nat)}
    (hops : ∀ op ∈ ops, ¬ op.1.RegistersFor runId)
    (hrun : PartialRun.run WorkerPlane.serve s ops = some s') : s'.Silenced runId := by
  have hkeep : ∀ (t : WorkerPlane) (op : WorkerOp × Nat) (t' : WorkerPlane), t.Silenced runId →
      ¬ op.1.RegistersFor runId → t.serve op = some t' → t'.Silenced runId := by
    intro t op t' ht hop hserve
    obtain ⟨r, hrostered, hsilent⟩ := ht
    exact ⟨_, hrostered.serve hserve, hsilent.serve hop op.2⟩
  exact guarded_invariant WorkerPlane.serve hkeep h (guarded_of_forall _ _ hops) hrun

theorem Silenced.step (h : s.Silenced runId) {event : WorkerEvent × Nat}
    (hevent : ¬ (DemoEvent.worker event.1).RegistersFor runId)
    (hstep : s.step event = some s') : s'.Silenced runId := by
  cases step_cases hstep with
  | ops hrun =>
      refine h.run ?_ hrun
      obtain ⟨event, now⟩ := event
      intro op hop
      cases event with
      | op served =>
          obtain rfl := List.mem_singleton.mp hop
          exact hevent
      | checkWorkers clock restarts =>
          obtain ⟨found, hfound, rfl⟩ := List.mem_map.mp hop
          have hscan := ofScan_scanOps clock restarts s _ found hfound
          cases found <;> first | exact id | cases hscan
      | restart => cases hop
      | other coordinator => cases hop
  | restart coordinator _ hworkers hs' =>
      subst hs'
      obtain ⟨r, hrostered, hsilent⟩ := h
      exact ⟨_, ⟨hrostered.shows.rehydrate hrostered.sound.ranked hworkers _ _,
        hrostered.sound.rehydrated event.2⟩,
        hsilent.update (fun _ _ => ⟨rfl, rfl, rfl⟩) fun _ _ hm => hm.rehydrated event.2⟩
  | other _ _ hworkers hheartbeats hmanager =>
      obtain ⟨r, hrostered, hsilent⟩ := h
      exact ⟨r, hrostered.other hworkers hheartbeats hmanager, hsilent⟩

/-- A kill shows the roster with the workers of one run killed, if it finds a run. -/
theorem rostered_demoKillWorker {r : Roster} (h : Rostered s r) (containerName : String)
    (supervisedRunId : Option String) (now : Nat) :
    Rostered (s.demoKillWorker containerName supervisedRunId now)
      (match s.killTarget supervisedRunId with
      | none => r
      | some runId => r.update fun _ => .killed runId) := by
  unfold demoKillWorker
  cases s.killTarget supervisedRunId with
  | none => exact h
  | some runId => exact ⟨h.shows.kill runId containerName now, h.sound.killed runId⟩

theorem Silenced.demoStep (h : s.Silenced runId) {event : DemoEvent × Nat}
    (hevent : ¬ event.1.RegistersFor runId) (hstep : s.demoStep event = some s') :
    s'.Silenced runId := by
  obtain ⟨event, now⟩ := event
  cases event with
  | worker worker => exact h.step hevent hstep
  | kill containerName supervisedRunId =>
      obtain rfl := Option.some.inj hstep
      obtain ⟨r, hrostered, hsilent⟩ := h
      refine ⟨_, rostered_demoKillWorker hrostered containerName supervisedRunId now, ?_⟩
      cases s.killTarget supervisedRunId with
      | none => exact hsilent
      | some other =>
          exact hsilent.update (fun _ m => m.sameOrigin_killed other) fun _ _ hm => hm.killed other

theorem Orderly.demoStep (h : s.Orderly) {event : DemoEvent × Nat} (hevent : event.1.Plain)
    (hstep : s.demoStep event = some s') : s'.Orderly := by
  obtain ⟨event, now⟩ := event
  cases event with
  | worker worker =>
      have hplain : (worker, now).1.Plain := hevent
      exact WorkerPlane.Orderly.step h hplain hstep
  | kill containerName supervisedRunId =>
      obtain rfl := Option.some.inj hstep
      obtain ⟨r, hrostered, horderly⟩ := h
      refine ⟨_, rostered_demoKillWorker hrostered containerName supervisedRunId now, ?_⟩
      cases s.killTarget supervisedRunId with
      | none => exact horderly
      | some other => exact horderly.killed other

/-- A kill silences its run. -/
theorem Orderly.silenced (h : s.Orderly) {supervisedRunId : Option String}
    (htarget : s.killTarget supervisedRunId = some runId) (containerName : String) (now : Nat) :
    (s.demoKillWorker containerName supervisedRunId now).Silenced runId := by
  obtain ⟨r, hrostered, horderly⟩ := h
  have hkilled := rostered_demoKillWorker hrostered containerName supervisedRunId now
  rw [htarget] at hkilled
  refine ⟨_, hkilled, ?_⟩
  intro id m' hm' hrun
  obtain ⟨m, hm, rfl⟩ := Option.map_eq_some_iff.mp hm'
  have hrun' : m.record.runId = runId := (m.sameOrigin_killed runId).2.1.symm.trans hrun
  obtain ⟨hlease, hstatus, _, ⟨_, _, hdead⟩ | ⟨hnot, _, hrecord⟩⟩ := Member.killed_spec hrun'
  · exact ⟨hlease, hstatus, hdead ▸ WorkerStatus.dead_ne_active⟩
  · exact ⟨hlease, hstatus, fun hactive => hnot (horderly.recorded id m hm (hrecord ▸ hactive))⟩

/-- What silence means to the managers: no lease that a scan could find expired, no
active worker in the index or in the store, and every heartbeat is refused. -/
theorem Silenced.spec (h : s.Silenced runId) :
    (∀ id lease, s.getLease id = some lease → lease.runId ≠ runId) ∧
      s.activeWorkerCount runId = 0 ∧
      (∀ worker ∈ s.coordinator.workers.rows, worker.runId = runId → worker.status ≠ .active) ∧
      (∀ id worker, s.getWorker id = some worker → worker.runId = runId →
        ∀ step now, ∃ refused, (s.workerHeartbeat id step now).2 = .error refused) := by
  obtain ⟨r, hrostered, hsilent⟩ := h
  have hshows := hrostered.shows
  have hindexed : ∀ id worker, s.getWorker id = some worker → worker.runId = runId →
      worker.status ≠ .active := by
    intro id worker hworker hrun
    rw [hshows.index] at hworker
    obtain ⟨m, hm, rfl⟩ := Option.map_eq_some_iff.mp hworker
    exact (hsilent id m hm hrun).status
  refine ⟨?_, ?_, ?_, ?_⟩
  · intro id lease hlease hrun
    rw [hshows.leases] at hlease
    obtain ⟨m, hm, hfound⟩ := Option.bind_eq_some_iff.mp hlease
    have hmember : m.record.runId = runId := (hshows.leaseRuns id m lease hm hfound).symm.trans hrun
    rw [(hsilent id m hm hmember).unleased] at hfound
    cases hfound
  · unfold activeWorkerCount
    rw [List.countP_eq_zero]
    intro worker hworker
    obtain ⟨id, hid, hfound⟩ := List.mem_filterMap.mp hworker
    obtain ⟨m, hm, hrun, _⟩ := (hshows.sets runId id).mp hid
    have hsame : worker = m.indexed := by
      rw [hshows.getWorker_member hm] at hfound
      exact (Option.some.inj hfound).symm
    rw [decide_eq_true_eq, hsame]
    exact (hsilent id m hm hrun).status
  · intro worker hworker hrun
    obtain ⟨m, hm, rfl⟩ := hshows.member_of_mem hworker
    exact (hsilent _ m hm hrun).record
  · intro id worker hworker hrun step now
    have hstatus := hindexed id worker hworker hrun
    unfold workerHeartbeat updateWorkerHeartbeat
    simp only [hworker]
    split <;> exact ⟨_, rfl⟩

end WorkerPlane

/-! ## Main result -/

namespace WorkerPlane

variable {store : KVStore} {deadThreshold now : Nat} {s s' : WorkerPlane}
  {before after : List (DemoEvent × Nat)} {containerName runId : String}
  {supervisedRunId : Option String}

/-- **A kill silences its run** until somebody registers for it: whatever scans,
heartbeats, restarts of the process and other kills come, no lease of the run is left
to expire, none of its workers is active in the index or in the store, and their
heartbeats are refused. -/
theorem kill_silences
    (hbefore : run demoStep (init store deadThreshold) before = some s)
    (hplain : ∀ event ∈ before, event.1.Plain)
    (htarget : s.killTarget supervisedRunId = some runId)
    (hafter : run demoStep (s.demoKillWorker containerName supervisedRunId now) after = some s')
    (hrest : ∀ event ∈ after, ¬ event.1.RegistersFor runId) :
    (∀ id lease, s'.getLease id = some lease → lease.runId ≠ runId) ∧
      s'.activeWorkerCount runId = 0 ∧
      (∀ worker ∈ s'.coordinator.workers.rows, worker.runId = runId →
        worker.status ≠ .active) ∧
      (∀ id worker, s'.getWorker id = some worker → worker.runId = runId →
        ∀ step now, ∃ refused, (s'.workerHeartbeat id step now).2 = .error refused) := by
  have horderly : s.Orderly :=
    guarded_invariant demoStep (fun _ _ _ ht hevent hstep => Orderly.demoStep ht hevent hstep)
      (orderly_init store deadThreshold) (guarded_of_forall _ _ hplain) hbefore
  have hsilenced : s'.Silenced runId :=
    guarded_invariant demoStep (fun _ _ _ ht hevent hstep => Silenced.demoStep ht hevent hstep)
      (horderly.silenced htarget containerName now) (guarded_of_forall _ _ hrest) hafter
  exact hsilenced.spec

/-- A coordinator that holds a running run. -/
def runningCoordinator : Coordinator :=
  let created := (Coordinator.init .etcdKVStore).createRun pairRun "00000000000000a1" 1
  (created.1.transitionRun "00000000000000a1" .running 2).1

/-- Two workers of the run. -/
def eventsBeforeKill : List (DemoEvent × Nat) :=
  [(.worker (.other runningCoordinator), 2),
    (.worker (.op (.register "00000000000000a1" "host-0" (some 0) "0000000000b0")), 3),
    (.worker (.op (.register "00000000000000a1" "host-1" (some 1) "0000000000b1")), 4)]

/-- A restart of the process, a late heartbeat, and a scan after the timeout. -/
def eventsAfterKill : List (DemoEvent × Nat) :=
  [(.worker .restart, 6), (.worker (.op (.heartbeat "0000000000b1" 9)), 7),
    (.worker (.checkWorkers (fun _ => 60) fun _ => true), 60)]

def stateBeforeKill : WorkerPlane :=
  (run demoStep (.init .etcdKVStore 15) eventsBeforeKill).get (by decide +kernel)

theorem run_eventsBeforeKill :
    run demoStep (.init .etcdKVStore 15) eventsBeforeKill = some stateBeforeKill :=
  (Option.some_get _).symm

def stateAfterKill : WorkerPlane :=
  (run demoStep (stateBeforeKill.demoKillWorker "ckpt-worker-0" (some "00000000000000a1") 5)
    eventsAfterKill).get (by decide +kernel)

theorem run_eventsAfterKill :
    run demoStep (stateBeforeKill.demoKillWorker "ckpt-worker-0" (some "00000000000000a1") 5)
      eventsAfterKill = some stateAfterKill :=
  (Option.some_get _).symm

/-- Two workers were active, and after the kill there is none. -/
theorem kill_silences_two_workers :
    stateBeforeKill.activeWorkerCount "00000000000000a1" = 2 ∧
      stateAfterKill.activeWorkerCount "00000000000000a1" = 0 :=
  ⟨by decide +kernel,
    (kill_silences run_eventsBeforeKill
      (by decide +kernel) (by decide +kernel) run_eventsAfterKill (by decide +kernel)).2.1⟩

end WorkerPlane

end CheckpointRuntime
