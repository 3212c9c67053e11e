import CheckpointRuntime.TrainingHarness
import CheckpointRuntime.SystemRecords
import CheckpointRuntime.Library.StableListing

/-!
# The checkpoint that a rank restores

A rank restores the first checkpoint of the largest step among the committed
records of its run, in the order of the store.  Records are rewritten in place,
so only two things can change which record that is: a record that enters or
leaves `COMMITTED`, and the deletion of a record.
-/

namespace CheckpointRuntime

open Coordinator ControlPlane StableListing KeyedTable PartialRun

theorem newest_eq_firstLargest (infos : List CheckpointInfo) :
    RecoveryManager.newest infos = firstLargest (·.step) infos := by
  induction infos with
  | nil => rfl
  | cons info infos ih =>
      unfold RecoveryManager.newest firstLargest
      rw [ih]
      cases firstLargest (·.step) infos <;> rfl

namespace Coordinator

/-- A committed record of a run. -/
def CommittedFor (c : Coordinator) (runId : String) (info : CheckpointInfo) : Prop :=
  info ∈ c.checkpoints.rows ∧ info.runId = runId ∧ info.state = .committed

/-- The committed record of a run that leads all others. -/
def Latest (c : Coordinator) (runId : String) (info : CheckpointInfo) : Prop :=
  c.CommittedFor runId info ∧
    ∀ other, c.CommittedFor runId other → other ≠ info →
      Leads (·.step) c.checkpoints.rows info other

theorem nodup_rows (c : Coordinator) : c.checkpoints.rows.Nodup :=
  c.checkpoints.distinct.of_map _

/-- What a rank finds in a listing. -/
theorem latestCommitted_eq_some_iff {c : Coordinator} {runId : String} {info : CheckpointInfo} :
    latestCommitted (c.listCheckpoints runId) = some info ↔ c.Latest runId info := by
  let ofRun := c.checkpoints.rows.filter (fun info => decide (info.runId = runId))
  have hofRun : ofRun.Nodup := c.nodup_rows.filter _
  have hlisting : c.listCheckpoints runId = byKey (·.step) ofRun := rfl
  have hnodup := (nodup_byKey (·.step) hofRun).filter
    (fun info => decide (info.state = .committed))
  have hmem : ∀ other, other ∈ (byKey (·.step) ofRun).filter
      (fun info => decide (info.state = .committed)) ↔ c.CommittedFor runId other := by
    intro other
    simp only [List.mem_filter, mem_byKey, ofRun, decide_eq_true_eq, CommittedFor, and_assoc]
  rw [latestCommitted, newest_eq_firstLargest, hlisting, firstLargest_eq_some_iff _ hnodup, hmem]
  apply and_congr_right
  intro hinfo
  have hofRun_mem : ∀ x, c.CommittedFor runId x → x ∈ ofRun := by
    intro x hx
    exact List.mem_filter.mpr ⟨hx.1, by simpa using hx.2.1⟩
  -- leaving rows out and sorting by the step does not change who leads
  have hleads : ∀ other, c.CommittedFor runId other → other ≠ info →
      (Leads (·.step) ((byKey (·.step) ofRun).filter
        (fun info => decide (info.state = .committed))) info other ↔
        Leads (·.step) c.checkpoints.rows info other) := by
    intro other hother hne
    rw [leads_filter_iff _ (by simpa using hinfo.2.2) (by simpa using hother.2.2),
      leads_byKey_iff _ hofRun (hofRun_mem _ hinfo) (hofRun_mem _ hother) (Ne.symm hne),
      leads_filter_iff _ (by simpa using hinfo.2.1) (by simpa using hother.2.1)]
  constructor
  · intro h other hother hne
    exact (hleads other hother hne).mp (h other ((hmem other).mpr hother) hne)
  · intro h other hother hne
    have hcommitted := (hmem other).mp hother
    exact (hleads other hcommitted hne).mpr (h other hcommitted hne)

/-- A rank finds nothing exactly when nothing is committed. -/
theorem latestCommitted_eq_none_iff {c : Coordinator} {runId : String} :
    latestCommitted (c.listCheckpoints runId) = none ↔ ∀ info, ¬ c.CommittedFor runId info := by
  rw [latestCommitted, newest_eq_firstLargest, firstLargest_eq_none_iff,
    List.filter_eq_nil_iff]
  simp only [listCheckpoints, List.mem_insertionSort, List.mem_filter, decide_eq_true_eq,
    CommittedFor]
  exact ⟨fun h info hinfo => h info ⟨hinfo.1, hinfo.2.1⟩ hinfo.2.2,
    fun h info hinfo hstate => h info ⟨hinfo.1, hinfo.2, hstate⟩⟩

/-- The step and the id of the checkpoint that a rank restores now. -/
def choice (c : Coordinator) (runId : String) : Int × Option String :=
  match latestCommitted (c.listCheckpoints runId) with
  | none => (0, none)
  | some latest => (latest.step, some latest.checkpointId)

/-- A committed record leads this one. -/
def Outranked (c : Coordinator) (info : CheckpointInfo) : Prop :=
  ∃ other, c.CommittedFor info.runId other ∧ other ≠ info ∧
    Leads (·.step) c.checkpoints.rows other info

instance (c : Coordinator) (info : CheckpointInfo) : Decidable (c.Outranked info) :=
  decidable_of_iff (∃ other ∈ c.checkpoints.rows, other.runId = info.runId ∧
      other.state = .committed ∧ other ≠ info ∧
      (info.step < other.step ∨ info.step = other.step ∧
        [other, info].Sublist c.checkpoints.rows)) <| by
    simp only [Outranked, CommittedFor, Leads, and_assoc]

/-- The choice survives if its record does, and if nothing is committed where
nothing was. -/
theorem choice_eq {c c' : Coordinator} {runId : String}
    (hsome : ∀ info, c.Latest runId info → ∃ info', c'.Latest runId info' ∧
      info'.step = info.step ∧ info'.checkpointId = info.checkpointId)
    (hnone : (∀ info, ¬ c.CommittedFor runId info) → ∀ info, ¬ c'.CommittedFor runId info) :
    c'.choice runId = c.choice runId := by
  unfold choice
  cases hlatest : latestCommitted (c.listCheckpoints runId) with
  | none =>
      rw [latestCommitted_eq_none_iff.mpr (hnone (latestCommitted_eq_none_iff.mp hlatest))]
  | some info =>
      obtain ⟨info', hlatest', hstep, hid⟩ := hsome info (latestCommitted_eq_some_iff.mp hlatest)
      rw [latestCommitted_eq_some_iff.mpr hlatest']
      show (info'.step, some info'.checkpointId) = (info.step, some info.checkpointId)
      rw [hstep, hid]

/-! ## Records rewritten in place -/

/-- The records of `c'` are those of `c`, each rewritten where it stands. -/
def InPlace (c c' : Coordinator) : Prop :=
  ∃ rewrite : CheckpointInfo → CheckpointInfo,
    c'.checkpoints.rows = c.checkpoints.rows.map rewrite ∧
    ∀ info, (rewrite info).checkpointId = info.checkpointId ∧
      (rewrite info).runId = info.runId ∧ (rewrite info).step = info.step

theorem InPlace.of_checkpoints {c c' : Coordinator} (h : c'.checkpoints = c.checkpoints) :
    InPlace c c' :=
  ⟨id, by rw [h, List.map_id], fun _ => ⟨rfl, rfl, rfl⟩⟩

theorem InPlace.refl (c : Coordinator) : InPlace c c := .of_checkpoints rfl

theorem InPlace.trans {c c' c'' : Coordinator} (h : InPlace c c') (h' : InPlace c' c'') :
    InPlace c c'' := by
  obtain ⟨f, hrows, hf⟩ := h
  obtain ⟨g, hrows', hg⟩ := h'
  refine ⟨g ∘ f, by rw [hrows', hrows, List.map_map], ?_⟩
  intro info
  obtain ⟨hid, hrun, hstep⟩ := hf info
  obtain ⟨hid', hrun', hstep'⟩ := hg (f info)
  exact ⟨hid'.trans hid, hrun'.trans hrun, hstep'.trans hstep⟩

theorem InPlace.updateCheckpointState (c : Coordinator) (checkpointId : String)
    (state : CheckpointState) (summary : Option ShardSummary) (now : Nat) :
    InPlace c (c.updateCheckpointState checkpointId state summary now).1 := by
  unfold Coordinator.updateCheckpointState
  cases hfind : c.getCheckpoint checkpointId with
  | none => exact .refl c
  | some info =>
      have hmem := mem_of_getCheckpoint hfind
      refine ⟨fun old => if checkpointKey old.checkpointId = checkpointKey info.checkpointId
        then updatedInfo old state summary now else old, ?_, ?_⟩
      · have hpresent : checkpointKey (updatedInfo info state summary now).checkpointId ∈
            c.checkpoints.rows.map (fun row => checkpointKey row.checkpointId) :=
          List.mem_map_of_mem (f := fun row => checkpointKey row.checkpointId) hmem
        show putRows _ _ _ _ = _
        rw [putRows, if_pos hpresent]
        apply List.map_congr_left
        intro old hold
        split
        · next hkey =>
          rw [c.checkpoints.eq_of_key_eq hold hmem hkey]
          rw [if_pos rfl]
        · next hkey => exact (if_neg hkey).symm
      · intro old
        dsimp only
        split <;> exact ⟨rfl, rfl, rfl⟩

theorem InPlace.of_edited {c d : Coordinator} (h : c.Edited d) : InPlace c d := by
  induction h with
  | refl => exact .refl c
  | checkpoint _ checkpointId state summary now ih =>
      exact ih.trans (.updateCheckpointState _ checkpointId state summary now)
  | run _ runId target edit _ _ now ih =>
      exact ih.trans (.of_checkpoints (checkpoints_moveRun _ runId target edit now))

/-- Rewriting records in place changes the choice only if a record that no
committed one leads enters or leaves `COMMITTED`. -/
theorem InPlace.choice_eq {c c' : Coordinator} (h : InPlace c c') {runId : String}
    (hstates : ∀ info info', info ∈ c.checkpoints.rows → info.runId = runId →
      c'.getCheckpoint info.checkpointId = some info' →
      (info'.state = .committed ↔ info.state = .committed) ∨ c.Outranked info) :
    c'.choice runId = c.choice runId := by
  obtain ⟨rewrite, hrows, hsame⟩ := h
  have hfound : ∀ info ∈ c.checkpoints.rows,
      c'.getCheckpoint info.checkpointId = some (rewrite info) := by
    intro info hinfo
    rw [← (hsame info).1]
    apply getCheckpoint_of_mem
    rw [hrows]
    exact List.mem_map_of_mem hinfo
  -- what is committed afterwards was committed, or a committed record leads it
  have hbefore : ∀ info', c'.CommittedFor runId info' → ∃ info, rewrite info = info' ∧
      (c.CommittedFor runId info ∨ info.runId = runId ∧ c.Outranked info) := by
    intro info' hcommitted
    obtain ⟨hmem, hrun, hstate⟩ := hcommitted
    rw [hrows] at hmem
    obtain ⟨info, hinfo, rfl⟩ := List.mem_map.mp hmem
    have hrun' : info.runId = runId := (hsame info).2.1 ▸ hrun
    refine ⟨info, rfl, ?_⟩
    rcases hstates info _ hinfo hrun' (hfound info hinfo) with hiff | houtranked
    · exact Or.inl ⟨hinfo, hrun', hiff.mp hstate⟩
    · exact Or.inr ⟨hrun', houtranked⟩
  apply Coordinator.choice_eq
  · intro latest hlatest
    obtain ⟨⟨hmem, hrun, hstate⟩, hleads⟩ := hlatest
    have hstays : (rewrite latest).state = .committed := by
      rcases hstates latest _ hmem hrun (hfound latest hmem) with hiff | houtranked
      · exact hiff.mpr hstate
      · obtain ⟨other, hother, hne, hleads'⟩ := houtranked
        rw [hrun] at hother
        exact absurd hleads' ((hleads other hother hne).not_swap _ c.nodup_rows)
    have hmap : ∀ other, Leads (·.step) c.checkpoints.rows latest other →
        Leads (·.step) c'.checkpoints.rows (rewrite latest) (rewrite other) := by
      intro other hother
      simp only [Leads, (hsame latest).2.2, (hsame other).2.2, hrows]
      exact hother.imp id fun heq => ⟨heq.1, heq.2.map rewrite⟩
    refine ⟨rewrite latest, ⟨⟨?_, (hsame latest).2.1.trans hrun, hstays⟩, ?_⟩,
      (hsame latest).2.2, (hsame latest).1⟩
    · rw [hrows]
      exact List.mem_map_of_mem hmem
    · intro other' hother' hne
      obtain ⟨other, rfl, hother⟩ := hbefore other' hother'
      have hne' : other ≠ latest := fun heq => hne (congrArg rewrite heq)
      apply hmap
      rcases hother with hcommitted | ⟨hrun', between, hbetween, _, hleads'⟩
      · exact hleads other hcommitted hne'
      · rw [hrun'] at hbetween
        by_cases hsame' : between = latest
        · exact hsame' ▸ hleads'
        · exact (hleads between hbetween hsame').trans _ c.nodup_rows hleads'
  · intro hnone info' hcommitted
    obtain ⟨info, _, hold | ⟨hrun, other, hother, _⟩⟩ := hbefore info' hcommitted
    · exact hnone info hold
    · exact hnone other (hrun ▸ hother)

/-! ## Records added and deleted -/

/-- A new record is not committed, and leaves the order of the others alone. -/
theorem choice_putCheckpoint_new {c : Coordinator} {info : CheckpointInfo}
    (hnew : c.getCheckpoint info.checkpointId = none) (hstate : info.state ≠ .committed)
    (runId : String) : (c.putCheckpoint info).choice runId = c.choice runId := by
  have hmem : ∀ other, (c.putCheckpoint info).CommittedFor runId other ↔
      c.CommittedFor runId other := by
    intro other
    have habsent : ∀ row ∈ c.checkpoints.rows,
        checkpointKey row.checkpointId ≠ checkpointKey info.checkpointId :=
      c.checkpoints.find_eq_none_iff.mp hnew
    unfold CommittedFor putCheckpoint
    rw [Table.mem_put]
    constructor
    · intro h
      obtain ⟨rfl | hold, hrest⟩ := h
      · exact absurd hrest.2 hstate
      · exact ⟨hold.1, hrest⟩
    · exact fun h => ⟨Or.inr ⟨h.1, habsent other h.1⟩, h.2⟩
  have hsublist : c.checkpoints.rows.Sublist (c.putCheckpoint info).checkpoints.rows := by
    have habsent : checkpointKey info.checkpointId ∉
        c.checkpoints.rows.map (fun row => checkpointKey row.checkpointId) := by
      intro hin
      obtain ⟨row, hrow, hkey⟩ := List.mem_map.mp hin
      exact c.checkpoints.find_eq_none_iff.mp hnew row hrow hkey
    show List.Sublist _ (putRows _ _ _ _)
    rw [putRows, if_neg habsent]
    cases c.store with
    | inMemoryKVStore => exact List.sublist_append_left _ _
    | etcdKVStore => exact List.sublist_orderedInsert ..
  apply choice_eq
  · intro latest hlatest
    refine ⟨latest, ⟨(hmem latest).mpr hlatest.1, ?_⟩, rfl, rfl⟩
    intro other hother hne
    exact (hlatest.2 other ((hmem other).mp hother) hne).mono _ hsublist
  · exact fun hnone other hother => hnone other ((hmem other).mp hother)

/-- Deleting a record that is not committed, or that a committed one leads,
does not change the choice. -/
theorem choice_deleteCheckpoint {c : Coordinator} {gone : String} {runId : String}
    (hgone : ∀ info, c.getCheckpoint gone = some info → info.runId = runId →
      info.state = .committed → c.Outranked info) :
    (c.deleteCheckpoint gone).choice runId = c.choice runId := by
  have hmem : ∀ other, (c.deleteCheckpoint gone).CommittedFor runId other ↔
      c.CommittedFor runId other ∧ other.checkpointId ≠ gone := by
    intro other
    simp only [CommittedFor, deleteCheckpoint, Table.erase, List.mem_filter, decide_eq_true_eq,
      ne_eq, checkpointKey_inj]
    tauto
  apply choice_eq
  · intro latest hlatest
    have hkept : latest.checkpointId ≠ gone := by
      intro h
      subst h
      obtain ⟨⟨hin, hrun, hstate⟩, hleads⟩ := hlatest
      obtain ⟨other, hother, hne, hleads'⟩ := hgone latest (getCheckpoint_of_mem hin) hrun hstate
      exact (hleads other (hrun ▸ hother) hne).not_swap _ c.nodup_rows hleads'
    refine ⟨latest, ⟨(hmem latest).mpr ⟨hlatest.1, hkept⟩, ?_⟩, rfl, rfl⟩
    intro other hother hne
    obtain ⟨hcommitted, hkept'⟩ := (hmem other).mp hother
    refine (leads_filter_iff _ ?_ ?_).mpr (hlatest.2 other hcommitted hne)
    · simpa using hkept
    · simpa using hkept'
  · exact fun hnone other hother => hnone other ((hmem other).mp hother).1

end Coordinator

/-! ## What the handlers do -/

theorem Coordinator.choice_congr {c c' : Coordinator} (h : c'.checkpoints = c.checkpoints)
    (runId : String) : c'.choice runId = c.choice runId := by
  simp only [choice, listCheckpoints, h]

/-- Creating a checkpoint adds a pending record, if it adds anything. -/
theorem Coordinator.choice_createCheckpoint {c : Coordinator} {checkpointId : String}
    (hnew : c.getCheckpoint checkpointId = none) (r : String) (step : Int) (now : Nat)
    (runId : String) : (c.createCheckpoint r step checkpointId now).1.choice runId =
      c.choice runId := by
  unfold createCheckpoint
  split
  · rfl
  · let info : CheckpointInfo :=
      { checkpointId := checkpointId, runId := r, step := step, createdAt := now }
    have hpending : info.state ≠ .committed := by simp [info]
    have hput : (c.putCheckpoint info).choice runId = c.choice runId :=
      choice_putCheckpoint_new hnew hpending runId
    exact (choice_congr rfl runId).trans hput

/-- No atomic request changes what a rank would restore. -/
theorem Server.choice_handle {s s' : Server} (hs : s.Recorded) {now : Nat}
    {request : AtomicRequest} (h : s.handle now request = some s') (runId : String) :
    s'.cp.coordinator.choice runId = s.cp.coordinator.choice runId := by
  cases request with
  | createRun config r =>
      obtain ⟨_, hsome⟩ := Option.ite_none_right_eq_some.mp h
      obtain rfl := Option.some.inj hsome
      exact choice_congr rfl runId
  | start r =>
      obtain rfl := Option.some.inj h
      exact choice_congr (checkpoints_moveRun ..) runId
  | cancel r =>
      obtain rfl := Option.some.inj h
      exact choice_congr (checkpoints_moveRun ..) runId
  | complete r =>
      obtain rfl := Option.some.inj h
      exact choice_congr (checkpoints_moveRun ..) runId
  | checkpoint r step checkpointId =>
      obtain ⟨hfresh, hsome⟩ := Option.ite_none_right_eq_some.mp h
      obtain rfl := Option.some.inj hsome
      obtain ⟨hissued, _⟩ := hs.issue hfresh
      have hmoved := checkpoints_moveRun s.cp.coordinator r .checkpointing id now
      have hnew : (s.cp.coordinator.moveRun r .checkpointing id now).1.getCheckpoint
          checkpointId = none := by
        rw [getCheckpoint_congr hmoved]
        cases hinfo : s.cp.coordinator.getCheckpoint checkpointId with
        | none => rfl
        | some info => exact absurd (hs.checkpointIds checkpointId info hinfo).1 hissued
      rw [← choice_congr hmoved runId]
      simp only [triggerCheckpoint, transitionRun]
      split
      · rfl
      · exact choice_createCheckpoint hnew ..
  | resume r =>
      obtain rfl := Option.some.inj h
      cases hrun : s.cp.coordinator.getRun r with
      | none =>
          simp only [resumeRun, hrun]
      | some status =>
          obtain ⟨hcoordinator, _⟩ := resumeRun_coordinator hrun now
          dsimp only
          rw [hcoordinator]
          split
          · rfl
          · exact choice_congr (checkpoints_moveRun ..) runId
  | fail r reason =>
      obtain rfl := Option.some.inj h
      exact choice_congr (checkpoints_moveRun ..) runId
  | heartbeat r step =>
      obtain rfl := Option.some.inj h
      apply choice_congr
      simp only [heartbeatStep]
      split
      · rfl
      · split
        · exact checkpoints_updateRunStep ..
        · rfl
  | workerFailure r restart =>
      have hmoves := (handle_records hs h).2.2
      obtain rfl := Option.some.inj h
      refine (InPlace.of_edited (RecoveryManager.edited_onWorkerFailure s.recovery
        s.cp.coordinator r restart now)).choice_eq ?_
      intro info info' hinfo _ hinfo'
      have hfound := getCheckpoint_of_mem hinfo
      left
      cases hmoves info.checkpointId with
      | same hsame =>
          obtain rfl : info = info' := by
            have hsome := hsame.symm.trans hinfo'
            rw [hfound] at hsome
            exact Option.some.inj hsome
          exact Iff.rfl
      | closed found hopen hsome hclosed =>
          obtain rfl : info = found := Option.some.inj (hfound.symm.trans hsome)
          obtain rfl := Option.some.inj (hclosed.symm.trans hinfo')
          rcases hopen with hstate | hstate <;> simp [updatedInfo, hstate]
      | created _ _ hnew _ => exact absurd (hs.checkpointIds _ _ hfound).1 hnew

/-! ## Steps of the system -/

namespace System

/-- The record that a handler in flight writes at an event, or that the event
deletes, and its new state. -/
def written (s : System) (event : Event) : Option (String × Option CheckpointState) :=
  match s.uploadAnswer event, s.commitAnswer event, event with
  | some (call, reply), _, _ =>
      some (call.checkpointId, some (if uploadAccepted reply then .inProgress else .failed))
  | none, some (call, reply), _ =>
      some (call.checkpointId, some (if commitAccepted reply then .committed else .failed))
  | none, none, .deleteCheckpoint id => some (id, none)
  | none, none, _ => none

/-- What an event writes is `COMMITTED` before and after, or neither, or a
committed record of the run leads it. -/
def WritesOutranked (s : System) (runId : String) (event : Event) : Prop :=
  ∀ id state, s.written event = some (id, state) →
    ∀ info, s.server.cp.coordinator.getCheckpoint id = some info → info.runId = runId →
      (state = some .committed ↔ info.state = .committed) ∨
        s.server.cp.coordinator.Outranked info

/-- Whether a concrete write is outranked can be computed. -/
instance (s : System) (runId : String) (event : Event) :
    Decidable (s.WritesOutranked runId event) :=
  match hwritten : s.written event with
  | none => isTrue fun _ _ h => nomatch hwritten.symm.trans h
  | some (id, state) =>
      match hinfo : s.server.cp.coordinator.getCheckpoint id with
      | none => isTrue fun id' state' h info h' => by
          obtain ⟨rfl, rfl⟩ := Prod.mk.inj (Option.some.inj (hwritten.symm.trans h))
          cases hinfo.symm.trans h'
      | some info =>
          decidable_of_iff (info.runId = runId →
              (state = some .committed ↔ info.state = .committed) ∨
                s.server.cp.coordinator.Outranked info) <| by
            constructor
            · intro hall id' state' h info' h'
              obtain ⟨rfl, rfl⟩ := Prod.mk.inj (Option.some.inj (hwritten.symm.trans h))
              obtain rfl := Option.some.inj (hinfo.symm.trans h')
              exact hall
            · exact fun hall => hall id state hwritten info hinfo

/-- What a rank would restore changes only with a record that no committed one
leads. -/
theorem choice_step {sha256 : Bytes → String} {s s' : System} {event : Event × Nat}
    (hs : s.server.Recorded) (h : s.step sha256 event = some s') {runId : String}
    (hwrites : s.WritesOutranked runId event.1) :
    s'.server.cp.coordinator.choice runId = s.server.cp.coordinator.choice runId := by
  -- a handler in flight rewrites one record to a state
  have hrewrite : ∀ (c' : Coordinator) (id : String) (state : CheckpointState)
      (summary : Option ShardSummary), InPlace s.server.cp.coordinator c' →
      s.written event.1 = some (id, some state) →
      (∀ other, c'.getCheckpoint other =
        if other = id then (s.server.cp.coordinator.getCheckpoint id).map
          (fun info => updatedInfo info state summary event.2)
        else s.server.cp.coordinator.getCheckpoint other) →
      c'.choice runId = s.server.cp.coordinator.choice runId := by
    intro c' id state summary hinPlace hwritten hrecords
    apply hinPlace.choice_eq
    intro info info' hinfo hrun hinfo'
    have hfound := getCheckpoint_of_mem hinfo
    rw [hrecords] at hinfo'
    split at hinfo'
    · next hid =>
      rw [← hid, hfound] at hinfo'
      obtain rfl := Option.some.inj hinfo'
      have hcase := hwrites id (some state) hwritten info (hid ▸ hfound) hrun
      simpa [updatedInfo] using hcase
    · obtain rfl : info = info' := Option.some.inj (hfound.symm.trans hinfo')
      exact Or.inl Iff.rfl
  cases step_server h with
  | upload call reply hanswer _ hserver =>
      obtain ⟨_, ⟨summary, hrecords⟩, _⟩ := uploadShardFinish_effect hs.coherent call reply event.2
      rw [hserver]
      exact hrewrite _ call.checkpointId _ summary (.of_edited (edited_uploadShardFinish ..))
        (by simp only [written, hanswer]) hrecords
  | commit call reply hupload hanswer hserver =>
      obtain ⟨_, _, hrecords, _⟩ := commitRunFinish_records hs.coherent call reply event.2
      rw [hserver]
      exact hrewrite _ call.checkpointId _ none (.of_edited (edited_commitRunFinish ..))
        (by simp only [written, hupload, hanswer]) hrecords
  | request request _ _ hhandle _ => exact Server.choice_handle hs hhandle runId
  | delete id hupload hcommit hserver hevent =>
      rw [hserver]
      apply choice_deleteCheckpoint
      intro info hinfo hrun hstate
      have hwritten : s.written event.1 = some (id, none) := by
        simp only [written, hupload, hcommit]
        rw [hevent]
      rcases hwrites id none hwritten info hinfo hrun with hiff | houtranked
      · exact absurd (hiff.mpr hstate) (by simp)
      · exact houtranked
  | stay _ _ hserver => rw [hserver]

end System

end CheckpointRuntime
