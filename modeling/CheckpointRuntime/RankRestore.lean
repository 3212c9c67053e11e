import CheckpointRuntime.LatestCheckpoint
import CheckpointRuntime.UploadHistory

/-!
# Do all ranks restore the same checkpoint?

The ranks of a worker group each call `load_checkpoint_runtime` for one run,
next to everything else that the system may do; handlers of the previous
worker generation may still be in flight.  A rank chooses its checkpoint when
its listing is answered, so the ranks agree as long as the choice stays the same
from the first listing to the last.
-/

namespace CheckpointRuntime

open Coordinator ControlPlane PartialRun

/-- The checkpoint that a call has chosen: its step and its id. -/
def Restore.chosen? : Restore → Option (Int × Option String)
  | .loading checkpoint _ => some (checkpoint.step, some checkpoint.checkpointId)
  | .returned step checkpointId => some (step, checkpointId)
  | .listing | .raised => none

/-- The system and the calls of the ranks, each at the position of its rank. -/
structure GroupRestore where
  system : System
  ranks : List Restore

/-- Something else happens, the listing of a rank is answered, or a download of
a rank ends. -/
inductive RestoreEvent
  | other (event : Event)
  | list (rank : Nat) (fault : Fault)
  | shard (rank : Nat) (outcome : ShardOutcome)

namespace GroupRestore

/-- All ranks of a group have just made their calls. -/
def begin (system : System) (worldSize : Nat) : GroupRestore where
  system := system
  ranks := List.replicate worldSize .listing

/-- Let one thing happen, if it can. -/
def step (sha256 : Bytes → String) (runId : String) (g : GroupRestore)
    (event : RestoreEvent × Nat) : Option GroupRestore :=
  match event.1 with
  | .other e => (g.system.step sha256 (e, event.2)).map fun system => { g with system := system }
  | .list rank fault =>
      match g.ranks[rank]? with
      | some .listing =>
          let answer := clientAnswer fault (g.system.server.cp.listRunCheckpoints runId)
          some { g with ranks := g.ranks.set rank (.list answer) }
      | _ => none
  | .shard rank outcome =>
      match g.ranks[rank]? with
      | some (.loading checkpoint fallback) =>
          some { g with ranks := g.ranks.set rank (.shard rank checkpoint fallback outcome) }
      | _ => none

/-- Any two calls that have returned, returned the same step and loaded the same
checkpoint. -/
def Agreed (g : GroupRestore) : Prop :=
  ∀ step step' checkpointId checkpointId',
    .returned step checkpointId ∈ g.ranks → .returned step' checkpointId' ∈ g.ranks →
      step = step' ∧ checkpointId = checkpointId'

/-- Some rank has chosen a checkpoint, and another one has yet to. -/
def Divided (g : GroupRestore) : Prop :=
  (∃ restore ∈ g.ranks, restore.chosen?.isSome) ∧ .listing ∈ g.ranks

/-- While some ranks have chosen and others have not, no record of the run
enters or leaves `COMMITTED`, except one that a committed record leads. -/
def ChoiceStays (runId : String) (g : GroupRestore) (event : RestoreEvent × Nat) : Prop :=
  match event.1 with
  | .other e => g.Divided → g.system.WritesOutranked runId e
  | _ => True

instance (runId : String) (g : GroupRestore) (event : RestoreEvent × Nat) :
    Decidable (g.ChoiceStays runId event) := by
  unfold ChoiceStays Divided
  split <;> infer_instance

/-- The ranks that have chosen have chosen alike, and while others have not,
these would choose the same. -/
structure Aligned (runId : String) (g : GroupRestore) : Prop where
  recorded : g.system.server.Recorded
  alike : ∀ restore ∈ g.ranks, ∀ restore' ∈ g.ranks, ∀ choice choice',
    restore.chosen? = some choice → restore'.chosen? = some choice' → choice = choice'
  stands : .listing ∈ g.ranks → ∀ restore ∈ g.ranks, ∀ choice,
    restore.chosen? = some choice → choice = g.system.server.cp.coordinator.choice runId

theorem aligned_begin {system : System} (h : system.server.Recorded) (runId : String)
    (worldSize : Nat) : (begin system worldSize).Aligned runId := by
  have hnone : ∀ restore ∈ (begin system worldSize).ranks, restore.chosen? = none := by
    intro restore hrestore
    rw [List.eq_of_mem_replicate hrestore]
    rfl
  refine ⟨h, ?_, ?_⟩
  · intro restore hrestore _ _ choice _ hchoice
    rw [hnone restore hrestore] at hchoice
    cases hchoice
  · intro _ restore hrestore choice hchoice
    rw [hnone restore hrestore] at hchoice
    cases hchoice

theorem Aligned.agreed {runId : String} {g : GroupRestore} (hg : g.Aligned runId) : g.Agreed := by
  intro step step' checkpointId checkpointId' h h'
  have halike := hg.alike _ h _ h' _ _ rfl rfl
  exact Prod.mk.injEq .. ▸ halike

/-- A listing that is answered chooses what the store holds now. -/
theorem chosen?_list {fault : Fault} {cp : ControlPlane} {runId : String}
    {choice : Int × Option String}
    (h : (Restore.list (clientAnswer fault (cp.listRunCheckpoints runId))).chosen? =
      some choice) : choice = cp.coordinator.choice runId := by
  cases fault with
  | refused => cases h
  | lost => cases h
  | none =>
      unfold listRunCheckpoints at h
      cases hrun : cp.coordinator.getRun runId with
      | none =>
          rw [hrun] at h
          cases h
      | some status =>
          simp only [hrun, clientAnswer, Except.mapError, Restore.list] at h
          rw [Coordinator.choice]
          cases hlatest : latestCommitted (cp.coordinator.listCheckpoints runId) with
          | none =>
              rw [hlatest] at h
              exact (Option.some.inj h).symm
          | some latest =>
              rw [hlatest] at h
              exact (Option.some.inj h).symm

/-- A download keeps to the checkpoint that its rank has chosen. -/
theorem chosen?_shard {rank : Int} {checkpoint : CheckpointInfo} {fallback : Bool}
    {outcome : ShardOutcome} {choice : Int × Option String}
    (h : (Restore.shard rank checkpoint fallback outcome).chosen? = some choice) :
    (Restore.loading checkpoint fallback).chosen? = some choice := by
  cases outcome with
  | loaded => exact h
  | unavailable =>
      rw [Restore.shard] at h
      split at h
      · exact h
      · cases h
  | corrupt => cases h

theorem shard_ne_listing (rank : Int) (checkpoint : CheckpointInfo) (fallback : Bool)
    (outcome : ShardOutcome) : .listing ≠ Restore.shard rank checkpoint fallback outcome := by
  cases outcome with
  | loaded => simp [Restore.shard]
  | unavailable =>
      rw [Restore.shard]
      split <;> simp
  | corrupt => simp [Restore.shard]

section
variable {sha256 : Bytes → String} {runId : String} {g g' : GroupRestore}

/-- A rank chooses what the store holds, while it is its turn to choose. -/
theorem Aligned.list {rank : Nat} (hg : g.Aligned runId)
    (hrank : g.ranks[rank]? = some .listing) (fault : Fault) :
    Aligned runId
      { g with
        ranks := g.ranks.set rank
          (.list (clientAnswer fault (g.system.server.cp.listRunCheckpoints runId))) } := by
  have hlisting : .listing ∈ g.ranks := List.mem_of_getElem? hrank
  have hchosen : ∀ restore ∈ g.ranks.set rank
      (.list (clientAnswer fault (g.system.server.cp.listRunCheckpoints runId))),
      ∀ choice, restore.chosen? = some choice →
        choice = g.system.server.cp.coordinator.choice runId := by
    intro restore hrestore choice hchoice
    rcases List.mem_or_eq_of_mem_set hrestore with hold | hnew
    · exact hg.stands hlisting restore hold choice hchoice
    · rw [hnew] at hchoice
      exact chosen?_list hchoice
  refine ⟨hg.recorded, ?_, fun _ => hchosen⟩
  intro restore hrestore restore' hrestore' choice choice' hchoice hchoice'
  rw [hchosen restore hrestore choice hchoice, hchosen restore' hrestore' choice' hchoice']

/-- A download changes nobody's choice. -/
theorem Aligned.shard {rank : Nat} {checkpoint : CheckpointInfo} {fallback : Bool}
    (hg : g.Aligned runId) (hrank : g.ranks[rank]? = some (.loading checkpoint fallback))
    (outcome : ShardOutcome) :
    Aligned runId
      { g with ranks := g.ranks.set rank (.shard rank checkpoint fallback outcome) } := by
  have hold : ∀ restore ∈ g.ranks.set rank (.shard rank checkpoint fallback outcome),
      ∀ choice, restore.chosen? = some choice →
        ∃ before ∈ g.ranks, before.chosen? = some choice := by
    intro restore hrestore choice hchoice
    rcases List.mem_or_eq_of_mem_set hrestore with hsame | hnew
    · exact ⟨restore, hsame, hchoice⟩
    · rw [hnew] at hchoice
      exact ⟨_, List.mem_of_getElem? hrank, chosen?_shard hchoice⟩
  refine ⟨hg.recorded, ?_, ?_⟩
  · intro restore hrestore restore' hrestore' choice choice' hchoice hchoice'
    obtain ⟨before, hbefore, hchosen⟩ := hold restore hrestore choice hchoice
    obtain ⟨before', hbefore', hchosen'⟩ := hold restore' hrestore' choice' hchoice'
    exact hg.alike before hbefore before' hbefore' choice choice' hchosen hchosen'
  · intro hlisting restore hrestore choice hchoice
    obtain ⟨before, hbefore, hchosen⟩ := hold restore hrestore choice hchoice
    refine hg.stands ?_ before hbefore choice hchosen
    rcases List.mem_or_eq_of_mem_set hlisting with hsame | hnew
    · exact hsame
    · exact absurd hnew (shard_ne_listing _ _ _ _)

/-- Whatever else happens leaves the choice alone while the ranks are divided. -/
theorem Aligned.other {system : System} {event : Event × Nat} (hg : g.Aligned runId)
    (h : g.system.step sha256 event = some system)
    (hstays : g.Divided → g.system.WritesOutranked runId event.1) :
    Aligned runId { g with system := system } := by
  refine ⟨System.recorded_step hg.recorded h, hg.alike, ?_⟩
  intro hlisting restore hrestore choice hchoice
  have hdivided : g.Divided := ⟨⟨restore, hrestore, by rw [hchoice]; rfl⟩, hlisting⟩
  rw [System.choice_step hg.recorded h (hstays hdivided)]
  exact hg.stands hlisting restore hrestore choice hchoice

/-- A step keeps the ranks aligned if the choice stays. -/
theorem Aligned.step {event : RestoreEvent × Nat} (hg : g.Aligned runId)
    (hstays : g.ChoiceStays runId event) (h : g.step sha256 runId event = some g') :
    g'.Aligned runId := by
  obtain ⟨e, now⟩ := event
  cases e with
  | other e =>
      obtain ⟨system, hsystem, rfl⟩ := Option.map_eq_some_iff.mp h
      exact hg.other hsystem hstays
  | list rank fault =>
      unfold GroupRestore.step at h
      dsimp only at h
      split at h
      · next hrank =>
        obtain rfl := Option.some.inj h
        exact hg.list hrank fault
      · cases h
  | shard rank outcome =>
      unfold GroupRestore.step at h
      dsimp only at h
      split at h
      · next hrank =>
        obtain rfl := Option.some.inj h
        exact hg.shard hrank outcome
      · cases h

end

/-! ## A commit that outlives its workers -/

/-- One shard is uploaded and its commit goes through, up to the answer. -/
def committedEvents : List (Event × Nat) :=
  System.openEvents ++
    System.writeEvents 0 0 "rank-0" [97] "123e4567-e89b-42d3-a456-426614174000" ++
    [(.uploadReply 0, 5), (.commitBegin "00000000000000a1", 7),
      (.commitCall 0 .none, 8), (.commitCall 0 .none, 8)]

/-- A worker is lost before the commit is answered, or after. -/
def lostEvents (answered : Bool) : List (Event × Nat) :=
  committedEvents ++ (if answered then [(.commitReply 1, 9)] else []) ++
    [(.request (.workerFailure "00000000000000a1" .scheduled), 10)]

/-- The system afterwards. -/
def lostSystem (answered : Bool) : System :=
  (run (System.step World.digestOfBody) (.init .inMemoryKVStore true true)
    (lostEvents answered)).get (by cases answered <;> decide +kernel)

theorem run_lostEvents (answered : Bool) :
    run (System.step World.digestOfBody) (.init .inMemoryKVStore true true)
      (lostEvents answered) = some (lostSystem answered) :=
  (Option.some_get _).symm

/-- **All ranks restore the same checkpoint** in a run whose choice stays the
same from the first listing to the last. -/
theorem all_ranks_agree (sha256 : Bytes → String) {store : KVStore}
    {autoRecover hasSupervisor : Bool} {earlier : List (Event × Nat)} {s : System}
    (hs : run (System.step sha256) (.init store autoRecover hasSupervisor) earlier = some s)
    (runId : String) (worldSize : Nat) {es : List (RestoreEvent × Nat)}
    (hguard : Guarded (step sha256 runId) (ChoiceStays runId) (begin s worldSize) es) :
    Throughout (step sha256 runId) Agreed (begin s worldSize) es := by
  have hrecorded : s.server.Recorded :=
    run_invariant (System.step sha256) (I := fun t => t.server.Recorded)
      (fun _ _ _ ht h => System.recorded_step ht h)
      (Server.recorded_init store autoRecover hasSupervisor) hs
  exact throughout_of_guarded (step sha256 runId) (I := Aligned runId)
    (fun _ _ _ hg hstays h => hg.step hstays h) (fun _ hg => hg.agreed)
    (aligned_begin hrecorded runId worldSize) hguard

/-- The commit is answered before the worker is lost: rank 1 lists after
another failure and falls back to the shard of rank 0. -/
theorem both_ranks_restore_commit :
    Throughout (step World.digestOfBody "00000000000000a1") Agreed (begin (lostSystem true) 2)
      [(.list 0 .none, 11), (.other (.request (.workerFailure "00000000000000a1" .scheduled)), 12),
        (.list 1 .none, 13), (.shard 0 .loaded, 14), (.shard 1 .unavailable, 15),
        (.shard 1 .loaded, 16)] :=
  all_ranks_agree World.digestOfBody (run_lostEvents true) _ _ (by decide +kernel)

/-- Rank 0 finds nothing committed and starts at step 0; then the commit of the
previous workers is answered, and rank 1 restores its checkpoint. -/
theorem commit_between_listings :
    ∃ g, run (step World.digestOfBody "00000000000000a1") (begin (lostSystem false) 2)
        [(.list 0 .none, 11), (.other (.commitReply 1), 12), (.list 1 .none, 13),
          (.shard 1 .loaded, 14)] = some g ∧
      g.ranks = [.returned 0 none, .returned 10 (some "00000000000000c1")] ∧ ¬ g.Agreed := by
  have hranks : (run (step World.digestOfBody "00000000000000a1") (begin (lostSystem false) 2)
        [(.list 0 .none, 11), (.other (.commitReply 1), 12), (.list 1 .none, 13),
          (.shard 1 .loaded, 14)]).map (·.ranks) =
      some [.returned 0 none, .returned 10 (some "00000000000000c1")] := by decide +kernel
  obtain ⟨g, hg, hranks⟩ := Option.map_eq_some_iff.mp hranks
  refine ⟨g, hg, hranks, ?_⟩
  intro hagreed
  have hsame := hagreed 0 10 none (some "00000000000000c1") (by simp [hranks]) (by simp [hranks])
  cases hsame.1

end GroupRestore

end CheckpointRuntime
