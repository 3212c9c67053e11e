import CheckpointRuntime.TrainingHarness
import CheckpointRuntime.Library.PartialRun

/-!
# The training loop of rank 0

`train` in runtime mode, from its first step to its end.  A stop signal may
arrive between any two things that it does, every request may fail, the data
loader may run out at any batch, and meanwhile the control plane moves the run
along the edges of its table.  `completes_iff` says in which runs `COMPLETED`
means trained and saved: a stop signal below the target is not told apart from
the end of the training.
-/

namespace CheckpointRuntime

open PartialRun

/-- The arguments that the loop reads. -/
structure TrainArgs where
  steps : Int
  checkpointEvery : Int
  isDistributed : Bool
deriving DecidableEq, Repr

/-- The requests of `save_checkpoint_runtime`, in order. -/
inductive SaveCall
  | checkpoint
  | saveShard
  | commitCheckpoint
deriving DecidableEq, Repr

/-- Where `train` stands.  `saving` knows whether it is the final checkpoint, and
`barrier` whether an exception is on its way through the `finally` block. -/
inductive TrainPhase
  | whileTest
  | forBatch
  | trainBatch
  | saving (final : Bool) (call : SaveCall)
  | barrier (failed : Bool)
  | finalTest
  | completing
  | closing
  | returned
  | raised
deriving DecidableEq, Repr

/-- Rank 0 within `train`, and the state of its run. -/
structure Trainer where
  phase : TrainPhase
  step : Int
  /-- `last_successful_checkpoint_step`. -/
  lastSuccessful : Option Int
  /-- `_STOP_REQUESTED`. -/
  stopRequested : Bool
  /-- The step of the restored checkpoint. -/
  restored : Option Int
  /-- The step of the checkpoint that the control plane was last asked for. -/
  triggered : Option Int
  /-- The steps of the checkpoints that this process has committed. -/
  committed : List Int
  /-- Whether `complete_run` has been called. -/
  completeCalled : Bool
  runState : RunState
deriving DecidableEq, Repr

/-- What may happen next. -/
inductive TrainEvent
  /-- `_signal_handler` runs. -/
  | signal
  /-- The control plane moves the run, without ending it. -/
  | moveRun (target : RunState)
  /-- The next thing that waits for nobody. -/
  | go
  /-- The data loader hands out a batch. -/
  | batch
  /-- The data loader has no more batches. -/
  | exhausted
  /-- A request of `save_checkpoint_runtime` has returned, or the call raises. -/
  | answer (ok : Bool)
  /-- `complete_run` has returned or raised. -/
  | completeAnswer (fault : Fault)
  /-- The code raises. -/
  | fail
deriving DecidableEq, Repr

namespace Trainer

/-- The loop is about to begin: the run has been resumed, and a restored
checkpoint gives the first step. -/
def begin (restored : Option Int) : Trainer where
  phase := .whileTest
  step := restored.getD 0
  lastSuccessful := if restored.getD 0 > 0 then some (restored.getD 0) else none
  stopRequested := false
  restored := restored
  triggered := none
  committed := []
  completeCalled := false
  runState := .running

/-- The loop begins after `load_checkpoint_runtime` has returned. -/
def afterRestore (step : Int) (checkpointId : Option String) : Trainer :=
  begin (checkpointId.map fun _ => step)

/-- Another step is due: the target is not reached and no stop is requested. -/
def Wanted (args : TrainArgs) (s : Trainer) : Prop :=
  s.step < args.steps ∧ s.stopRequested = false

instance (args : TrainArgs) (s : Trainer) : Decidable (s.Wanted args) :=
  inferInstanceAs (Decidable (_ ∧ _))

/-- A batch has been trained. -/
def afterBatch (args : TrainArgs) (s : Trainer) : Trainer :=
  let step := s.step + 1
  { s with
    step := step
    phase :=
      if args.checkpointEvery > 0 ∧ step % args.checkpointEvery = 0 then
        .saving false .checkpoint
      else
        .forBatch }

/-- `complete_run` is called. -/
def callComplete (s : Trainer) : Trainer :=
  { s with phase := .completing, completeCalled := true }

/-- A request of `save_checkpoint_runtime` has succeeded. -/
def afterSaveCall (s : Trainer) (final : Bool) : SaveCall → Trainer
  | .checkpoint => { s with phase := .saving final .saveShard, triggered := some s.step }
  | .saveShard => { s with phase := .saving final .commitCheckpoint }
  | .commitCheckpoint =>
      let saved := { s with committed := s.committed ++ s.triggered.toList, triggered := none }
      if final then saved.callComplete
      else { saved with phase := .barrier false, lastSuccessful := some s.step }

/-- After the loop: the final step is saved unless that exact checkpoint was. -/
def decideFinal (s : Trainer) : Trainer :=
  if s.lastSuccessful ≠ some s.step then { s with phase := .saving true .checkpoint }
  else s.callComplete

/-- Whether the code may raise where it stands. -/
def canRaise (args : TrainArgs) : TrainPhase → Bool
  | .forBatch | .trainBatch | .closing => true
  | .barrier _ => args.isDistributed
  | .whileTest | .saving _ _ | .finalTest | .completing | .returned | .raised => false

/-- Let one thing happen, if it can. -/
def next (args : TrainArgs) (s : Trainer) (event : TrainEvent) : Option Trainer :=
  match event, s.phase with
  | .signal, _ => some { s with stopRequested := true }
  | .moveRun target, _ =>
      if target ∈ validTransitions s.runState ∧ target ∈ resumableRunStates then
        some { s with runState := target }
      else
        none
  | .go, .whileTest => some { s with phase := if s.Wanted args then .forBatch else .finalTest }
  | .batch, .forBatch =>
      some { s with phase := if s.Wanted args then .trainBatch else .whileTest }
  | .exhausted, .forBatch => some { s with phase := .whileTest }
  | .go, .trainBatch => some (s.afterBatch args)
  | .answer true, .saving final call => some (s.afterSaveCall final call)
  | .answer false, .saving final _ =>
      -- the final checkpoint is saved outside of `try`
      some { s with phase := if final then .raised else .barrier true }
  | .go, .barrier failed => some { s with phase := if failed then .raised else .forBatch }
  | .go, .finalTest => some s.decideFinal
  | .completeAnswer fault, .completing =>
      some { s with
        phase := .closing
        runState :=
          if fault ≠ .refused ∧ RunState.completed ∈ validTransitions s.runState then .completed
          else s.runState }
  | .go, .closing => some { s with phase := .returned }
  | .fail, phase => if canRaise args phase then some { s with phase := .raised } else none
  | _, _ => none

/-- The steps with a committed checkpoint, the restored one included. -/
def savedSteps (s : Trainer) : List Int := s.restored.toList ++ s.committed

/-- `complete_run` is called for a run that is trained and saved only, and a run
for which it is not called can be resumed. -/
structure Lawful (args : TrainArgs) (s : Trainer) : Prop where
  completes : s.completeCalled = true → args.steps ≤ s.step ∧ s.step ∈ s.savedSteps
  resumable : s.completeCalled = false → s.runState ∈ resumableRunStates

/-- The final checkpoint is there: the last step was saved already, or the commit
of the final checkpoint succeeds. -/
def FinalSaved (s : Trainer) (event : TrainEvent) : Prop :=
  (event = .go ∧ s.phase = .finalTest ∧ s.lastSuccessful = some s.step) ∨
    (event = .answer true ∧ s.phase = .saving true .commitCheckpoint)

instance (s : Trainer) (event : TrainEvent) : Decidable (s.FinalSaved event) :=
  inferInstanceAs (Decidable (_ ∨ _))

/-- A loop that has been left below the target does not get its final checkpoint. -/
def StopUnsaved (args : TrainArgs) (s : Trainer) (event : TrainEvent) : Prop :=
  s.step < args.steps → ¬ s.FinalSaved event

instance (args : TrainArgs) (s : Trainer) (event : TrainEvent) :
    Decidable (s.StopUnsaved args event) :=
  inferInstanceAs (Decidable (_ → _))

/-! ## What holds in every run -/

/-- The phases after the call of `complete_run`, or without one. -/
def isLast : TrainPhase → Bool
  | .completing | .closing | .returned | .raised => true
  | .whileTest | .forBatch | .trainBatch | .saving _ _ | .barrier _ | .finalTest => false

/-- The phases that a trainer may enter with its books as they are. -/
def isPlain : TrainPhase → Bool
  | .completing | .saving _ .saveShard | .saving _ .commitCheckpoint => false
  | .saving _ .checkpoint | .whileTest | .forBatch | .trainBatch | .barrier _ | .finalTest
  | .closing | .returned | .raised => true

/-- The phases between the loop and the call of `complete_run`. -/
def leftLoop : TrainPhase → Bool
  | .finalTest | .saving true _ => true
  | .whileTest | .forBatch | .trainBatch | .saving false _ | .barrier _ | .completing | .closing
  | .returned | .raised => false

variable {args : TrainArgs} {s s' : Trainer} {event : TrainEvent}

/-- What one event can do. -/
inductive Step (args : TrainArgs) (s : Trainer) : TrainEvent → Trainer → Prop
  | signalled : Step args s .signal { s with stopRequested := true }
  | moved {target : RunState} (htarget : target ∈ resumableRunStates) :
      Step args s (.moveRun target) { s with runState := target }
  | entered {event : TrainEvent} {phase : TrainPhase} (hplain : isPlain phase = true)
      (hlast : isLast phase = true ∨ isLast s.phase = false)
      (hleft : leftLoop phase = true → ¬ s.Wanted args)
      (hevent : event ≠ .signal) (hfinal : ¬ s.FinalSaved event) :
      Step args s event { s with phase := phase }
  | trained (hphase : s.phase = .trainBatch) : Step args s .go (s.afterBatch args)
  | saved {final : Bool} {call : SaveCall} (hphase : s.phase = .saving final call) :
      Step args s (.answer true) (s.afterSaveCall final call)
  | decided (hphase : s.phase = .finalTest) : Step args s .go s.decideFinal
  | answered {fault : Fault} {state : RunState} (hphase : s.phase = .completing) :
      Step args s (.completeAnswer fault) { s with phase := .closing, runState := state }

theorem not_finalSaved (hphase : s.phase ≠ .finalTest) (hevent : event ≠ .answer true) :
    ¬ s.FinalSaved event := by
  intro h
  rcases h with ⟨-, hfinal, -⟩ | ⟨hanswer, -⟩
  · exact hphase hfinal
  · exact hevent hanswer

theorem step_of_next (hnext : s.next args event = some s') : Step args s event s' := by
  unfold next at hnext
  split at hnext
  · obtain rfl := Option.some.inj hnext
    exact .signalled
  · obtain ⟨⟨-, htarget⟩, hsome⟩ := Option.ite_none_right_eq_some.mp hnext
    obtain rfl := Option.some.inj hsome
    exact .moved htarget
  · next hphase =>
    obtain rfl := Option.some.inj hnext
    refine .entered (by split <;> rfl) (Or.inr (by rw [hphase]; rfl)) ?_ (by decide)
      (not_finalSaved (by rw [hphase]; decide) (by decide))
    split
    · exact fun h => (by cases h)
    · next hwanted => exact fun _ => hwanted
  · next hphase =>
    obtain rfl := Option.some.inj hnext
    refine .entered (by split <;> rfl) (Or.inr (by rw [hphase]; rfl)) ?_ (by decide)
      (not_finalSaved (by rw [hphase]; decide) (by decide))
    split <;> exact fun h => (by cases h)
  · next hphase =>
    obtain rfl := Option.some.inj hnext
    exact .entered rfl (Or.inr (by rw [hphase]; rfl)) (fun h => (by cases h)) (by decide)
      (not_finalSaved (by rw [hphase]; decide) (by decide))
  · next hphase =>
    obtain rfl := Option.some.inj hnext
    exact .trained hphase
  · next hphase =>
    obtain rfl := Option.some.inj hnext
    exact .saved hphase
  · next final call hphase =>
    obtain rfl := Option.some.inj hnext
    refine .entered (by split <;> rfl) (Or.inr (by rw [hphase]; rfl)) ?_ (by decide)
      (not_finalSaved (by rw [hphase]; exact fun h => (by cases h)) (by decide))
    split <;> exact fun h => (by cases h)
  · next failed hphase =>
    obtain rfl := Option.some.inj hnext
    refine .entered (by split <;> rfl) (Or.inr (by rw [hphase]; rfl)) ?_ (by decide)
      (not_finalSaved (by rw [hphase]; exact fun h => (by cases h)) (by decide))
    split <;> exact fun h => (by cases h)
  · next hphase =>
    obtain rfl := Option.some.inj hnext
    exact .decided hphase
  · next hphase =>
    obtain rfl := Option.some.inj hnext
    exact .answered hphase
  · next hphase =>
    obtain rfl := Option.some.inj hnext
    exact .entered rfl (Or.inl rfl) (fun h => (by cases h)) (by decide)
      (not_finalSaved (by rw [hphase]; decide) (by decide))
  · obtain ⟨hraise, hsome⟩ := Option.ite_none_right_eq_some.mp hnext
    obtain rfl := Option.some.inj hsome
    refine .entered rfl (Or.inl rfl) (fun h => (by cases h)) (by decide)
      (not_finalSaved ?_ (by decide))
    intro hphase
    rw [hphase] at hraise
    cases hraise
  · cases hnext

/-- The bookkeeping of the loop is right. -/
structure Sound (s : Trainer) : Prop where
  last : ∀ k, s.lastSuccessful = some k → k ∈ s.savedSteps
  triggered : ∀ final call, s.phase = .saving final call → call ≠ .checkpoint →
    s.triggered = some s.step
  saved : s.completeCalled = true → s.step ∈ s.savedSteps
  late : s.completeCalled = true → isLast s.phase = true
  completing : s.phase = .completing → s.completeCalled = true
  resumable : s.completeCalled = false → s.runState ∈ resumableRunStates

/-- The first step is the one that the restore has returned. -/
theorem step_afterRestore_list {answer : Except ClientError (List CheckpointInfo)} {step : Int}
    {checkpointId : Option String} (h : Restore.list answer = .returned step checkpointId) :
    (afterRestore step checkpointId).step = step := by
  unfold Restore.list at h
  split at h
  · cases h
  · split at h
    · obtain ⟨rfl, rfl⟩ := Restore.returned.inj h
      rfl
    · cases h

theorem step_afterRestore_shard {rank : Int} {checkpoint : CheckpointInfo} {fallback : Bool}
    {outcome : ShardOutcome} {step : Int} {checkpointId : Option String}
    (h : Restore.shard rank checkpoint fallback outcome = .returned step checkpointId) :
    (afterRestore step checkpointId).step = step := by
  unfold Restore.shard at h
  split at h
  · obtain ⟨rfl, rfl⟩ := Restore.returned.inj h
    rfl
  · split at h <;> cases h
  · cases h

theorem sound_begin (restored : Option Int) : (begin restored).Sound := by
  constructor
  · intro k hk
    cases restored with
    | none => cases hk
    | some first =>
        obtain ⟨-, hk⟩ := Option.ite_none_right_eq_some.mp hk
        exact List.mem_append_left _ (by simpa [begin] using hk.symm)
  · exact fun _ _ h => (by cases h)
  · exact fun h => (by cases h)
  · exact fun h => (by cases h)
  · exact fun h => (by cases h)
  · intro _
    show RunState.running ∈ resumableRunStates
    decide

/-- Before the last phases nothing has been called. -/
theorem Sound.not_called (h : s.Sound) (hphase : isLast s.phase = false) :
    s.completeCalled = false := by
  cases hcalled : s.completeCalled with
  | false => rfl
  | true => exact absurd (h.late hcalled) (by rw [hphase]; decide)

/-- A plain phase asks nothing of the books. -/
theorem call_eq_of_isPlain {phase : TrainPhase} (hplain : isPlain phase = true) {final : Bool}
    {call : SaveCall} (hsaving : phase = .saving final call) : call = .checkpoint := by
  subst hsaving
  cases call with
  | checkpoint => rfl
  | saveShard => cases hplain
  | commitCheckpoint => cases hplain

theorem ne_completing_of_isPlain {phase : TrainPhase} (hplain : isPlain phase = true) :
    phase ≠ .completing := by
  intro hphase
  subst hphase
  cases hplain

/-- To another phase; once `complete_run` has been called, to a last one. -/
theorem Sound.enter (h : s.Sound) {phase : TrainPhase} (hplain : isPlain phase = true)
    (hlast : isLast phase = true ∨ isLast s.phase = false) :
    ({ s with phase := phase } : Trainer).Sound := by
  constructor
  · exact h.last
  · exact fun final call hsaving hcall => absurd (call_eq_of_isPlain hplain hsaving) hcall
  · exact h.saved
  · intro hcalled
    rcases hlast with hlast | hphase
    · exact hlast
    · exact absurd ((h.not_called hphase).symm.trans hcalled) (by decide)
  · exact fun hcompleting => absurd hcompleting (ne_completing_of_isPlain hplain)
  · exact h.resumable

/-- Calling `complete_run` once the last step is saved. -/
theorem sound_callComplete (hlast : ∀ k, s.lastSuccessful = some k → k ∈ s.savedSteps)
    (hsaved : s.step ∈ s.savedSteps) : s.callComplete.Sound := by
  constructor
  · exact hlast
  · exact fun _ _ h => (by cases h)
  · exact fun _ => hsaved
  · exact fun _ => rfl
  · exact fun _ => rfl
  · exact fun h => (by cases h)

theorem Sound.afterBatch (h : s.Sound) (hphase : s.phase = .trainBatch) :
    (s.afterBatch args).Sound := by
  have hcalled := h.not_called (by rw [hphase]; rfl)
  have hplain : isPlain (s.afterBatch args).phase = true := by
    unfold Trainer.afterBatch
    dsimp only
    split <;> rfl
  constructor
  · exact h.last
  · exact fun final call hsaving hcall => absurd (call_eq_of_isPlain hplain hsaving) hcall
  · exact fun h => absurd (hcalled.symm.trans h) (by decide)
  · exact fun h => absurd (hcalled.symm.trans h) (by decide)
  · exact fun hcompleting => absurd hcompleting (ne_completing_of_isPlain hplain)
  · exact h.resumable

/-- The checkpoint that a commit commits is the one of the current step. -/
theorem Sound.step_mem_committed (h : s.Sound) {final : Bool}
    (hphase : s.phase = .saving final .commitCheckpoint) :
    s.step ∈ s.restored.toList ++ (s.committed ++ s.triggered.toList) := by
  rw [h.triggered final .commitCheckpoint hphase (by decide)]
  simp

theorem Sound.afterSaveCall (h : s.Sound) {final : Bool} {call : SaveCall}
    (hphase : s.phase = .saving final call) : (s.afterSaveCall final call).Sound := by
  have hcalled := h.not_called (by rw [hphase]; rfl)
  cases call with
  | checkpoint =>
      constructor
      · exact h.last
      · exact fun _ _ _ _ => rfl
      · exact h.saved
      · exact fun h => absurd (hcalled.symm.trans h) (by decide)
      · exact fun h => (by cases h)
      · exact h.resumable
  | saveShard =>
      constructor
      · exact h.last
      · exact fun _ _ _ _ => h.triggered final .saveShard hphase (by decide)
      · exact h.saved
      · exact fun h => absurd (hcalled.symm.trans h) (by decide)
      · exact fun h => (by cases h)
      · exact h.resumable
  | commitCheckpoint =>
      have hstep := h.step_mem_committed hphase
      cases final with
      | true =>
          apply sound_callComplete
          · intro k hk
            have hmem := h.last k hk
            simp only [savedSteps, List.mem_append] at hmem ⊢
            rcases hmem with hrestored | hcommitted
            · exact Or.inl hrestored
            · exact Or.inr (Or.inl hcommitted)
          · exact hstep
      | false =>
          constructor
          · exact fun k hk => Option.some.inj hk ▸ hstep
          · exact fun _ _ h => (by cases h)
          · exact fun _ => hstep
          · exact fun h => absurd (hcalled.symm.trans h) (by decide)
          · exact fun h => (by cases h)
          · exact h.resumable

theorem Sound.decideFinal (h : s.Sound) (hphase : s.phase = .finalTest) :
    s.decideFinal.Sound := by
  unfold Trainer.decideFinal
  split
  · exact h.enter rfl (Or.inr (by rw [hphase]; rfl))
  · next hsame => exact sound_callComplete h.last (h.last s.step (not_not.mp hsame))

/-- **Every step keeps the books.** -/
theorem Sound.next (h : s.Sound) (hnext : s.next args event = some s') : s'.Sound := by
  cases step_of_next hnext with
  | signalled => exact ⟨h.last, h.triggered, h.saved, h.late, h.completing, h.resumable⟩
  | moved htarget => exact ⟨h.last, h.triggered, h.saved, h.late, h.completing, fun _ => htarget⟩
  | entered hplain hlast hleft hevent hfinal => exact h.enter hplain hlast
  | trained hphase => exact h.afterBatch hphase
  | saved hphase => exact h.afterSaveCall hphase
  | decided hphase => exact h.decideFinal hphase
  | answered hphase =>
      have hcalled := h.completing hphase
      exact ⟨h.last, fun _ _ h => (by cases h), h.saved, fun _ => rfl, fun h => (by cases h),
        fun h => absurd (hcalled.symm.trans h) (by decide)⟩

/-! ## When `complete_run` is called -/

/-- With the final checkpoint there, `complete_run` is called at this step. -/
theorem called_of_finalSaved (hfinal : s.FinalSaved event)
    (hnext : s.next args event = some s') : s'.completeCalled = true ∧ s'.step = s.step := by
  rcases hfinal with ⟨rfl, hphase, hlast⟩ | ⟨rfl, hphase⟩
  · have hdecide : s.next args .go = some s.decideFinal := by
      unfold Trainer.next
      rw [hphase]
    obtain rfl := Option.some.inj (hdecide.symm.trans hnext)
    rw [decideFinal, if_neg (not_not.mpr hlast)]
    exact ⟨rfl, rfl⟩
  · have hcommit : s.next args (.answer true) = some (s.afterSaveCall true .commitCheckpoint) := by
      unfold Trainer.next
      rw [hphase]
    obtain rfl := Option.some.inj (hcommit.symm.trans hnext)
    exact ⟨rfl, rfl⟩

/-- Otherwise it is not called, and after a call the step does not change. -/
theorem Sound.kept_of_not_finalSaved (h : s.Sound) (hfinal : ¬ s.FinalSaved event)
    (hnext : s.next args event = some s') :
    s'.completeCalled = s.completeCalled ∧ (s.completeCalled = true → s'.step = s.step) := by
  cases step_of_next hnext with
  | signalled => exact ⟨rfl, fun _ => rfl⟩
  | moved htarget => exact ⟨rfl, fun _ => rfl⟩
  | entered hplain hlast hleft hevent hfinal => exact ⟨rfl, fun _ => rfl⟩
  | trained hphase =>
      have hcalled := h.not_called (by rw [hphase]; rfl)
      exact ⟨rfl, fun h => absurd (hcalled.symm.trans h) (by decide)⟩
  | @saved final call hphase =>
      cases call with
      | checkpoint => exact ⟨rfl, fun _ => rfl⟩
      | saveShard => exact ⟨rfl, fun _ => rfl⟩
      | commitCheckpoint =>
          cases final with
          | true => exact absurd (Or.inr ⟨rfl, hphase⟩) hfinal
          | false => exact ⟨rfl, fun _ => rfl⟩
  | decided hphase =>
      have hneeded : s.lastSuccessful ≠ some s.step := fun hsame =>
        hfinal (Or.inl ⟨rfl, hphase, hsame⟩)
      rw [Trainer.decideFinal, if_pos hneeded]
      exact ⟨rfl, fun _ => rfl⟩
  | answered hphase => exact ⟨rfl, fun _ => rfl⟩

theorem lawful_begin (args : TrainArgs) (restored : Option Int) :
    (begin restored).Lawful args :=
  ⟨fun h => (by cases h), (sound_begin restored).resumable⟩

/-- A lawful trainer stays lawful exactly when a loop left below the target goes
without its final checkpoint. -/
theorem lawful_next_iff (h : s.Sound) (hlawful : s.Lawful args)
    (hnext : s.next args event = some s') : s'.Lawful args ↔ s.StopUnsaved args event := by
  have hsound := h.next hnext
  by_cases hfinal : s.FinalSaved event
  · obtain ⟨hcalled, hstep⟩ := called_of_finalSaved hfinal hnext
    constructor
    · intro hlawful' hbelow
      have hreached := (hlawful'.completes hcalled).1
      rw [hstep] at hreached
      omega
    · intro hguard
      have hreached : args.steps ≤ s'.step := by
        rw [hstep]
        exact Int.not_lt.mp fun hbelow => hguard hbelow hfinal
      exact ⟨fun _ => ⟨hreached, hsound.saved hcalled⟩, hsound.resumable⟩
  · obtain ⟨hcalled, hstep⟩ := h.kept_of_not_finalSaved hfinal hnext
    refine iff_of_true ⟨fun hcalled' => ⟨?_, hsound.saved hcalled'⟩, hsound.resumable⟩
      fun _ => hfinal
    have hbefore : s.completeCalled = true := hcalled.symm.trans hcalled'
    rw [hstep hbefore]
    exact (hlawful.completes hbefore).1

/-- No stop is requested, and the loop has been left at the target only. -/
structure Unstopped (args : TrainArgs) (s : Trainer) : Prop where
  noStop : s.stopRequested = false
  target : leftLoop s.phase = true → args.steps ≤ s.step

theorem Unstopped.next (h : s.Unstopped args) (hsignal : event ≠ .signal)
    (hnext : s.next args event = some s') : s'.Unstopped args := by
  cases step_of_next hnext with
  | signalled => exact absurd rfl hsignal
  | moved htarget => exact ⟨h.noStop, h.target⟩
  | entered hplain hlast hleft hevent hfinal =>
      refine ⟨h.noStop, fun hphase => ?_⟩
      have hunwanted := hleft hphase
      exact Int.not_lt.mp fun hbelow => hunwanted ⟨hbelow, h.noStop⟩
  | trained hphase =>
      refine ⟨h.noStop, fun hleft => ?_⟩
      have hphase' : leftLoop (if args.checkpointEvery > 0 ∧
          (s.step + 1) % args.checkpointEvery = 0 then TrainPhase.saving false .checkpoint
        else .forBatch) = true := hleft
      split at hphase' <;> cases hphase'
  | @saved final call hphase =>
      cases final with
      | true =>
          have hreached := h.target (by rw [hphase]; rfl)
          cases call with
          | checkpoint => exact ⟨h.noStop, fun _ => hreached⟩
          | saveShard => exact ⟨h.noStop, fun _ => hreached⟩
          | commitCheckpoint => exact ⟨h.noStop, fun _ => hreached⟩
      | false =>
          cases call with
          | checkpoint => exact ⟨h.noStop, fun h => (by cases h)⟩
          | saveShard => exact ⟨h.noStop, fun h => (by cases h)⟩
          | commitCheckpoint => exact ⟨h.noStop, fun h => (by cases h)⟩
  | decided hphase =>
      have hreached := h.target (by rw [hphase]; rfl)
      unfold Trainer.decideFinal
      split
      · exact ⟨h.noStop, fun _ => hreached⟩
      · exact ⟨h.noStop, fun _ => hreached⟩
  | answered hphase => exact ⟨h.noStop, fun h => (by cases h)⟩

/-- The final checkpoint of an unstopped loop is one of the target. -/
theorem Unstopped.stopUnsaved (h : s.Unstopped args) : s.StopUnsaved args event := by
  intro hbelow hfinal
  have hreached : args.steps ≤ s.step := by
    rcases hfinal with ⟨-, hphase, -⟩ | ⟨-, hphase⟩
    · exact h.target (by rw [hphase]; rfl)
    · exact h.target (by rw [hphase]; rfl)
  omega

/-- **Without a stop signal** the code keeps its promise, whatever fails. -/
theorem lawful_without_signal (args : TrainArgs) (restored : Option Int)
    {events : List TrainEvent} (hsignal : .signal ∉ events) :
    Throughout (next args) (Lawful args) (begin restored) events := by
  have hunstopped : (begin restored).Unstopped args := ⟨rfl, fun h => (by cases h)⟩
  refine throughout_of_guarded (next args)
    (I := fun s => s.Sound ∧ s.Unstopped args ∧ s.Lawful args) ?_ (fun _ h => h.2.2)
    ⟨sound_begin restored, hunstopped, lawful_begin args restored⟩
    (guarded_of_forall (next args) (begin restored) (p := fun event => event ≠ .signal)
      fun event hmem hsame => hsignal (hsame ▸ hmem))
  intro s event s' h hevent hnext
  obtain ⟨hsound, hunstopped, hlawful⟩ := h
  exact ⟨hsound.next hnext, hunstopped.next hevent hnext,
    (lawful_next_iff hsound hlawful hnext).mpr hunstopped.stopUnsaved⟩

end Trainer

end CheckpointRuntime
