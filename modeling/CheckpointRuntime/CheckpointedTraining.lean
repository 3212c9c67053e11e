import CheckpointRuntime.CheckpointContents
import CheckpointRuntime.RestorableCheckpoints
import CheckpointRuntime.TrainingLoop

/-!
# Training through crashes

Training processes over the whole system: a process builds its model, restores
the latest committed checkpoint, trains and checkpoints, and may be killed at any
time; another one then starts over, or has done so already.  What checkpoints are
for is that nothing of this shows in the model: a process that stands at step `n`
has a model with exactly `n` optimizer steps behind it (`trained_for_step`),
whatever is lost, aborted, retried or interleaved.
-/

namespace CheckpointRuntime

open Coordinator ControlPlane CallProgram PartialRun

/-- What `train.py` uses of PyTorch.  A model comes with the state of its
optimizer. -/
structure Torch where
  Model : Type
  Batch : Type
  Loss : Type
  buildModel : (seed : Nat) → Model
  optimizerStep : Model → Batch → Model
  /-- `torch.save` of the dictionary with the step, the loss and the states. -/
  save : (step : Int) → Loss → Model → Bytes
  /-- `torch.load`, and `load_state_dict` of the two states. -/
  load : Bytes → Option Model
  load_save : ∀ step loss model, load (save step loss model) = some model

/-- A model that was built and has seen some number of optimizer steps. -/
inductive TrainedFor (torch : Torch) : Nat → torch.Model → Prop
  | built (seed : Nat) : TrainedFor torch 0 (torch.buildModel seed)
  | stepped {n : Nat} {model : torch.Model} (h : TrainedFor torch n model) (batch : torch.Batch) :
      TrainedFor torch (n + 1) (torch.optimizerStep model batch)

/-- A model with as many optimizer steps behind it as a step says. -/
def TrainedTo (torch : Torch) (step : Int) (model : torch.Model) : Prop :=
  ∃ n : Nat, step = n ∧ TrainedFor torch n model

/-- The bytes of a model that has been trained to a step. -/
def SavedState (torch : Torch) (step : Int) (body : Bytes) : Prop :=
  ∃ loss model, body = torch.save step loss model ∧ TrainedTo torch step model

/-- `f"rank-{rank}"`. -/
def rankShardId (rank : Int) : String := "rank-" ++ toString rank

/-- Where a process stands: it lists the checkpoints of its run or downloads one,
it trains as the rank that saves or as another one, or it is gone. -/
inductive Place
  | listing
  | downloading (checkpoint : CheckpointInfo) (fallback : Bool)
      (program : S3Program (Except Status (List ShardChunk)))
  | leading (trainer : Trainer) (checkpointId : Option String)
  | following (step : Int)
  | ended

/-- A training process.  `RUN_ID` and `RANK` do not change. -/
structure Process (torch : Torch) where
  runId : String
  rank : Int
  model : torch.Model
  place : Place

/-- The system, and all training processes there have been. -/
structure Training (torch : Torch) where
  system : System
  processes : List (Process torch)

/-- What may happen next.  Processes are named by their position. -/
inductive TrainingEvent (torch : Torch)
  /-- Anything but the body of an upload: other requests, answers, S3 calls. -/
  | system (event : Event × Nat)
  | boot (runId : String) (rank : Int) (seed : Nat)
  | list (process : Nat) (fault : Fault)
  /-- The data plane makes a call for the download of a process. -/
  | readCall (process : Nat) (fault : Fault)
  | downloaded (process : Nat)
  | downloadFailed (process : Nat)
  | trainBatch (process : Nat) (batch : torch.Batch)
  /-- Anything else that `train` does. -/
  | loop (process : Nat) (event : TrainEvent)
  | trigger (process : Nat) (checkpointId : String) (now : Nat)
  | sendShard (process : Nat) (task : Nat) (loss : torch.Loss) (header : RankHeader)
      (uuid : String) (depth maxDepth now : Nat)
  | crash (process : Nat)

/-- Whether an event is the body of an upload. -/
def isUploadBody : Event → Bool
  | .uploadBody .. => true
  | _ => false

/-- The events of the loop that do not stand for more than the loop knows: a
batch changes the model, and a trigger answers with an id. -/
def isPlainLoop : TrainEvent → TrainPhase → Bool
  | .go, .trainBatch => false
  | .answer true, .saving _ .checkpoint => false
  | _, _ => true

namespace Process

variable {torch : Torch}

/-- The shard that a process asks for: its own, or in the fallback that of rank 0. -/
def wantedShard (process : Process torch) (fallback : Bool) : String :=
  rankShardId (if fallback then 0 else process.rank)

/-- `load_checkpoint_runtime` goes on, returns or raises.  Only rank 0 or a process
that is alone saves checkpoints. -/
def restored (args : TrainArgs) (process : Process torch) : Restore → Process torch
  | .listing => { process with place := .listing }
  | .loading checkpoint fallback =>
      { process with
        place := .downloading checkpoint fallback (readShard
          { shardId := process.wantedShard fallback
            checkpointId := checkpoint.checkpointId
            runId := process.runId }) }
  | .returned step checkpointId =>
      { process with
        place :=
          if process.rank = 0 ∨ args.isDistributed = false then
            .leading (Trainer.afterRestore step checkpointId) none
          else
            .following step }
  | .raised => { process with place := .ended }

/-- A download has answered. -/
def received (args : TrainArgs) (process : Process torch) (checkpoint : CheckpointInfo)
    (fallback : Bool) : Except ClientError Bytes → Process torch
  | .error _ => process.restored args (.shard process.rank checkpoint fallback .unavailable)
  | .ok body =>
      match torch.load body with
      | none => process.restored args (.shard process.rank checkpoint fallback .corrupt)
      | some model =>
          { process with model := model }.restored args
            (.shard process.rank checkpoint fallback .loaded)

/-- The step that a process reports: `step` in `train`. -/
def step? (process : Process torch) : Option Int :=
  match process.place with
  | .leading trainer _ => some trainer.step
  | .following step => some step
  | .listing | .downloading _ _ _ | .ended => none

end Process

namespace Training

variable {torch : Torch}

/-- No process has started yet. -/
def init (torch : Torch) (store : KVStore) (autoRecover hasSupervisor : Bool) :
    Training torch where
  system := .init store autoRecover hasSupervisor
  processes := []

def setProcess (t : Training torch) (i : Nat) (process : Process torch) : Training torch :=
  { t with processes := t.processes.set i process }

/-- What one process does next, if it can. -/
def act (args : TrainArgs) (sha256 : Bytes → String) (t : Training torch) (i : Nat)
    (process : Process torch) : TrainingEvent torch → Option (Training torch)
  | .list _ fault =>
      match process.place with
      | .listing =>
          let answer := clientAnswer fault (t.system.server.cp.listRunCheckpoints process.runId)
          some (t.setProcess i (process.restored args (.list answer)))
      | _ => none
  | .readCall _ fault =>
      match process.place with
      | .downloading checkpoint fallback program =>
          (program.step bucketService fault t.system.bucket).map fun (program, bucket) =>
            { t.setProcess i { process with place := .downloading checkpoint fallback program } with
              system := { t.system with bucket := bucket } }
      | _ => none
  | .downloaded _ =>
      match process.place with
      | .downloading checkpoint fallback program =>
          program.value?.map fun reply =>
            let answer := clientAnswer .none
              (t.system.server.cp.downloadShard (process.wantedShard fallback)
                (System.receive reply))
            t.setProcess i (process.received args checkpoint fallback answer)
      | _ => none
  | .downloadFailed _ =>
      match process.place with
      | .downloading checkpoint fallback _ =>
          some (t.setProcess i (process.received args checkpoint fallback (.error .transport)))
      | _ => none
  | .trainBatch _ batch =>
      let trained := { process with model := torch.optimizerStep process.model batch }
      match process.place with
      | .leading trainer checkpointId =>
          if trainer.phase = .trainBatch then
            (trainer.next args .go).map fun trainer =>
              t.setProcess i { trained with place := .leading trainer checkpointId }
          else
            none
      | .following step =>
          if step < args.steps then
            some (t.setProcess i { trained with place := .following (step + 1) })
          else
            none
      | _ => none
  | .loop _ event =>
      match process.place with
      | .leading trainer checkpointId =>
          if isPlainLoop event trainer.phase then
            (trainer.next args event).map fun trainer =>
              t.setProcess i { process with place := .leading trainer checkpointId }
          else
            none
      | _ => none
  | .trigger _ checkpointId now =>
      match process.place with
      | .leading trainer _ =>
          match trainer.phase with
          | .saving _ .checkpoint => do
              let call : AtomicRequest := .checkpoint process.runId (some trainer.step) checkpointId
              let system ← t.system.step sha256 (.request call, now)
              let answer := (t.system.server.cp.triggerCheckpoint process.runId
                (some trainer.step) checkpointId now).2
              let created := answer.toOption.map (·.checkpointId)
              let trainer ← trainer.next args (.answer created.isSome)
              return { t.setProcess i { process with place := .leading trainer created } with
                system := system }
          | _ => none
      | _ => none
  | .sendShard _ task loss header uuid depth maxDepth now =>
      match process.place, t.system.tasks[task]? with
      | .leading trainer (some checkpointId), some (.receiveBody runId id shardId) =>
          match trainer.phase with
          | .saving _ .saveShard =>
              -- the handler of the request that this process has sent
              if runId = process.runId ∧ id = checkpointId ∧
                  shardId = rankShardId process.rank then
                (t.system.step sha256 (.uploadBody task
                  (torch.save trainer.step loss process.model) header uuid depth maxDepth,
                  now)).map fun system => { t with system := system }
              else
                none
          | _ => none
      | _, _ => none
  | .crash _ => some (t.setProcess i { process with place := .ended })
  | .system _ | .boot _ _ _ => none

/-- Let one thing happen, if it can. -/
def step (args : TrainArgs) (sha256 : Bytes → String) (t : Training torch)
    (event : TrainingEvent torch) : Option (Training torch) :=
  match event with
  | .system event =>
      if isUploadBody event.1 then none
      else (t.system.step sha256 event).map fun system => { t with system := system }
  | .boot runId rank seed =>
      some { t with
        processes := t.processes ++
          [{ runId := runId, rank := rank, model := torch.buildModel seed, place := .listing }] }
  | .list i _ | .readCall i _ | .downloaded i | .downloadFailed i | .trainBatch i _ | .loop i _
  | .trigger i _ _ | .sendShard i _ _ _ _ _ _ _ | .crash i =>
      (t.processes[i]?).bind fun process => t.act args sha256 i process event

end Training

/-! ## What the loop does to the step -/

namespace Trainer

variable {args : TrainArgs} {s s' : Trainer} {event : TrainEvent}

/-- Apart from a batch the loop keeps its step, and apart from a trigger it comes to
no upload. -/
theorem kept_of_isPlainLoop (hplain : isPlainLoop event s.phase = true)
    (hnext : s.next args event = some s') : s'.step = s.step ∧
      ∀ final, s'.phase = .saving final .saveShard → s.phase = .saving final .saveShard := by
  cases step_of_next hnext with
  | signalled => exact ⟨rfl, fun _ h => h⟩
  | moved _ => exact ⟨rfl, fun _ h => h⟩
  | entered hentered _ _ _ _ =>
      refine ⟨rfl, fun final hphase => ?_⟩
      exact absurd (call_eq_of_isPlain hentered hphase) (by decide)
  | trained hphase =>
      rw [hphase] at hplain
      cases hplain
  | @saved final call hphase =>
      cases call with
      | checkpoint =>
          rw [hphase] at hplain
          cases hplain
      | saveShard => exact ⟨rfl, fun _ h => (by cases h)⟩
      | commitCheckpoint =>
          cases final with
          | true => exact ⟨rfl, fun _ h => (by cases h)⟩
          | false => exact ⟨rfl, fun _ h => (by cases h)⟩
  | decided _ =>
      unfold decideFinal
      split
      · exact ⟨rfl, fun _ h => (by cases h)⟩
      · exact ⟨rfl, fun _ h => (by cases h)⟩
  | answered _ => exact ⟨rfl, fun _ h => (by cases h)⟩

/-- A batch takes the loop one step further. -/
theorem step_of_batch (hphase : s.phase = .trainBatch) (hnext : s.next args .go = some s') :
    s'.step = s.step + 1 ∧ ∀ final, s'.phase ≠ .saving final .saveShard := by
  unfold next at hnext
  rw [hphase] at hnext
  obtain rfl := Option.some.inj hnext
  refine ⟨rfl, fun final => ?_⟩
  unfold afterBatch
  dsimp only
  split
  · exact fun h => (by cases h)
  · exact fun h => (by cases h)

/-- A trigger keeps the step, and only one that succeeds is followed by an upload. -/
theorem step_of_trigger {final : Bool} {ok : Bool} (hphase : s.phase = .saving final .checkpoint)
    (hnext : s.next args (.answer ok) = some s') :
    s'.step = s.step ∧ ∀ other, s'.phase = .saving other .saveShard → ok = true := by
  unfold next at hnext
  rw [hphase] at hnext
  cases ok with
  | true =>
      obtain rfl := Option.some.inj hnext
      exact ⟨rfl, fun _ _ => rfl⟩
  | false =>
      obtain rfl := Option.some.inj hnext
      refine ⟨rfl, fun other hother => ?_⟩
      cases final with
      | true => cases hother
      | false => cases hother

end Trainer

/-! ## The steps of the checkpoints -/

namespace System

variable {sha256 : Bytes → String} {s s' : System} {event : Event × Nat}

/-- A record under an id handed out before the step had its step before. -/
theorem step_before_step (hs : s.server.Recorded) (h : s.step sha256 event = some s')
    {id : String} (hissued : id ∈ s.server.issued) {info' : CheckpointInfo}
    (hinfo' : s'.server.cp.coordinator.getCheckpoint id = some info') :
    ∃ info, s.server.cp.coordinator.getCheckpoint id = some info ∧ info'.step = info.step := by
  obtain ⟨info, hinfo, _⟩ := getCheckpoint_before_step hs h hissued hinfo'
  have hkept : event.1 ≠ .deleteCheckpoint id := by
    intro hdelete
    obtain ⟨event, now⟩ := event
    subst hdelete
    obtain rfl := Option.some.inj h
    rw [setCp, getCheckpoint_deleteCheckpoint, if_pos rfl] at hinfo'
    cases hinfo'
  obtain ⟨found, hfound, _, hstep⟩ := getCheckpoint_after_step hs h hkept hinfo
  obtain rfl := Option.some.inj (hinfo'.symm.trans hfound)
  exact ⟨info, hinfo, hstep⟩

/-- The steps of the checkpoints, with those that a step of the system creates. -/
def stepsAfter (stepOf : String → Int) (s s' : System) (id : String) : Int :=
  if id ∈ s.server.issued then stepOf id
  else ((s'.server.cp.coordinator.getCheckpoint id).map (·.step)).getD 0

theorem stepsAfter_of_issued {stepOf : String → Int} {id : String}
    (h : id ∈ s.server.issued) : stepsAfter stepOf s s' id = stepOf id := if_pos h

/-- Records go on having the steps of their checkpoints. -/
theorem step_eq_stepsAfter {stepOf : String → Int} (hs : s.server.Recorded)
    (h : s.step sha256 event = some s')
    (hrecords : ∀ id info, s.server.cp.coordinator.getCheckpoint id = some info →
      info.step = stepOf id) {id : String} {info' : CheckpointInfo}
    (hinfo' : s'.server.cp.coordinator.getCheckpoint id = some info') :
    info'.step = stepsAfter stepOf s s' id := by
  unfold stepsAfter
  split
  · next hissued =>
    obtain ⟨info, hinfo, hstep⟩ := step_before_step hs h hissued hinfo'
    rw [hstep, hrecords id info hinfo]
  · rw [hinfo']
    rfl

/-- A trigger that answers has handed out the id that it answers with, and the
checkpoint has the step that was asked for. -/
theorem trigger_step (hs : s.server.Recorded) {runId checkpointId : String} {step : Int}
    {now : Nat} (h : s.step sha256 (.request (.checkpoint runId (some step) checkpointId), now) =
      some s') {info : CheckpointInfo}
    (hanswer : (s.server.cp.triggerCheckpoint runId (some step) checkpointId now).2 = .ok info) :
    info.checkpointId ∉ s.server.issued ∧ info.checkpointId ∈ s'.server.issued ∧
      s'.server.cp.coordinator.getCheckpoint info.checkpointId = some info ∧ info.step = step := by
  obtain ⟨server, hserver, rfl⟩ := Option.map_eq_some_iff.mp h
  obtain ⟨hfresh, hserver⟩ := Option.ite_none_right_eq_some.mp hserver
  obtain rfl := Option.some.inj hserver
  rw [freshId, Bool.and_eq_true, decide_eq_true_eq] at hfresh
  by_cases hstate : s.server.cp.coordinator.runState runId = some .running
  · obtain ⟨status, hrun, hrunning⟩ := Option.map_eq_some_iff.mp hstate
    obtain ⟨hresult, _, _, _, hrecords, _⟩ := triggerCheckpoint_running hs.coherent hrun hrunning
      (some step) checkpointId now
    obtain rfl := Except.ok.inj (hresult.symm.trans hanswer)
    exact ⟨hfresh.2, List.mem_cons_self, (hrecords _).trans (if_pos rfl), rfl⟩
  · obtain ⟨⟨e, hresult⟩, _⟩ := triggerCheckpoint_refused hs.coherent hstate (some step)
      checkpointId now
    cases hresult.symm.trans hanswer

end System

/-! ## The invariant -/

/-- Whatever a process stands at, its model has come as far as its step says; what
it downloads, and what it is about to upload, belongs to the step of the
checkpoint. -/
def Process.Sound {torch : Torch} (stepOf : String → Int) (s : System)
    (process : Process torch) : Prop :=
  match process.place with
  | .listing => TrainedFor torch 0 process.model
  | .downloading checkpoint _ program =>
      checkpoint.checkpointId ∈ s.server.issued ∧ process.runId ∈ s.server.issued ∧
      stepOf checkpoint.checkpointId = checkpoint.step ∧
      ∃ shardId, ReadContract (SavedState torch checkpoint.step)
        { shardId := shardId, checkpointId := checkpoint.checkpointId, runId := process.runId }
        program s.bucket
  | .leading trainer checkpointId =>
      TrainedTo torch trainer.step process.model ∧
      ∀ final id, trainer.phase = .saving final .saveShard → checkpointId = some id →
        id ∈ s.server.issued ∧ stepOf id = trainer.step
  | .following step => TrainedTo torch step process.model
  | .ended => True

namespace Process

variable {torch : Torch}

/-- The steps of other checkpoints do not matter to a process. -/
theorem Sound.mono {stepOf stepOf' : String → Int} {s s' : System} {process : Process torch}
    (h : process.Sound stepOf s)
    (hissued : ∀ id ∈ s.server.issued, id ∈ s'.server.issued)
    (hsteps : ∀ id ∈ s.server.issued, stepOf' id = stepOf id) : process.Sound stepOf' s' := by
  unfold Process.Sound at h ⊢
  cases hplace : process.place with
  | listing => simpa only [hplace] using h
  | downloading checkpoint fallback program =>
      simp only [hplace] at h ⊢
      obtain ⟨hid, hrun, hstep, shardId, hread⟩ := h
      exact ⟨hissued _ hid, hissued _ hrun, (hsteps _ hid).trans hstep, shardId, hread.of_any⟩
  | leading trainer checkpointId =>
      simp only [hplace] at h ⊢
      refine ⟨h.1, fun final id hphase hcheckpoint => ?_⟩
      obtain ⟨hid, hstep⟩ := h.2 final id hphase hcheckpoint
      exact ⟨hissued id hid, (hsteps id hid).trans hstep⟩
  | following step => simpa only [hplace] using h
  | ended => trivial

end Process

namespace Training

variable {torch : Torch}

/-- Bodies, objects and processes are in step with the checkpoints. -/
structure Sound (sha256 : Bytes → String) (stepOf : String → Int) (t : Training torch) : Prop where
  filled : t.system.Filled (fun id => SavedState torch (stepOf id)) sha256
  records : ∀ id info, t.system.server.cp.coordinator.getCheckpoint id = some info →
    info.step = stepOf id
  processes : ∀ process ∈ t.processes, process.Sound stepOf t.system

section
variable {args : TrainArgs} {sha256 : Bytes → String} {stepOf stepOf' : String → Int}
  {t t' : Training torch} {s s' : System} {event : Event × Nat} {process : Process torch}
  {i : Nat}

theorem sound_init (store : KVStore) (autoRecover hasSupervisor : Bool) :
    (init torch store autoRecover hasSupervisor).Sound sha256 stepOf where
  filled := System.filled_init store autoRecover hasSupervisor
  records := by
    intro id info h
    simp [init, System.init, Server.init, ControlPlane.init, Coordinator.init, getCheckpoint] at h
  processes := fun _ h => nomatch h

/-- The system takes a step in which the bodies that are delivered belong to the steps
of their checkpoints. -/
theorem Sound.system (hs : t.Sound sha256 stepOf)
    (hdelivers : t.system.Delivers (fun id => SavedState torch (stepOf id)) event)
    (h : t.system.step sha256 event = some s') :
    Sound sha256 (t.system.stepsAfter stepOf s') { t with system := s' } where
  filled := by
    have hfilled : t.system.Filled
        (fun id => SavedState torch (t.system.stepsAfter stepOf s' id)) sha256 := by
      refine hs.filled.mono ?_
      intro id hid body hbody
      rwa [System.stepsAfter_of_issued hid]
    refine hfilled.step ?_ h
    intro task body header uuid depth maxDepth runId checkpointId shardId hevent htask
    have howned := hs.filled.linked.receiveBody _ _ _ (List.mem_of_getElem? htask)
    rw [System.stepsAfter_of_issued howned.checkpoint]
    exact hdelivers _ _ _ _ _ _ _ _ _ hevent htask
  records id info hinfo :=
    System.step_eq_stepsAfter hs.filled.linked.recorded h hs.records hinfo
  processes process hmem :=
    (hs.processes process hmem).mono
      (fun _ hid => System.issued_step hs.filled.linked.recorded h hid)
      (fun _ hid => System.stepsAfter_of_issued hid)

/-- One process moves on. -/
theorem Sound.setProcess (hs : t.Sound sha256 stepOf) (h : process.Sound stepOf t.system) :
    (t.setProcess i process).Sound sha256 stepOf where
  filled := hs.filled
  records := hs.records
  processes other hmem := by
    rcases List.mem_or_eq_of_mem_set hmem with hold | rfl
    · exact hs.processes other hold
    · exact h

/-! ## Restoring -/

/-- A process that has restored a checkpoint trains on from its step. -/
theorem sound_returned {step : Int} {checkpointId : Option String}
    (hmodel : TrainedTo torch step process.model)
    (hstep : (Trainer.afterRestore step checkpointId).step = step) :
    (process.restored args (.returned step checkpointId)).Sound stepOf s := by
  unfold Process.restored Process.Sound
  dsimp only
  split
  · next hplace =>
    split at hplace
    · cases hplace
    · cases hplace
  · next hplace =>
    split at hplace
    · cases hplace
    · cases hplace
  · next trainer other hplace =>
    split at hplace
    · obtain ⟨rfl, rfl⟩ := Place.leading.inj hplace
      refine ⟨by rwa [hstep], fun _ _ hphase => ?_⟩
      cases hphase
    · cases hplace
  · next other hplace =>
    split at hplace
    · cases hplace
    · obtain rfl := Place.following.inj hplace
      exact hmodel
  · trivial

/-- A download starts with a `ReadShard` that is under contract. -/
theorem sound_loading {checkpoint : CheckpointInfo} (fallback : Bool)
    (hid : checkpoint.checkpointId ∈ s.server.issued) (hrun : process.runId ∈ s.server.issued)
    (hstep : stepOf checkpoint.checkpointId = checkpoint.step) :
    (process.restored args (.loading checkpoint fallback)).Sound stepOf s :=
  ⟨hid, hrun, hstep, _, keeps_readShard _ _ _⟩

/-- The listing has answered. -/
theorem Sound.list (hs : t.Sound sha256 stepOf) (hmem : process ∈ t.processes)
    (hplace : process.place = .listing) (fault : Fault) :
    (process.restored args (.list (clientAnswer fault
      (t.system.server.cp.listRunCheckpoints process.runId)))).Sound stepOf t.system := by
  have hbuilt : TrainedFor torch 0 process.model := by
    have hprocess := hs.processes process hmem
    simpa only [Process.Sound, hplace] using hprocess
  have hrecorded := hs.filled.linked.recorded
  cases fault with
  | refused => exact trivial
  | lost => exact trivial
  | none =>
      unfold listRunCheckpoints
      split
      · exact trivial
      · show (process.restored args (.list (.ok _))).Sound stepOf t.system
        unfold Restore.list
        dsimp only
        split
        · exact sound_returned ⟨0, rfl, hbuilt⟩ rfl
        · next latest hlatest =>
          obtain ⟨⟨hrow, hrun, _⟩, _⟩ := latestCommitted_eq_some_iff.mp hlatest
          have hrecord := getCheckpoint_of_mem hrow
          obtain ⟨hid, state, hstate⟩ := hrecorded.checkpointIds _ latest hrecord
          rw [hrun] at hstate
          exact sound_loading false hid (hrecorded.runIds _ _ hstate)
            (hs.records _ latest hrecord).symm

/-- A download has answered: only what was trained to the step of the checkpoint is
loaded. -/
theorem sound_received {checkpoint : CheckpointInfo} (fallback : Bool)
    (hid : checkpoint.checkpointId ∈ s.server.issued) (hrun : process.runId ∈ s.server.issued)
    (hstep : stepOf checkpoint.checkpointId = checkpoint.step)
    {answer : Except ClientError Bytes}
    (hanswer : ∀ body, answer = .ok body → SavedState torch checkpoint.step body) :
    (process.received args checkpoint fallback answer).Sound stepOf s := by
  cases answer with
  | error e =>
      show (process.restored args (.shard _ _ _ .unavailable)).Sound stepOf s
      unfold Restore.shard
      dsimp only
      split
      · exact sound_loading true hid hrun hstep
      · exact trivial
  | ok body =>
      obtain ⟨loss, model, rfl, hmodel⟩ := hanswer body rfl
      unfold Process.received
      dsimp only
      rw [torch.load_save]
      exact sound_returned hmodel rfl

/-! ## The steps of a process -/

/-- An event that delivers nothing. -/
theorem delivers_of_not_uploadBody {accept : String → Bytes → Prop}
    (h : isUploadBody event.1 = false) : s.Delivers accept event := by
  intro task body header uuid depth maxDepth runId checkpointId shardId hevent
  rw [hevent] at h
  cases h

/-- A call of a download changes nothing but the download. -/
theorem Sound.readCall (hs : t.Sound sha256 stepOf) (hmem : process ∈ t.processes)
    {checkpoint : CheckpointInfo} {fallback : Bool}
    {program program' : S3Program (Except Status (List ShardChunk))} {fault : Fault}
    {bucket : Bucket} (hplace : process.place = .downloading checkpoint fallback program)
    (hcall : program.step bucketService fault t.system.bucket = some (program', bucket)) :
    Sound sha256 stepOf
      { t.setProcess i { process with place := .downloading checkpoint fallback program' } with
        system := { t.system with bucket := bucket } } := by
  have hprocess := hs.processes process hmem
  simp only [Process.Sound, hplace] at hprocess
  obtain ⟨hid, hrun, hstep, shardId, hread⟩ := hprocess
  have hserves := hs.filled.serves (hs.filled.linked.id_length hrun)
    (hs.filled.linked.id_length hid)
  rw [hstep] at hserves
  obtain ⟨rfl, hread'⟩ := Keeps.step hread hserves hcall
  exact hs.setProcess ⟨hid, hrun, hstep, shardId, hread'⟩

/-- What a finished download answers was trained to the step of its checkpoint. -/
theorem savedState_of_downloadShard {step : Int} {cp : ControlPlane} {shardId : String}
    {reply : Except Status (List ShardChunk)}
    (hreply : ∀ chunks, reply = .ok chunks → SavedState torch step (chunks.map (·.data)).flatten)
    (body : Bytes) (hbody : clientAnswer .none (cp.downloadShard shardId reply) = .ok body) :
    SavedState torch step body := by
  unfold ControlPlane.downloadShard at hbody
  split at hbody
  · split at hbody
    · cases hbody
    · next chunks =>
      split at hbody
      · cases hbody
      · obtain rfl := Except.ok.inj hbody
        exact hreply chunks rfl
  · cases hbody

/-- A trigger opens a checkpoint of the step of its process. -/
theorem Sound.trigger (hs : t.Sound sha256 stepOf) (hmem : process ∈ t.processes)
    {trainer trainer' : Trainer} {before created : Option String} {final : Bool}
    {checkpointId : String} {now : Nat} {system : System}
    (hplace : process.place = .leading trainer before)
    (hphase : trainer.phase = .saving final .checkpoint)
    (hsystem : t.system.step sha256
      (.request (.checkpoint process.runId (some trainer.step) checkpointId), now) = some system)
    (hcreated : created = (t.system.server.cp.triggerCheckpoint process.runId
      (some trainer.step) checkpointId now).2.toOption.map (·.checkpointId))
    (hnext : trainer.next args (.answer created.isSome) = some trainer') :
    Sound sha256 (t.system.stepsAfter stepOf system)
      { t.setProcess i { process with place := .leading trainer' created } with
        system := system } := by
  have hprocess := hs.processes process hmem
  simp only [Process.Sound, hplace] at hprocess
  have hafter := hs.system (delivers_of_not_uploadBody rfl) hsystem
  obtain ⟨hsame, _⟩ := Trainer.step_of_trigger hphase hnext
  refine hafter.setProcess ?_
  refine ⟨by rw [hsame]; exact hprocess.1, fun _ id _ hid => ?_⟩
  rw [hcreated] at hid
  obtain ⟨info, hinfo, rfl⟩ := Option.map_eq_some_iff.mp hid
  have hanswer : (t.system.server.cp.triggerCheckpoint process.runId (some trainer.step)
      checkpointId now).2 = .ok info := by
    cases hresult : (t.system.server.cp.triggerCheckpoint process.runId (some trainer.step)
        checkpointId now).2 with
    | error e =>
        rw [hresult] at hinfo
        cases hinfo
    | ok found =>
        rw [hresult] at hinfo
        exact congrArg Except.ok (Option.some.inj hinfo)
  obtain ⟨_, hissued, hrecord, hstep⟩ := System.trigger_step hs.filled.linked.recorded hsystem
    hanswer
  refine ⟨hissued, ?_⟩
  rw [← hafter.records _ info hrecord, hstep, hsame]

/-- A batch takes model and step one further. -/
theorem TrainedTo.batch {step : Int} {model : torch.Model} (h : TrainedTo torch step model)
    (batch : torch.Batch) : TrainedTo torch (step + 1) (torch.optimizerStep model batch) := by
  obtain ⟨n, rfl, htrained⟩ := h
  exact ⟨n + 1, rfl, htrained.stepped batch⟩

/-- The listing of a process has answered. -/
theorem Sound.act_list {j : Nat} {fault : Fault} (hs : t.Sound sha256 stepOf)
    (hmem : process ∈ t.processes)
    (h : t.act args sha256 i process (.list j fault) = some t') : t'.Sound sha256 stepOf := by
  simp only [Training.act] at h
  split at h
  · next hplace =>
    obtain rfl := Option.some.inj h
    exact hs.setProcess (hs.list hmem hplace fault)
  · cases h

/-- The download of a process goes on. -/
theorem Sound.act_readCall {j : Nat} {fault : Fault} (hs : t.Sound sha256 stepOf)
    (hmem : process ∈ t.processes)
    (h : t.act args sha256 i process (.readCall j fault) = some t') : t'.Sound sha256 stepOf := by
  simp only [Training.act] at h
  split at h
  · next checkpoint fallback program hplace =>
    obtain ⟨⟨program', bucket⟩, hcall, rfl⟩ := Option.map_eq_some_iff.mp h
    exact hs.readCall hmem hplace hcall
  · cases h

/-- The download of a process has been answered. -/
theorem Sound.act_downloaded {j : Nat} (hs : t.Sound sha256 stepOf) (hmem : process ∈ t.processes)
    (h : t.act args sha256 i process (.downloaded j) = some t') : t'.Sound sha256 stepOf := by
  have hprocess := hs.processes process hmem
  simp only [Training.act] at h
  split at h
  · next checkpoint fallback program hplace =>
    obtain ⟨reply, hvalue, rfl⟩ := Option.map_eq_some_iff.mp h
    simp only [Process.Sound, hplace] at hprocess
    obtain ⟨hid, hrun, hstep, shardId, hread⟩ := hprocess
    rw [ReadContract, Program.eq_done_of_value? hvalue] at hread
    have hreceived : ∀ chunks, System.receive reply = .ok chunks →
        SavedState torch checkpoint.step (chunks.map (·.data)).flatten :=
      fun chunks hchunks => hread chunks (System.eq_ok_of_receive hchunks)
    exact hs.setProcess (sound_received fallback hid hrun hstep
      (savedState_of_downloadShard hreceived))
  · cases h

/-- The download of a process has failed. -/
theorem Sound.act_downloadFailed {j : Nat} (hs : t.Sound sha256 stepOf)
    (hmem : process ∈ t.processes)
    (h : t.act args sha256 i process (.downloadFailed j) = some t') : t'.Sound sha256 stepOf := by
  have hprocess := hs.processes process hmem
  simp only [Training.act] at h
  split at h
  · next checkpoint fallback program hplace =>
    obtain rfl := Option.some.inj h
    simp only [Process.Sound, hplace] at hprocess
    obtain ⟨hid, hrun, hstep, _⟩ := hprocess
    exact hs.setProcess (sound_received fallback hid hrun hstep fun _ h => (by cases h))
  · cases h

/-- A process trains a batch. -/
theorem Sound.act_trainBatch {j : Nat} {batch : torch.Batch} (hs : t.Sound sha256 stepOf)
    (hmem : process ∈ t.processes)
    (h : t.act args sha256 i process (.trainBatch j batch) = some t') :
    t'.Sound sha256 stepOf := by
  have hprocess := hs.processes process hmem
  simp only [Training.act] at h
  split at h
  · next trainer checkpointId hplace =>
    obtain ⟨hphase, h⟩ := Option.ite_none_right_eq_some.mp h
    obtain ⟨trainer', hnext, rfl⟩ := Option.map_eq_some_iff.mp h
    simp only [Process.Sound, hplace] at hprocess
    obtain ⟨hstep, hupload⟩ := Trainer.step_of_batch hphase hnext
    refine hs.setProcess ⟨?_, fun final _ hsaving => absurd hsaving (hupload final)⟩
    rw [hstep]
    exact TrainedTo.batch hprocess.1 batch
  · next step hplace =>
    obtain ⟨_, h⟩ := Option.ite_none_right_eq_some.mp h
    obtain rfl := Option.some.inj h
    simp only [Process.Sound, hplace] at hprocess
    have hmodel : TrainedTo torch (step + 1) (torch.optimizerStep process.model batch) :=
      TrainedTo.batch hprocess batch
    exact hs.setProcess hmodel
  · cases h

/-- The loop of a process moves on without a batch or a trigger. -/
theorem Sound.act_loop {j : Nat} {event : TrainEvent} (hs : t.Sound sha256 stepOf)
    (hmem : process ∈ t.processes)
    (h : t.act args sha256 i process (.loop j event) = some t') : t'.Sound sha256 stepOf := by
  have hprocess := hs.processes process hmem
  simp only [Training.act] at h
  split at h
  · next trainer checkpointId hplace =>
    obtain ⟨hplain, h⟩ := Option.ite_none_right_eq_some.mp h
    obtain ⟨trainer', hnext, rfl⟩ := Option.map_eq_some_iff.mp h
    simp only [Process.Sound, hplace] at hprocess
    obtain ⟨hstep, hupload⟩ := Trainer.kept_of_isPlainLoop hplain hnext
    refine hs.setProcess ⟨by rw [hstep]; exact hprocess.1, ?_⟩
    intro final id hsaving hid
    rw [hstep]
    exact hprocess.2 final id (hupload final hsaving) hid
  · cases h

/-- A process triggers a checkpoint. -/
theorem Sound.act_trigger {j : Nat} {checkpointId : String} {now : Nat}
    (hs : t.Sound sha256 stepOf) (hmem : process ∈ t.processes)
    (h : t.act args sha256 i process (.trigger j checkpointId now) = some t') :
    ∃ stepOf', t'.Sound sha256 stepOf' := by
  simp only [Training.act] at h
  split at h
  · next trainer before hplace =>
    split at h
    · next final hphase =>
      obtain ⟨system, hsystem, h⟩ := Option.bind_eq_some_iff.mp h
      obtain ⟨trainer', hnext, h⟩ := Option.bind_eq_some_iff.mp h
      obtain rfl := Option.some.inj h
      exact ⟨_, hs.trigger hmem hplace hphase hsystem rfl hnext⟩
    · cases h
  · cases h

/-- What a process uploads was trained to the step of its checkpoint. -/
theorem Sound.act_sendShard {j task depth maxDepth now : Nat} {loss : torch.Loss}
    {header : RankHeader} {uuid : String} (hs : t.Sound sha256 stepOf)
    (hmem : process ∈ t.processes)
    (h : t.act args sha256 i process
      (.sendShard j task loss header uuid depth maxDepth now) = some t') :
    ∃ stepOf', t'.Sound sha256 stepOf' := by
  have hprocess := hs.processes process hmem
  simp only [Training.act] at h
  split at h
  · next trainer checkpointId runId id shardId hplace htask =>
    split at h
    · next final hphase =>
      obtain ⟨⟨_, hid, _⟩, hsent⟩ := Option.ite_none_right_eq_some.mp h
      obtain ⟨system, hsystem, rfl⟩ := Option.map_eq_some_iff.mp hsent
      simp only [Process.Sound, hplace] at hprocess
      obtain ⟨_, hstep⟩ := hprocess.2 final checkpointId hphase rfl
      rw [← hid] at hstep
      refine ⟨_, hs.system ?_ hsystem⟩
      intro other body _ _ _ _ runId' id' shardId' hevent hother
      injection hevent with hsame hbody
      subst hsame hbody
      obtain ⟨_, rfl, _⟩ := Task.receiveBody.inj (Option.some.inj (htask.symm.trans hother))
      exact ⟨loss, process.model, by rw [hstep], by rw [hstep]; exact hprocess.1⟩
    · cases h
  · cases h

/-- A step of a process keeps models and steps together. -/
theorem Sound.act {event : TrainingEvent torch} (hs : t.Sound sha256 stepOf)
    (hmem : process ∈ t.processes) (h : t.act args sha256 i process event = some t') :
    ∃ stepOf', t'.Sound sha256 stepOf' := by
  cases event with
  | system event => cases h
  | boot runId rank seed => cases h
  | list _ fault => exact ⟨stepOf, hs.act_list hmem h⟩
  | readCall _ fault => exact ⟨stepOf, hs.act_readCall hmem h⟩
  | downloaded => exact ⟨stepOf, hs.act_downloaded hmem h⟩
  | downloadFailed => exact ⟨stepOf, hs.act_downloadFailed hmem h⟩
  | trainBatch _ batch => exact ⟨stepOf, hs.act_trainBatch hmem h⟩
  | loop _ event => exact ⟨stepOf, hs.act_loop hmem h⟩
  | trigger _ checkpointId now => exact hs.act_trigger hmem h
  | sendShard _ task loss header uuid depth maxDepth now => exact hs.act_sendShard hmem h
  | crash =>
      obtain rfl := Option.some.inj h
      exact ⟨stepOf, hs.setProcess trivial⟩

/-- **Every step keeps models and steps together.** -/
theorem Sound.step {event : TrainingEvent torch} (hs : ∃ stepOf, t.Sound sha256 stepOf)
    (h : t.step args sha256 event = some t') : ∃ stepOf, t'.Sound sha256 stepOf := by
  obtain ⟨stepOf, hs⟩ := hs
  have hact : ∀ j, (t.processes[j]?).bind (fun process => t.act args sha256 j process event) =
      some t' → ∃ stepOf, t'.Sound sha256 stepOf := by
    intro j h
    obtain ⟨process, hprocess, h⟩ := Option.bind_eq_some_iff.mp h
    exact hs.act (List.mem_of_getElem? hprocess) h
  cases event with
  | system event =>
      obtain ⟨hplain, h⟩ := Option.ite_none_left_eq_some.mp h
      obtain ⟨system, hsystem, rfl⟩ := Option.map_eq_some_iff.mp h
      exact ⟨_, hs.system (delivers_of_not_uploadBody (by simpa using hplain)) hsystem⟩
  | boot runId rank seed =>
      obtain rfl := Option.some.inj h
      refine ⟨stepOf, hs.filled, hs.records, ?_⟩
      intro process hmem
      rcases List.mem_append.mp hmem with hold | hnew
      · exact hs.processes process hold
      · obtain rfl := List.mem_singleton.mp hnew
        exact TrainedFor.built seed
  | list j _ | readCall j _ | downloaded j | downloadFailed j | trainBatch j _ | loop j _
  | trigger j _ _ | sendShard j _ _ _ _ _ _ _ | crash j => exact hact j h

end

/-- **The step of a process counts the optimizer steps behind its model.**  Whatever
requests, S3 calls, uploads, commits, aborts and deletions interleave, whatever
fails, and however often processes are killed and started again: a process that
trains at step `n` has a model that has seen exactly `n` optimizer steps since it was
built. -/
theorem trained_for_step (torch : Torch) (args : TrainArgs) (sha256 : Bytes → String)
    (store : KVStore) (autoRecover hasSupervisor : Bool) (events : List (TrainingEvent torch))
    {t : Training torch}
    (hrun : run (step args sha256) (init torch store autoRecover hasSupervisor) events = some t) :
    ∀ process ∈ t.processes, ∀ step, process.step? = some step →
      ∃ n : Nat, step = n ∧ TrainedFor torch n process.model := by
  have hstart : ∃ stepOf, (init torch store autoRecover hasSupervisor).Sound sha256 stepOf :=
    ⟨fun _ => 0, sound_init store autoRecover hasSupervisor⟩
  obtain ⟨stepOf, hs⟩ := run_invariant _ (fun _ _ _ hs h => Sound.step hs h) hstart hrun
  intro process hmem step hstep
  have hprocess := hs.processes process hmem
  unfold Process.step? at hstep
  unfold Process.Sound at hprocess
  split at hstep
  · next trainer checkpointId hplace =>
    rw [hplace] at hprocess
    obtain rfl := Option.some.inj hstep
    exact hprocess.1
  · next other hplace =>
    rw [hplace] at hprocess
    obtain rfl := Option.some.inj hstep
    exact hprocess
  · cases hstep
  · cases hstep
  · cases hstep

/-- A model that consists of its seed and the batches it has seen. -/
def byteTorch : Torch where
  Model := Bytes
  Batch := UInt8
  Loss := Unit
  buildModel := fun seed => [UInt8.ofNat seed]
  optimizerStep := fun model batch => model ++ [batch]
  save := fun _ _ model => 0 :: model
  load := fun body => match body with
    | [] => none
    | _ :: model => some model
  load_save := fun _ _ _ => rfl

/-- Rank 0 trains one step, saves a checkpoint and is killed; it starts again with
another seed, restores the checkpoint and trains another step. -/
def killedOnce : List (TrainingEvent byteTorch) :=
  (System.openEvents.take 2).map .system ++
    [.boot "00000000000000a1" 0 7, .list 0 .none, .loop 0 .go, .loop 0 .batch,
      .trainBatch 0 (1 : UInt8), .trigger 0 "00000000000000c1" 3,
      .system (.uploadBegin "00000000000000a1" "00000000000000c1" "rank-0", 4),
      .sendShard 0 0 () .absent "123e4567-e89b-42d3-a456-426614174000" 0 64 4] ++
    List.replicate 7 (.system (.writeCall 0 .none, 4)) ++
    [.system (.uploadReply 0, 5), .loop 0 (.answer true),
      .system (.commitBegin "00000000000000a1", 7)] ++
    (System.commitEvents 1 0).map .system ++
    [.crash 0, .boot "00000000000000a1" 0 9, .list 1 .none] ++
    List.replicate 3 (.readCall 1 .none) ++
    [.downloaded 1, .loop 1 .go, .loop 1 .batch, .trainBatch 1 (2 : UInt8)]

/-- The processes of that run. -/
def afterKill : Training byteTorch :=
  (run (step ⟨10, 1, false⟩ World.digestOfBody) (init byteTorch .inMemoryKVStore true true)
    killedOnce).get (by decide +kernel)

theorem run_killedOnce :
    run (step ⟨10, 1, false⟩ World.digestOfBody) (init byteTorch .inMemoryKVStore true true)
      killedOnce = some afterKill :=
  (Option.some_get _).symm

/-- The second process stands at step 2, with the batches of both processes. -/
theorem trained_for_step_killed_once :
    ∃ process ∈ afterKill.processes, process.step? = some 2 ∧
      TrainedFor byteTorch 2 process.model := by
  obtain ⟨process, hmem, hstep⟩ :
      ∃ process ∈ afterKill.processes, process.step? = some 2 := by decide +kernel
  obtain ⟨n, hn, htrained⟩ := trained_for_step byteTorch ⟨10, 1, false⟩ World.digestOfBody
    .inMemoryKVStore true true killedOnce run_killedOnce process hmem 2 hstep
  obtain rfl : n = 2 := by omega
  exact ⟨process, hmem, hstep, htrained⟩

/-- **What a checkpoint holds was trained to its step.**  Whenever a shard of a
checkpoint record can be downloaded, whatever calls fail, the body is a state saved
at the step of the record, with as many optimizer steps behind it. -/
theorem downloads_trained (torch : Torch) (args : TrainArgs) (sha256 : Bytes → String)
    (store : KVStore) (autoRecover hasSupervisor : Bool) (events : List (TrainingEvent torch))
    {t : Training torch}
    (hrun : run (step args sha256) (init torch store autoRecover hasSupervisor) events = some t) :
    ∀ info ∈ t.system.server.cp.coordinator.checkpoints.rows, ∀ shardId faults body,
      t.system.server.cp.downloadShard shardId
        ((readShard ⟨shardId, info.checkpointId, info.runId⟩).run bucketService faults
          t.system.bucket).1 = .ok body →
      ∃ loss model, ∃ n : Nat, body = torch.save info.step loss model ∧ info.step = n ∧
        TrainedFor torch n model := by
  have hstart : ∃ stepOf, (init torch store autoRecover hasSupervisor).Sound sha256 stepOf :=
    ⟨fun _ => 0, sound_init store autoRecover hasSupervisor⟩
  obtain ⟨stepOf, hs⟩ := run_invariant _ (fun _ _ _ hs h => Sound.step hs h) hstart hrun
  intro info hinfo shardId faults body hbody
  have hlinked := hs.filled.linked
  have hrecord := getCheckpoint_of_mem hinfo
  have howned := System.owned_of_record hlinked.recorded hrecord rfl
  have hserves := hs.filled.serves (hlinked.id_length howned.run)
    (hlinked.id_length howned.checkpoint)
  rw [← hs.records _ info hrecord] at hserves
  have hkeeps := keeps_readShard (SavedState torch info.step)
    ⟨shardId, info.checkpointId, info.runId⟩ t.system.bucket
  unfold ReadContract at hkeeps
  have hread : ∀ chunks, ((readShard ⟨shardId, info.checkpointId, info.runId⟩).run bucketService
      faults t.system.bucket).1 = .ok chunks →
        SavedState torch info.step (chunks.map (·.data)).flatten := by
    refine (Keeps.run (fun b => Serves (SavedState torch info.step) info.runId
      info.checkpointId b) ?_ ?_ ?_ ?_ hkeeps hserves faults).1
    · exact fun _ h => h
    · exact fun _ _ h hsame => by rwa [hsame]
    · exact fun _ => rfl
    · exact fun _ _ _ h h' => h'.trans h
  have hsaved := savedState_of_downloadShard hread body (by rw [hbody]; rfl)
  obtain ⟨loss, model, hsave, n, hn, htrained⟩ := hsaved
  exact ⟨loss, model, n, hsave, hn, htrained⟩

/-- The checkpoint of the killed process holds its one step. -/
theorem downloads_trained_killed_once :
    ∃ body model, byteTorch.load body = some model ∧ TrainedFor byteTorch 1 model := by
  obtain ⟨info, hinfo, hstep, body, hbody⟩ :
      ∃ info ∈ afterKill.system.server.cp.coordinator.checkpoints.rows, info.step = 1 ∧
        ∃ body ∈ ([[0, 7, 1]] : List Bytes), afterKill.system.server.cp.downloadShard "rank-0"
          ((readShard ⟨"rank-0", info.checkpointId, info.runId⟩).run bucketService
            (fun _ => .none) afterKill.system.bucket).1 = .ok body := by
    decide +kernel
  obtain ⟨_, hbody⟩ := hbody
  obtain ⟨loss, model, n, rfl, hn, htrained⟩ := downloads_trained byteTorch ⟨10, 1, false⟩
    World.digestOfBody .inMemoryKVStore true true killedOnce run_killedOnce info hinfo "rank-0"
    (fun _ => .none) body hbody
  obtain rfl : n = 1 := by omega
  exact ⟨_, model, byteTorch.load_save info.step loss model, htrained⟩

end Training

end CheckpointRuntime
