import CheckpointRuntime.HandlerEffects
import CheckpointRuntime.TrainingHarness
import CheckpointRuntime.Library.Pools

/-!
# Which run do the ranks train?

`_get_or_create_run_id` on rank 0 and on any number of other ranks, with one
shared file and one control plane between them.  Every look at the file and
every request is a step, and anything may happen between two of them; meanwhile
somebody else may move runs along the edges of the table.
-/

namespace CheckpointRuntime

open Coordinator PartialRun

/-! ## The shared file -/

/-- The characters that `str.strip` removes. -/
def isSpace (ch : Char) : Bool :=
  let v := ch.toNat
  decide (9 ≤ v ∧ v ≤ 13) || decide (28 ≤ v ∧ v ≤ 32) || decide (v ∈ [0x85, 0xa0, 0x1680]) ||
    decide (0x2000 ≤ v ∧ v ≤ 0x200a) || decide (v ∈ [0x2028, 0x2029, 0x202f, 0x205f, 0x3000])

/-- `text.strip()`. -/
def strip (text : String) : String :=
  String.ofList (((text.toList.dropWhile isSpace).reverse.dropWhile isSpace).reverse)

/-- The run id in the shared file; it is empty if there is no file. -/
def sharedRunId (file : Option String) : String := (file.map strip).getD ""

/-! ## Rank 0 -/

/-- How far the call has come on rank 0. -/
inductive LeaderCall
  | begun
  | asking (runId : String)
  | resuming (runId : String)
  | creating
  | starting (runId : String)
  | publishing (runId : String)
  | returned (runId : String)
  | raised
deriving DecidableEq, Repr

/-- Where the start of rank 0 is within the call: it registers with the run that
the call has returned. -/
def LeaderCall.of : RankZero → LeaderCall
  | .readRun runId => .asking runId
  | .resumeFirst runId _ => .resuming runId
  | .createRun => .creating
  | .startRun runId => .starting runId
  | .register runId => .returned runId
  | .load _ _ | .resumeLast _ _ | .training _ _ | .failed _ => .raised

/-- `start_run` has answered, or raised. -/
def LeaderCall.afterStart (runId : String) : Except ClientError RunStatus → LeaderCall
  | .error _ => .raised
  | .ok _ => .publishing runId

/-! ## Other ranks -/

/-- How far an iteration of the loop has come. -/
inductive FollowerPhase
  | polling
  | checking (runId : String)
  | sleeping
  | returned (runId : String)
  | raised
deriving DecidableEq, Repr

/-- The run that the call has taken from the file. -/
def FollowerPhase.taken? : FollowerPhase → Option String
  | .checking runId | .returned runId => some runId
  | .polling | .sleeping | .raised => none

/-- A call on another rank. -/
structure FollowerCall where
  lastSeen : String := ""
  attemptsLeft : Nat := 60
  phase : FollowerPhase := .polling
deriving DecidableEq, Repr

namespace FollowerCall

/-- The file has been read. -/
def poll (f : FollowerCall) (file : Option String) : FollowerCall :=
  let runId := sharedRunId file
  if runId ≠ "" ∧ runId ≠ f.lastSeen then { f with phase := .checking runId }
  else { f with phase := .sleeping }

/-- The control plane has answered, or it has not. -/
def check (f : FollowerCall) (runId : String) : Except ClientError RunStatus → FollowerCall
  | .ok status =>
      if status.state ∈ resumableRunStates then { f with phase := .returned runId }
      else { f with lastSeen := runId, phase := .sleeping }
  | .error e =>
      if e.statusCode = some 404 then { f with lastSeen := runId, phase := .sleeping }
      else { f with phase := .sleeping }

/-- `time.sleep(1)`, and the next iteration if there is one. -/
def sleep (f : FollowerCall) : FollowerCall :=
  if f.attemptsLeft ≤ 1 then { f with attemptsLeft := 0, phase := .raised }
  else { f with attemptsLeft := f.attemptsLeft - 1, phase := .polling }

end FollowerCall

/-! ## All of them -/

/-- The ranks, the file and the control plane.  Which run rank 0 has turned down
is known to nobody; it is kept here to speak about it. -/
structure RunSelection where
  cp : ControlPlane
  sharedFile : Option String
  leader : LeaderCall
  rejected : Option String
  followers : List FollowerCall

/-- What may happen next; the other ranks are named by their position. -/
inductive SelectionEvent
  | readShared
  | call (fault : Fault)
  | create (config : RunConfig) (runId : String) (fault : Fault)
  | publish
  | poll (rank : Nat)
  | check (rank : Nat) (fault : Fault)
  | sleep (rank : Nat)
  | moveRun (runId : String) (target : RunState)

namespace RunSelection

/-- Rank 0 and some other ranks begin, whatever is in the file. -/
def init (cp : ControlPlane) (sharedFile : Option String) (others : Nat) : RunSelection where
  cp := cp
  sharedFile := sharedFile
  leader := .begun
  rejected := none
  followers := List.replicate others {}

/-- A request that moves a run, unless it is lost on its way. -/
def setCp (s : RunSelection) (fault : Fault) (cp : ControlPlane) : RunSelection :=
  if fault = .refused then s else { s with cp := cp }

/-- Rank 0 goes on; if it is about to create a run, it has turned down the
shared one. -/
def advance (s : RunSelection) (runId : String) (leader : LeaderCall) : RunSelection :=
  { s with leader := leader, rejected := if leader = .creating then some runId else s.rejected }

def setFollower (s : RunSelection) (rank : Nat) (f : FollowerCall) : RunSelection :=
  { s with followers := s.followers.set rank f }

/-- The next request of rank 0 that has no parameters of its own. -/
def call (s : RunSelection) (fault : Fault) (now : Nat) : Option RunSelection :=
  match s.leader with
  | .asking runId =>
      some (s.advance runId
        (.of (.afterRead runId (clientAnswer fault (s.cp.getRunEndpoint runId)))))
  | .resuming runId =>
      let out := s.cp.resumeRun runId now
      some ((s.setCp fault out.1).advance runId
        (.of (.afterResumeFirst runId (clientAnswer fault out.2))))
  | .starting runId =>
      let out := s.cp.startRun runId now
      some { s.setCp fault out.1 with leader := .afterStart runId (clientAnswer fault out.2) }
  | _ => none

/-- Let one thing happen, if it can. -/
def step (s : RunSelection) (event : SelectionEvent × Nat) : Option RunSelection :=
  match event.1 with
  | .readShared =>
      if s.leader = .begun then some { s with leader := .of (.begin "" (sharedRunId s.sharedFile)) }
      else none
  | .call fault => s.call fault event.2
  | .create config runId fault =>
      if s.leader = .creating ∧ isHexId runId = true ∧ s.cp.coordinator.getRun runId = none then
        some { s.setCp fault (s.cp.createRun config runId event.2).1 with
          leader := if fault = .none then .starting runId else .raised }
      else
        none
  | .publish =>
      match s.leader with
      | .publishing runId => some { s with sharedFile := some runId, leader := .returned runId }
      | _ => none
  | .poll rank => do
      let f ← s.followers[rank]?
      if f.phase = .polling then some (s.setFollower rank (f.poll s.sharedFile)) else none
  | .check rank fault => do
      let f ← s.followers[rank]?
      match f.phase with
      | .checking runId =>
          some (s.setFollower rank (f.check runId
            (clientAnswer fault (s.cp.getRunEndpoint runId))))
      | _ => none
  | .sleep rank => do
      let f ← s.followers[rank]?
      if f.phase = .sleeping then some (s.setFollower rank f.sleep) else none
  | .moveRun runId target =>
      let (coordinator, moved) := s.cp.coordinator.transitionRun runId target event.2
      match moved with
      | .ok _ => some { s with cp := { s.cp with coordinator := coordinator } }
      | .error _ => none

/-- If rank 0 and another rank have returned a run id, it is the same one. -/
def Agree (s : RunSelection) : Prop :=
  ∀ f ∈ s.followers, ∀ runId, f.phase = .returned runId →
    ∀ leading, s.leader = .returned leading → runId = leading

/-- The run can be resumed. -/
def Resumable (s : RunSelection) (runId : String) : Prop :=
  ∃ state ∈ s.cp.coordinator.runState runId, state ∈ resumableRunStates

instance (s : RunSelection) (runId : String) : Decidable (s.Resumable runId) :=
  inferInstanceAs (Decidable (∃ state ∈ s.cp.coordinator.runState runId, _))

/-- The run that rank 0 is about to ask about. -/
def asked? (s : RunSelection) : Option String :=
  match s.leader with
  | .asking runId => some runId
  | _ => none

/-- The run that another rank is about to ask about. -/
def checked? (s : RunSelection) (rank : Nat) : Option String :=
  match s.followers[rank]? with
  | some { phase := .checking runId, .. } => some runId
  | _ => none

/-- The ranks find the run of the shared file alike: when rank 0 learns that it
cannot be resumed no other rank has taken it, and no other rank learns that a run
can be resumed which rank 0 has turned down. -/
def FindAlike (s : RunSelection) (event : SelectionEvent × Nat) : Prop :=
  match event.1 with
  | .call .none =>
      ∀ runId ∈ s.asked?, ¬ s.Resumable runId → ∀ f ∈ s.followers, f.phase ≠ .returned runId
  | .check rank .none =>
      ∀ runId ∈ s.checked? rank, s.Resumable runId → s.rejected = some runId →
        s.leader = .returned runId
  | _ => True

instance (s : RunSelection) (event : SelectionEvent × Nat) : Decidable (s.FindAlike event) := by
  unfold FindAlike
  split <;> infer_instance

end RunSelection

/-! ## What a step can do -/

theorem mem_resumable {s : RunSelection} {runId : String} {status : RunStatus}
    (hrun : s.cp.coordinator.getRun runId = some status) :
    s.Resumable runId ↔ status.state ∈ resumableRunStates := by
  simp [RunSelection.Resumable, runState, hrun]

/-- What rank 0 does once it has asked about a run. -/
theorem LeaderCall.afterRead_cases (s : RunSelection) (fault : Fault) (runId : String) :
    let next := LeaderCall.of
      (.afterRead runId (clientAnswer fault (s.cp.getRunEndpoint runId)))
    next = .returned runId ∨ next = .raised ∨
      (next = .resuming runId ∧ s.cp.coordinator.getRun runId ≠ none) ∨
      (next = .creating ∧ fault = .none ∧ ¬ s.Resumable runId) := by
  cases fault with
  | refused => exact Or.inr (Or.inl rfl)
  | lost => exact Or.inr (Or.inl rfl)
  | none =>
      cases hrun : s.cp.coordinator.getRun runId with
      | none =>
          refine Or.inr (Or.inr (Or.inr ⟨?_, rfl, ?_⟩))
          · rw [ControlPlane.getRunEndpoint, hrun]
            rfl
          · simp [RunSelection.Resumable, runState, hrun]
      | some status =>
          rw [ControlPlane.getRunEndpoint, hrun, mem_resumable hrun]
          simp only [clientAnswer, Except.mapError, RankZero.afterRead]
          by_cases hres : status.state ∈ resumableRunStates
          · rw [if_pos hres]
            by_cases hfirst : status.state ∈ resumedFirst
            · rw [if_pos hfirst]
              exact Or.inr (Or.inr (Or.inl ⟨rfl, Option.some_ne_none _⟩))
            · rw [if_neg hfirst]
              exact Or.inl rfl
          · rw [if_neg hres]
            exact Or.inr (Or.inr (Or.inr ⟨rfl, trivial, hres⟩))

/-- Resuming a run that exists never answers that it is missing. -/
theorem ControlPlane.resumeRun_found {cp : ControlPlane} {runId : String}
    (hrun : cp.coordinator.getRun runId ≠ none) {now : Nat} {e : HttpException}
    (h : (cp.resumeRun runId now).2 = .error e) : e.statusCode ≠ 404 := by
  obtain ⟨status, hstatus⟩ := Option.ne_none_iff_exists'.mp hrun
  have herror : ∀ e', (transitionError e').statusCode ≠ 404 := by
    intro e'
    cases e' <;> simp [transitionError, internalServerError]
  simp only [resumeRun, hstatus] at h
  split at h
  · next e' _ =>
    obtain rfl := Except.error.inj h
    exact herror e'
  · split at h <;> cases h

theorem LeaderCall.afterResume_cases {cp : ControlPlane} {runId : String}
    (hrun : cp.coordinator.getRun runId ≠ none) (fault : Fault) (now : Nat) :
    let next := LeaderCall.of
      (.afterResumeFirst runId (clientAnswer fault (cp.resumeRun runId now).2))
    next = .returned runId ∨ next = .raised := by
  cases fault with
  | refused => exact Or.inr rfl
  | lost => exact Or.inr rfl
  | none =>
      cases hout : (cp.resumeRun runId now).2 with
      | ok status => exact Or.inl rfl
      | error e =>
          have hfound : e.statusCode ≠ 404 := ControlPlane.resumeRun_found hrun hout
          simp only [clientAnswer, Except.mapError, RankZero.afterResumeFirst,
            RankZero.sharedRunError, ClientError.statusCode, Option.some.injEq, if_neg hfound]
          exact Or.inr rfl

/-- A request moves runs, but none disappears. -/
theorem getRun_moveRun_ne_none {c : Coordinator} {runId : String}
    (hrun : c.getRun runId ≠ none) (moved : String) (target : RunState)
    (edit : RunStatus → RunStatus) (now : Nat) :
    (c.moveRun moved target edit now).1.getRun runId ≠ none := by
  unfold moveRun
  split
  · exact hrun
  · dsimp only
    split
    · exact hrun
    · rw [getRun_persistRun]
      split
      · exact Option.some_ne_none _
      · exact hrun

theorem Coordinator.Edited.getRun_ne_none {c d : Coordinator} (h : c.Edited d) (runId : String)
    (hrun : c.getRun runId ≠ none) : d.getRun runId ≠ none := by
  induction h with
  | refl => exact hrun
  | checkpoint _ checkpointId state summary now ih =>
      rw [getRun_updateCheckpointState]
      exact ih
  | run _ moved target edit _ _ now ih => exact getRun_moveRun_ne_none ih moved target edit now

/-- Stripping changes no id that `uuid4` hands out. -/
theorem strip_of_isHexId {runId : String} (h : isHexId runId = true) : strip runId = runId := by
  have hspace : ∀ ch ∈ runId.toList, isSpace ch = false := by
    intro ch hch
    rw [isHexId, Bool.and_eq_true, List.all_eq_true] at h
    have hhex := h.2 ch hch
    simp only [Char.isDigit, Char.le_def, UInt32.le_iff_toNat_le, Bool.or_eq_true,
      Bool.and_eq_true, decide_eq_true_eq] at hhex
    simp only [isSpace, Char.toNat, Bool.or_eq_false_iff, decide_eq_false_iff_not,
      List.mem_cons, List.not_mem_nil, or_false]
    simp only [UInt32.reduceToNat, Char.reduceVal] at hhex
    omega
  have hdrop : ∀ chars : List Char, (∀ ch ∈ chars, isSpace ch = false) →
      chars.dropWhile isSpace = chars := by
    intro chars hchars
    cases chars with
    | nil => rfl
    | cons ch rest => rw [List.dropWhile_cons, hchars ch List.mem_cons_self]; rfl
  rw [strip, hdrop _ hspace, hdrop _ fun ch hch => hspace ch (List.mem_reverse.mp hch),
    List.reverse_reverse, String.ofList_toList]

/-! ## The calls and the file -/

namespace RunSelection

/-- Rank 0 has turned down the run of the shared file, if there was one. -/
def TurnedDown (shared : Option String) (s : RunSelection) : Prop :=
  s.rejected = some (sharedRunId shared) ∨ sharedRunId shared = ""

/-- What rank 0 knows of the file that it has found. -/
def LeaderFits (shared : Option String) (s : RunSelection) : Prop :=
  match s.leader with
  | .begun | .raised => s.sharedFile = shared
  | .asking runId => s.sharedFile = shared ∧ runId = sharedRunId shared
  | .resuming runId =>
      s.sharedFile = shared ∧ runId = sharedRunId shared ∧ s.cp.coordinator.getRun runId ≠ none
  | .creating => s.sharedFile = shared ∧ s.TurnedDown shared
  | .starting runId | .publishing runId =>
      s.sharedFile = shared ∧ s.TurnedDown shared ∧ strip runId = runId
  | .returned runId =>
      s.sharedFile = shared ∧ runId = sharedRunId shared ∨
        s.sharedFile = some runId ∧ s.TurnedDown shared ∧ strip runId = runId

/-- Every rank has its run from the file as it was, or as rank 0 has written it;
and a rank that has returned a run that rank 0 has turned down has it from rank 0. -/
structure Settled (shared : Option String) (s : RunSelection) : Prop where
  leader : s.LeaderFits shared
  taken : ∀ f ∈ s.followers, ∀ runId ∈ f.phase.taken?,
    runId ≠ "" ∧ (runId = sharedRunId shared ∨ s.leader = .returned runId)
  turnedDown : ∀ f ∈ s.followers, ∀ runId, f.phase = .returned runId →
    s.rejected = some runId → s.leader = .returned runId

theorem settled_init (cp : ControlPlane) (shared : Option String) (others : Nat) :
    (init cp shared others).Settled shared where
  leader := rfl
  taken f hf runId htaken := by
    rw [List.eq_of_mem_replicate hf] at htaken
    cases htaken
  turnedDown f hf runId hreturned := by
    rw [List.eq_of_mem_replicate hf] at hreturned
    cases hreturned

theorem Settled.agree {shared : Option String} {s : RunSelection} (h : s.Settled shared) :
    s.Agree := by
  intro f hf runId hreturned leading hleading
  obtain ⟨hne, hold | hnew⟩ := h.taken f hf runId (by rw [hreturned]; rfl)
  · have hleader := h.leader
    simp only [LeaderFits, hleading] at hleader
    rcases hleader with ⟨_, hkept⟩ | ⟨_, hdown | hempty, _⟩
    · exact hold.trans hkept.symm
    · -- rank 0 has turned the run down, and this rank has it all the same
      have hagain := h.turnedDown f hf runId hreturned (hold ▸ hdown)
      rw [hleading, LeaderCall.returned.injEq] at hagain
      exact hagain.symm
    · exact absurd (hold.trans hempty) hne
  · rw [hleading, LeaderCall.returned.injEq] at hnew
    exact hnew.symm

/-- Nothing that the calls know is lost when runs move. -/
theorem Settled.setCp {shared : Option String} {s : RunSelection} (h : s.Settled shared)
    {cp : ControlPlane} (hkept : ∀ runId, s.cp.coordinator.getRun runId ≠ none →
      cp.coordinator.getRun runId ≠ none) : Settled shared { s with cp := cp } where
  leader := by
    have hleader := h.leader
    cases hphase : s.leader with
    | resuming runId =>
        simp only [LeaderFits, hphase] at hleader ⊢
        exact ⟨hleader.1, hleader.2.1, hkept runId hleader.2.2⟩
    | _ =>
        simp only [LeaderFits, hphase] at hleader ⊢
        exact hleader
  taken := h.taken
  turnedDown := h.turnedDown

/-- While rank 0 has not returned, no other rank has a run from it, and none has
returned a run that rank 0 has turned down. -/
theorem Settled.goOn {shared : Option String} {s : RunSelection} (h : s.Settled shared)
    (hrunning : ∀ runId, s.leader ≠ .returned runId) {leader : LeaderCall} {file : Option String}
    (hfits : LeaderFits shared { s with leader := leader, sharedFile := file }) :
    Settled shared { s with leader := leader, sharedFile := file } where
  leader := hfits
  taken f hf runId htaken := by
    obtain ⟨hne, hold | hnew⟩ := h.taken f hf runId htaken
    · exact ⟨hne, Or.inl hold⟩
    · exact absurd hnew (hrunning runId)
  turnedDown f hf runId hreturned hrejected :=
    absurd (h.turnedDown f hf runId hreturned hrejected) (hrunning runId)

/-- A step of another rank that has its run from the file. -/
theorem Settled.setFollower {shared : Option String} {s : RunSelection} (h : s.Settled shared)
    {rank : Nat} {f : FollowerCall}
    (htaken : ∀ runId ∈ f.phase.taken?,
      runId ≠ "" ∧ (runId = sharedRunId shared ∨ s.leader = .returned runId))
    (hdown : ∀ runId, f.phase = .returned runId → s.rejected = some runId →
      s.leader = .returned runId) : (s.setFollower rank f).Settled shared where
  leader := h.leader
  taken g hg := by
    rcases (List.mem_or_eq_of_mem_set hg).symm with rfl | hg
    · exact htaken
    · exact h.taken g hg
  turnedDown g hg := by
    rcases (List.mem_or_eq_of_mem_set hg).symm with rfl | hg
    · exact hdown
    · exact h.turnedDown g hg

theorem Settled.setFollower_none {shared : Option String} {s : RunSelection}
    (h : s.Settled shared) {rank : Nat} {f : FollowerCall} (hnone : f.phase.taken? = none) :
    (s.setFollower rank f).Settled shared := by
  refine h.setFollower ?_ ?_
  · intro runId htaken
    rw [hnone] at htaken
    cases htaken
  · intro runId hreturned
    rw [hreturned] at hnone
    cases hnone

/-- The file names the run that it named at first, or the one that rank 0 has
returned. -/
theorem Settled.sharedRunId_eq {shared : Option String} {s : RunSelection}
    (h : s.Settled shared) :
    sharedRunId s.sharedFile = sharedRunId shared ∨
      s.leader = .returned (sharedRunId s.sharedFile) := by
  have hleader := h.leader
  cases hphase : s.leader with
  | returned runId =>
      simp only [LeaderFits, hphase] at hleader
      rcases hleader with ⟨hfile, _⟩ | ⟨hfile, _, hstrip⟩
      · exact Or.inl (by rw [hfile])
      · right
        rw [hfile]
        simp [sharedRunId, hstrip]
  | begun | raised =>
      simp only [LeaderFits, hphase] at hleader
      exact Or.inl (by rw [hleader])
  | asking runId | resuming runId | creating | starting runId | publishing runId =>
      simp only [LeaderFits, hphase] at hleader
      exact Or.inl (by rw [hleader.1])

theorem Settled.advance {shared : Option String} {s : RunSelection} (h : s.Settled shared)
    (hrunning : ∀ r, s.leader ≠ .returned r) {runId : String} {leader : LeaderCall}
    (hne : leader ≠ .creating) (hfits : LeaderFits shared { s with leader := leader }) :
    (s.advance runId leader).Settled shared := by
  rw [RunSelection.advance, if_neg hne]
  exact h.goOn hrunning hfits

theorem Settled.request {shared : Option String} {s : RunSelection} (h : s.Settled shared)
    (fault : Fault) (cp : ControlPlane) (hkept : ∀ runId,
      s.cp.coordinator.getRun runId ≠ none → cp.coordinator.getRun runId ≠ none) :
    (s.setCp fault cp).Settled shared := by
  rw [RunSelection.setCp]
  split
  · exact h
  · exact h.setCp hkept

@[simp] theorem leader_setCp (s : RunSelection) (fault : Fault) (cp : ControlPlane) :
    (s.setCp fault cp).leader = s.leader := by
  rw [setCp]
  split <;> rfl

@[simp] theorem sharedFile_setCp (s : RunSelection) (fault : Fault) (cp : ControlPlane) :
    (s.setCp fault cp).sharedFile = s.sharedFile := by
  rw [setCp]
  split <;> rfl

@[simp] theorem rejected_setCp (s : RunSelection) (fault : Fault) (cp : ControlPlane) :
    (s.setCp fault cp).rejected = s.rejected := by
  rw [setCp]
  split <;> rfl

/-- Rank 0 learns about the shared run. -/
theorem Settled.ask {shared : Option String} {s : RunSelection} (h : s.Settled shared)
    {runId : String} (hphase : s.leader = .asking runId) {fault : Fault} {now : Nat}
    (halike : s.FindAlike (.call fault, now)) :
    (s.advance runId (.of (.afterRead runId
      (clientAnswer fault (s.cp.getRunEndpoint runId))))).Settled shared := by
  have hrunning : ∀ r, s.leader ≠ .returned r := by
    intro r hr
    rw [hphase] at hr
    cases hr
  have hleader := h.leader
  simp only [LeaderFits, hphase] at hleader
  obtain ⟨hfile, hrun⟩ := hleader
  rcases LeaderCall.afterRead_cases s fault runId with
    hnext | hnext | ⟨hnext, hexists⟩ | ⟨hnext, hfault, hnot⟩ <;> rw [hnext]
  · exact h.advance hrunning nofun (Or.inl ⟨hfile, hrun⟩)
  · exact h.advance hrunning nofun hfile
  · exact h.advance hrunning nofun ⟨hfile, hrun, hexists⟩
  · -- it turns the run down, which no other rank has taken
    rw [hfault] at halike
    have hfree := halike runId (by rw [asked?, hphase]; rfl) hnot
    refine ⟨⟨hfile, Or.inl ?_⟩, ?_, ?_⟩
    · simp [RunSelection.advance, hrun]
    · intro f hf r hr
      obtain ⟨hne, hold | hnew⟩ := h.taken f hf r hr
      · exact ⟨hne, Or.inl hold⟩
      · exact absurd hnew (hrunning r)
    · intro f hf r hreturned hrejected
      obtain rfl : runId = r := by simpa [RunSelection.advance] using hrejected
      exact absurd hreturned (hfree f hf)

theorem Settled.resume {shared : Option String} {s : RunSelection} (h : s.Settled shared)
    {runId : String} (hphase : s.leader = .resuming runId) (fault : Fault) (now : Nat) :
    ((s.setCp fault (s.cp.resumeRun runId now).1).advance runId (.of (.afterResumeFirst runId
      (clientAnswer fault (s.cp.resumeRun runId now).2)))).Settled shared := by
  have hleader := h.leader
  simp only [LeaderFits, hphase] at hleader
  obtain ⟨hfile, hrun, hexists⟩ := hleader
  have hmoved := h.request fault (s.cp.resumeRun runId now).1
    (ControlPlane.edited_resumeRun s.cp runId now).getRun_ne_none
  have hrunning : ∀ r, (s.setCp fault (s.cp.resumeRun runId now).1).leader ≠ .returned r := by
    intro r hr
    rw [leader_setCp, hphase] at hr
    cases hr
  rcases LeaderCall.afterResume_cases hexists fault now with hnext | hnext <;>
    rw [hnext]
  · exact hmoved.advance hrunning nofun (Or.inl ⟨by simp [hfile], hrun⟩)
  · exact hmoved.advance hrunning nofun (by simp [LeaderFits, hfile])

theorem Settled.start {shared : Option String} {s : RunSelection} (h : s.Settled shared)
    {runId : String} (hphase : s.leader = .starting runId) (fault : Fault) (now : Nat) :
    Settled shared { s.setCp fault (s.cp.startRun runId now).1 with
      leader := .afterStart runId (clientAnswer fault (s.cp.startRun runId now).2) } := by
  have hleader := h.leader
  simp only [LeaderFits, hphase] at hleader
  obtain ⟨hfile, hdown, hstrip⟩ := hleader
  have hmoved := h.request fault (s.cp.startRun runId now).1
    fun r hr => getRun_moveRun_ne_none hr runId .running id now
  refine hmoved.goOn ?_ ?_
  · intro r hr
    rw [leader_setCp, hphase] at hr
    cases hr
  · cases clientAnswer fault (s.cp.startRun runId now).2 with
    | error e => simp [LeaderFits, LeaderCall.afterStart, hfile]
    | ok status =>
        simpa [LeaderFits, LeaderCall.afterStart, hfile, TurnedDown, hstrip] using hdown

theorem Settled.create {shared : Option String} {s : RunSelection} (h : s.Settled shared)
    (hphase : s.leader = .creating) {runId : String} (hhex : isHexId runId = true)
    (config : RunConfig) (fault : Fault) (now : Nat) :
    Settled shared { s.setCp fault (s.cp.createRun config runId now).1 with
      leader := if fault = .none then .starting runId else .raised } := by
  have hleader := h.leader
  simp only [LeaderFits, hphase] at hleader
  obtain ⟨hfile, hdown⟩ := hleader
  have hmoved := h.request fault (s.cp.createRun config runId now).1 (by
    intro r hr
    simp only [ControlPlane.createRun, createRun, getRun_persistRun, getRun_cacheFsm]
    split
    · exact Option.some_ne_none _
    · exact hr)
  refine hmoved.goOn ?_ ?_
  · intro r hr
    rw [leader_setCp, hphase] at hr
    cases hr
  · split
    · simpa [LeaderFits, hfile, TurnedDown, strip_of_isHexId hhex] using hdown
    · simp [LeaderFits, hfile]

theorem Settled.publish {shared : Option String} {s : RunSelection} (h : s.Settled shared)
    {runId : String} (hphase : s.leader = .publishing runId) :
    Settled shared { s with sharedFile := some runId, leader := .returned runId } := by
  have hleader := h.leader
  simp only [LeaderFits, hphase] at hleader
  refine h.goOn ?_ (Or.inr ⟨rfl, hleader.2⟩)
  intro r hr
  rw [hphase] at hr
  cases hr

theorem Settled.poll {shared : Option String} {s : RunSelection} (h : s.Settled shared)
    (rank : Nat) (f : FollowerCall) :
    (s.setFollower rank (f.poll s.sharedFile)).Settled shared := by
  unfold FollowerCall.poll
  dsimp only
  split
  · next hnew =>
    refine h.setFollower ?_ nofun
    intro runId htaken
    obtain rfl := Option.some.inj htaken
    exact ⟨hnew.1, h.sharedRunId_eq⟩
  · exact h.setFollower_none rfl

/-- Another rank learns about a run. -/
theorem Settled.check {shared : Option String} {s : RunSelection} (h : s.Settled shared)
    {rank : Nat} {f : FollowerCall} (hf : s.followers[rank]? = some f) {runId : String}
    (hphase : f.phase = .checking runId) {fault : Fault} {now : Nat}
    (halike : s.FindAlike (.check rank fault, now)) :
    (s.setFollower rank (f.check runId
      (clientAnswer fault (s.cp.getRunEndpoint runId)))).Settled shared := by
  cases hanswer : clientAnswer fault (s.cp.getRunEndpoint runId) with
  | error e =>
      simp only [FollowerCall.check]
      split <;> exact h.setFollower_none rfl
  | ok status =>
      simp only [FollowerCall.check]
      split
      · next hstate =>
        refine h.setFollower ?_ ?_
        · intro r hr
          obtain rfl := Option.some.inj hr
          exact h.taken f (List.mem_of_getElem? hf) runId (by rw [hphase]; rfl)
        · intro r hr
          obtain rfl := FollowerPhase.returned.inj hr
          cases fault with
          | refused | lost => cases hanswer
          | none =>
              have hrun : s.cp.coordinator.getRun runId = some status := by
                rw [ControlPlane.getRunEndpoint] at hanswer
                split at hanswer
                · cases hanswer
                · next hrun => rw [hrun, Except.ok.inj hanswer]
              refine halike runId ?_ ((mem_resumable hrun).mpr hstate)
              obtain ⟨lastSeen, attemptsLeft, phase⟩ := f
              obtain rfl : phase = .checking runId := hphase
              rw [checked?, hf]
              rfl
      · exact h.setFollower_none rfl

/-- A step at which the ranks find the run alike keeps what they know of it. -/
theorem Settled.step {shared : Option String} {s s' : RunSelection} (h : s.Settled shared)
    {event : SelectionEvent × Nat} (halike : s.FindAlike event)
    (hstep : RunSelection.step s event = some s') : s'.Settled shared := by
  obtain ⟨e, now⟩ := event
  cases e with
  | readShared =>
      obtain ⟨hphase, hsome⟩ := Option.ite_none_right_eq_some.mp hstep
      obtain rfl := Option.some.inj hsome
      have hleader := h.leader
      simp only [LeaderFits, hphase] at hleader
      refine h.goOn ?_ ?_
      · intro r hr
        rw [hphase] at hr
        cases hr
      · rw [hleader, RankZero.begin, if_neg (by simp)]
        by_cases hempty : sharedRunId shared = ""
        · rw [if_neg (by simp [hempty])]
          exact ⟨rfl, Or.inr hempty⟩
        · rw [if_pos hempty]
          exact ⟨rfl, rfl⟩
  | call fault =>
      simp only [RunSelection.step, call] at hstep
      cases hphase : s.leader with
      | asking runId =>
          rw [hphase] at hstep
          obtain rfl := Option.some.inj hstep
          exact h.ask hphase halike
      | resuming runId =>
          rw [hphase] at hstep
          obtain rfl := Option.some.inj hstep
          exact h.resume hphase fault now
      | starting runId =>
          rw [hphase] at hstep
          obtain rfl := Option.some.inj hstep
          exact h.start hphase fault now
      | begun | creating | publishing | returned | raised =>
          rw [hphase] at hstep
          cases hstep
  | create config runId fault =>
      obtain ⟨⟨hphase, hhex, _⟩, hsome⟩ := Option.ite_none_right_eq_some.mp hstep
      obtain rfl := Option.some.inj hsome
      exact h.create hphase hhex config fault now
  | publish =>
      simp only [RunSelection.step] at hstep
      split at hstep
      · next runId hphase =>
        obtain rfl := Option.some.inj hstep
        exact h.publish hphase
      · cases hstep
  | poll rank =>
      obtain ⟨f, _, hrest⟩ := Option.bind_eq_some_iff.mp hstep
      obtain ⟨_, hsome⟩ := Option.ite_none_right_eq_some.mp hrest
      obtain rfl := Option.some.inj hsome
      exact h.poll rank f
  | check rank fault =>
      obtain ⟨f, hf, hrest⟩ := Option.bind_eq_some_iff.mp hstep
      split at hrest
      · next runId hphase =>
        obtain rfl := Option.some.inj hrest
        exact h.check hf hphase halike
      · cases hrest
  | sleep rank =>
      obtain ⟨f, _, hrest⟩ := Option.bind_eq_some_iff.mp hstep
      obtain ⟨_, hsome⟩ := Option.ite_none_right_eq_some.mp hrest
      obtain rfl := Option.some.inj hsome
      apply h.setFollower_none
      unfold FollowerCall.sleep
      split <;> rfl
  | moveRun runId target =>
      simp only [RunSelection.step] at hstep
      split at hstep
      · obtain rfl := Option.some.inj hstep
        exact h.setCp fun r hr => getRun_moveRun_ne_none hr runId target id now
      · cases hstep

/-! ## Do the ranks agree? -/

/-- **Agreement.**  Whatever is in the shared file and however the calls of rank 0
and of any number of other ranks are interleaved: while the ranks find the run of
the file alike, rank 0 and another rank never return different runs. -/
theorem ranks_agree (cp : ControlPlane) (shared : Option String) (others : Nat)
    (events : List (SelectionEvent × Nat))
    (h : Guarded step FindAlike (init cp shared others) events) :
    Throughout step Agree (init cp shared others) events :=
  throughout_of_guarded step (fun _ _ _ hs halike hstep => hs.step halike hstep)
    (fun _ hs => hs.agree) (settled_init cp shared others) h

/-- The control plane after a run has been created, has started, and has perhaps
ended. -/
def afterRun (ended : Bool) : ControlPlane :=
  let cp := ((ControlPlane.init .inMemoryKVStore).createRun pairRun "00000000000000a1" 1).1
  let cp := (cp.startRun "00000000000000a1" 2).1
  if ended then (cp.completeRun "00000000000000a1" 3).1 else cp

/-- Rank 0 turns down the run of the file and publishes a new one, which it
starts. -/
def replaceRun : List (SelectionEvent × Nat) :=
  [(.call .none, 11), (.create pairRun "00000000000000b2" .none, 12), (.call .none, 13),
    (.publish, 14)]

/-- The other rank turns the completed run down as well and waits for the new
one. -/
def completedRunReplaced : List (SelectionEvent × Nat) :=
  [(.readShared, 4), (.poll 0, 5), (.check 0 .none, 6), (.sleep 0, 7)] ++ replaceRun ++
    [(.poll 0, 15), (.check 0 .none, 16)]

/-- How far the calls have come. -/
def calls (s : RunSelection) : LeaderCall × List FollowerPhase :=
  (s.leader, s.followers.map (·.phase))

theorem ranks_agree_on_the_new_run :
    (run step (init (afterRun true) (some "00000000000000a1\n") 1) completedRunReplaced).map calls =
        some (.returned "00000000000000b2", [.returned "00000000000000b2"]) ∧
      Throughout step Agree (init (afterRun true) (some "00000000000000a1\n") 1)
        completedRunReplaced :=
  ⟨by decide +kernel, ranks_agree _ _ _ _ (by decide +kernel)⟩

/-- The other rank takes the running run of the file, the run is completed, and
then rank 0 asks about it. -/
def completedBetween : List (SelectionEvent × Nat) :=
  [(.poll 0, 3), (.check 0 .none, 4), (.moveRun "00000000000000a1" .completed, 5),
    (.readShared, 6)] ++ replaceRun

theorem ranks_disagree :
    ¬ ∀ (cp : ControlPlane) (shared : Option String) (others : Nat)
      (events : List (SelectionEvent × Nat)),
      Throughout step Agree (init cp shared others) events := by
  intro hall
  have hcalls : (run step (init (afterRun false) (some "00000000000000a1") 1)
      completedBetween).map calls =
        some (.returned "00000000000000b2", [.returned "00000000000000a1"]) := by
    decide +kernel
  obtain ⟨s, hrun, hs⟩ := Option.map_eq_some_iff.mp hcalls
  obtain ⟨hleader, hfollowers⟩ := Prod.mk.inj hs
  have hagree := (hall _ _ _ completedBetween).at_end step hrun
  have hmem : .returned "00000000000000a1" ∈ s.followers.map (·.phase) := by
    rw [hfollowers]
    exact List.mem_singleton.mpr rfl
  obtain ⟨f, hf, hphase⟩ := List.mem_map.mp hmem
  exact absurd (hagree f hf _ hphase _ hleader) (by decide)

end RunSelection

end CheckpointRuntime
