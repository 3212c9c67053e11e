import CheckpointRuntime.TrainingHarness
import CheckpointRuntime.SystemRecords

/-!
# Is a recovering run resumed only after a restore?

A rank 0 that starts up, next to everything else that the system may do except
that somebody else resumes a run.  What `resume_run` does depends on the state
it finds, and rank 0 decides whether to call it from a state that it read
before; so the run leaves `RECOVERING` early exactly when its first resume, or
a start, finds it there.
-/

namespace CheckpointRuntime

open Coordinator ControlPlane PartialRun

/-- The system and a rank 0 that is starting up. -/
structure Startup where
  system : System
  rank0 : RankZero

/-- Something else happens, or rank 0 does its next thing: a request without
parameters of its own, the creation of a run, its registration, or a download. -/
inductive StartupEvent
  | other (event : Event)
  | call (fault : Fault)
  | create (config : RunConfig) (runId : String) (fault : Fault)
  | register (registered : Bool)
  | shard (outcome : ShardOutcome)

namespace Startup

/-- A request that moves a run and tells rank 0 how to go on. -/
def serve (s : Startup) (fault : Fault) (out : ControlPlane × Except HttpException RunStatus)
    (next : Except ClientError RunStatus → RankZero) : Startup where
  system := if fault = .refused then s.system else s.system.setCp out.1
  rank0 := next (clientAnswer fault out.2)

/-- The next request of rank 0 that has no parameters of its own. -/
def call (s : Startup) (fault : Fault) (now : Nat) : Option Startup :=
  let cp := s.system.server.cp
  match s.rank0 with
  | .readRun runId =>
      some { s with rank0 := .afterRead runId (clientAnswer fault (cp.getRunEndpoint runId)) }
  | .resumeFirst runId _ =>
      some (s.serve fault (cp.resumeRun runId now) (.afterResumeFirst runId))
  | .startRun runId =>
      some (s.serve fault (cp.startRun runId now) (.afterStart runId))
  | .load runId .listing =>
      some { s with
        rank0 := .afterRestore runId (.list (clientAnswer fault (cp.listRunCheckpoints runId))) }
  | .resumeLast runId startStep =>
      some (s.serve fault (cp.resumeRun runId now) (.afterResumeLast runId startStep))
  | _ => none

/-- Let one thing happen, if it can; nobody but rank 0 resumes a run. -/
def step (sha256 : Bytes → String) (s : Startup) (event : StartupEvent × Nat) : Option Startup :=
  let now := event.2
  match event.1 with
  | .other (.request (.resume _)) => none
  | .other e => (s.system.step sha256 (e, now)).map fun system => { s with system := system }
  | .call fault => s.call fault now
  | .create config runId fault =>
      match s.rank0, fault with
      | .createRun, .refused => some { s with rank0 := .failed none }
      | .createRun, fault =>
          (s.system.server.handle now (.createRun config runId)).map fun server =>
            { system := { s.system with server := server }
              rank0 := if fault = .lost then .failed none else .startRun runId }
      | _, _ => none
  | .register registered =>
      match s.rank0 with
      | .register runId =>
          some { s with rank0 := if registered then .load runId .listing else .failed none }
      | _ => none
  | .shard outcome =>
      match s.rank0 with
      | .load runId (.loading checkpoint fallback) =>
          some { s with rank0 := .afterRestore runId (.shard 0 checkpoint fallback outcome) }
      | _ => none

/-- The state of a run. -/
def runState (s : Startup) (runId : String) : Option RunState :=
  s.system.server.cp.coordinator.runState runId

/-- The run leaves `RECOVERING` for `RUNNING` before rank 0 has restored it. -/
def ResumedEarly (runId : String) (s s' : Startup) : Prop :=
  s.runState runId = some .recovering ∧ s'.runState runId = some .running ∧
    s.rank0.hasRestored runId = false

/-- The run that the next request of rank 0 may take to `RUNNING` before it is
restored. -/
def early? : RankZero → Option String
  | .resumeFirst runId _ | .startRun runId => some runId
  | _ => none

/-- A first resume of rank 0 that reaches the control plane, and a start that
comes before the restore, do not find the run in `RECOVERING`. -/
def FindsSettled (runId : String) (s : Startup) (event : StartupEvent × Nat) : Prop :=
  match event.1 with
  | .call fault =>
      fault ≠ .refused → early? s.rank0 = some runId → s.runState runId ≠ some .recovering
  | .other (.request (.start r)) =>
      r = runId → s.rank0.hasRestored runId = false → s.runState runId ≠ some .recovering
  | _ => True

instance (runId : String) (s : Startup) (event : StartupEvent × Nat) :
    Decidable (s.FindsSettled runId event) := by
  unfold FindsSettled
  split <;> infer_instance

end Startup

/-! ## What takes a run out of recovery -/

/-- Of the atomic requests only a start and a resume take a run from
`RECOVERING` to `RUNNING`. -/
theorem Server.handle_recovering {s s' : Server} (hs : s.Recorded) {now : Nat}
    {request : AtomicRequest} (h : s.handle now request = some s') {runId : String}
    (hrecovering : s.cp.coordinator.runState runId = some .recovering)
    (hrunning : s'.cp.coordinator.runState runId = some .running) :
    request = .start runId ∨ request = .resume runId := by
  cases (hs.handled h).effect with
  | same _ _ hruns =>
      rw [hruns, hrecovering] at hrunning
      cases hrunning
  | @moved _ r f hmove _ hruns =>
      rw [hruns] at hrunning
      split at hrunning
      · next hr =>
        subst hr
        rw [hrecovering, Option.map_some, Option.some.injEq] at hrunning
        cases request with
        | start r =>
            obtain ⟨rfl, rfl⟩ := Prod.mk.inj (Option.some.inj hmove)
            exact Or.inl rfl
        | resume r =>
            obtain ⟨rfl, rfl⟩ := Prod.mk.inj (Option.some.inj hmove)
            exact Or.inr rfl
        | cancel r =>
            obtain ⟨rfl, rfl⟩ := Prod.mk.inj (Option.some.inj hmove)
            cases hrunning
        | complete r =>
            obtain ⟨rfl, rfl⟩ := Prod.mk.inj (Option.some.inj hmove)
            cases hrunning
        | fail r reason =>
            obtain ⟨rfl, rfl⟩ := Prod.mk.inj (Option.some.inj hmove)
            cases hrunning
        | createRun | checkpoint | heartbeat | workerFailure => cases hmove
      · rw [hrecovering] at hrunning
        cases hrunning
  | created _ _ _ hruns =>
      rw [hruns] at hrunning
      split at hrunning
      · cases hrunning
      · rw [hrecovering] at hrunning
        cases hrunning
  | opened _ _ _ _ hruns =>
      rw [hruns] at hrunning
      split at hrunning
      · cases hrunning
      · rw [hrecovering] at hrunning
        cases hrunning
  | failed hfailure =>
      obtain ⟨_, _, state, hstate, hruns⟩ := hfailure
      rw [hruns] at hrunning
      split at hrunning
      · rcases hstate with rfl | rfl <;> cases hrunning
      · rw [hrecovering] at hrunning
        cases hrunning

/-- The end of a commit moves its run, but not out of recovery. -/
theorem ControlPlane.commitRunFinish_recovering {cp : ControlPlane}
    (hc : cp.coordinator.Coherent) (call : CommitCall) (reply : Except String CommitResponse)
    (now : Nat) :
    ∃ f : RunState → RunState, f .recovering ≠ .running ∧
      ∀ r, (cp.commitRunFinish call reply now).1.coordinator.runState r =
        if r = call.runId then (cp.coordinator.runState call.runId).map f
        else cp.coordinator.runState r := by
  cases hreply : commitAccepted reply with
  | false =>
      obtain ⟨failureMessage, exception, hout⟩ := commitRunFinish_rejected cp call hreply now
      obtain ⟨_, _, _, hruns⟩ := failCheckpoint_effect (α := RunStatus) hc call.runId
        call.checkpointId failureMessage exception now
      rw [hout]
      exact ⟨_, by decide, hruns⟩
  | true =>
      cases reply with
      | error e => cases hreply
      | ok response =>
          cases hinfo : cp.coordinator.getCheckpoint call.checkpointId with
          | some info =>
              exact ⟨afterCommit, by decide, (runState_commitRunFinish hc call hreply hinfo now).2⟩
          | none =>
              refine ⟨id, by decide, ?_⟩
              intro r
              rw [commitRunFinish_missing cp call hreply hinfo now]
              by_cases hr : r = call.runId
              · rw [if_pos hr, Option.map_id, hr]
                rfl
              · rw [if_neg hr]
                rfl

/-- The same for the whole system: handlers and RPCs that are still in flight
take no run out of recovery. -/
theorem System.step_recovering {sha256 : Bytes → String} {s s' : System} {event : Event × Nat}
    (hs : s.server.Recorded) (h : s.step sha256 event = some s') {runId : String}
    (hrecovering : s.server.cp.coordinator.runState runId = some .recovering)
    (hrunning : s'.server.cp.coordinator.runState runId = some .running) :
    ∃ request, event.1 = .request request ∧
      (request = .start runId ∨ request = .resume runId) := by
  -- the end of an upload or of a commit moves its run, but not from `RECOVERING` to `RUNNING`
  have hmove : ∀ (r : String) (f : RunState → RunState),
      (∀ other, s'.server.cp.coordinator.runState other =
        if other = r then (s.server.cp.coordinator.runState r).map f
        else s.server.cp.coordinator.runState other) → f .recovering = .running := by
    intro r f hruns
    rw [hruns] at hrunning
    split at hrunning
    · next hr =>
      rw [← hr, hrecovering, Option.map_some, Option.some.injEq] at hrunning
      exact hrunning
    · rw [hrecovering] at hrunning
      cases hrunning
  have hstay : s'.server.cp.coordinator.runState runId ≠
      s.server.cp.coordinator.runState runId := by
    rw [hrecovering, hrunning]
    simp
  cases step_server h with
  | upload call reply _ _ hserver =>
      obtain ⟨_, _, hruns⟩ := uploadShardFinish_effect hs.coherent call reply event.2
      have hf := hmove call.runId _ (by rw [hserver]; exact hruns)
      split at hf <;> cases hf
  | commit call reply _ _ hserver =>
      obtain ⟨f, hf, hruns⟩ := commitRunFinish_recovering hs.coherent call reply event.2
      exact absurd (hmove call.runId f (by rw [hserver]; exact hruns)) hf
  | request request _ _ hhandle hevent =>
      exact ⟨request, hevent, Server.handle_recovering hs hhandle hrecovering hrunning⟩
  | delete id _ _ hserver =>
      refine absurd ?_ hstay
      rw [hserver]
      rfl
  | stay _ _ hserver => exact absurd (by rw [hserver]) hstay

namespace Startup

/-! ## What a step does to the system -/

/-- The next request of rank 0 that moves a run. -/
def request? : RankZero → Option AtomicRequest
  | .resumeFirst runId _ | .resumeLast runId _ => some (.resume runId)
  | .startRun runId => some (.start runId)
  | _ => none

/-- What a step does to the system: something else happens, a request of rank 0
is served, or nothing happens to it. -/
inductive Move (sha256 : Bytes → String) (s : Startup) (event : StartupEvent × Nat)
    (system : System) : Prop
  | other (e : Event) (hevent : event.1 = .other e) (hresume : ∀ r, e ≠ .request (.resume r))
      (h : s.system.step sha256 (e, event.2) = some system)
  | moved (fault : Fault) (request : AtomicRequest) (server : Server)
      (hevent : event.1 = .call fault) (hfault : fault ≠ .refused)
      (hrequest : request? s.rank0 = some request)
      (h : s.system.server.handle event.2 request = some server)
      (hsystem : system = { s.system with server := server })
  | created (config : RunConfig) (runId : String) (fault : Fault) (server : Server)
      (hevent : event.1 = .create config runId fault)
      (h : s.system.server.handle event.2 (.createRun config runId) = some server)
      (hsystem : system = { s.system with server := server })
  | quiet (hother : ∀ e, event.1 ≠ .other e)
      (hcall : ∀ fault, event.1 = .call fault → fault = .refused ∨ request? s.rank0 = none)
      (hsystem : system = s.system)

section
variable {sha256 : Bytes → String} {s s' : Startup} {event : StartupEvent × Nat}

theorem step_other {e : Event} {now : Nat} (h : s.step sha256 (.other e, now) = some s') :
    (∀ r, e ≠ .request (.resume r)) ∧
      ∃ system, s.system.step sha256 (e, now) = some system ∧
        s' = { s with system := system } := by
  by_cases hresume : ∃ r, e = .request (.resume r)
  · obtain ⟨r, rfl⟩ := hresume
    cases h
  · have hne : ∀ r, e ≠ .request (.resume r) := fun r hr => hresume ⟨r, hr⟩
    have hmap : (s.system.step sha256 (e, now)).map
        (fun system => { s with system := system }) = some s' := by
      rw [← h, step]
      split
      · next r heq =>
        cases heq
        exact absurd rfl (hne r)
      · next heq =>
        cases heq
        rfl
      all_goals next heq => cases heq
    obtain ⟨system, hsystem, rfl⟩ := Option.map_eq_some_iff.mp hmap
    exact ⟨hne, system, hsystem, rfl⟩

/-- A request of rank 0 that moves a run, served or lost on its way. -/
theorem Move.of_serve {fault : Fault} {request : AtomicRequest} {now : Nat}
    {out : ControlPlane × Except HttpException RunStatus}
    {next : Except ClientError RunStatus → RankZero}
    (hrequest : request? s.rank0 = some request)
    (h : s.system.server.handle now request = some { s.system.server with cp := out.1 }) :
    Move sha256 s (.call fault, now) (s.serve fault out next).system := by
  by_cases hfault : fault = .refused
  · refine .quiet (fun _ he => by cases he) ?_ (by rw [serve, if_pos hfault])
    intro other hother
    exact Or.inl ((StartupEvent.call.inj hother).symm.trans hfault)
  · exact .moved fault request _ rfl hfault hrequest h (by rw [serve, if_neg hfault]; rfl)

theorem step_system (h : s.step sha256 event = some s') :
    Move sha256 s event s'.system := by
  obtain ⟨event, now⟩ := event
  cases event with
  | other e =>
      obtain ⟨hresume, system, hsystem, rfl⟩ := step_other h
      exact .other e rfl hresume hsystem
  | call fault =>
      have hquiet : request? s.rank0 = none → Move sha256 s (.call fault, now) s.system :=
        fun hnone => .quiet (fun _ he => by cases he) (fun _ _ => Or.inr hnone) rfl
      obtain ⟨system, rank0⟩ := s
      dsimp only [step, call] at h
      cases rank0 with
      | readRun runId =>
          obtain rfl := Option.some.inj h
          exact hquiet rfl
      | resumeFirst runId state =>
          obtain rfl := Option.some.inj h
          exact .of_serve rfl rfl
      | createRun => cases h
      | startRun runId =>
          obtain rfl := Option.some.inj h
          exact .of_serve rfl rfl
      | register runId => cases h
      | load runId restore =>
          cases restore with
          | listing =>
              obtain rfl := Option.some.inj h
              exact hquiet rfl
          | loading checkpoint fallback => cases h
          | returned step checkpointId => cases h
          | raised => cases h
      | resumeLast runId startStep =>
          obtain rfl := Option.some.inj h
          exact .of_serve rfl rfl
      | training runId startStep => cases h
      | failed restored => cases h
  | create config runId fault =>
      simp only [step] at h
      split at h
      · obtain rfl := Option.some.inj h
        exact .quiet (fun _ he => by cases he) (fun _ he => by cases he) rfl
      · obtain ⟨server, hserver, rfl⟩ := Option.map_eq_some_iff.mp h
        exact .created config runId _ server rfl hserver rfl
      · cases h
  | register registered =>
      simp only [step] at h
      split at h
      · obtain rfl := Option.some.inj h
        exact .quiet (fun _ he => by cases he) (fun _ he => by cases he) rfl
      · cases h
  | shard outcome =>
      simp only [step] at h
      split at h
      · obtain rfl := Option.some.inj h
        exact .quiet (fun _ he => by cases he) (fun _ he => by cases he) rfl
      · cases h

/-- Every step keeps the ids. -/
theorem recorded_step (hs : s.system.server.Recorded) (h : s.step sha256 event = some s') :
    s'.system.server.Recorded := by
  cases step_system h with
  | other e _ _ hstep => exact System.recorded_step hs hstep
  | moved _ request server _ _ _ hhandle hsystem => exact hsystem ▸ hs.handle hhandle
  | created _ _ _ server _ hhandle hsystem => exact hsystem ▸ hs.handle hhandle
  | quiet _ _ hsystem => exact hsystem ▸ hs

/-- A start or a resume that finds its run in recovery takes it to `RUNNING`. -/
theorem running_of_handle {server server' : Server} (hs : server.Recorded) {now : Nat}
    {request : AtomicRequest} (h : server.handle now request = some server') {runId : String}
    (hrequest : request = .start runId ∨ request = .resume runId)
    (hrecovering : server.cp.coordinator.runState runId = some .recovering) :
    server'.cp.coordinator.runState runId = some .running := by
  rcases hrequest with rfl | rfl
  · obtain rfl := Option.some.inj h
    have hruns := hs.coherent.runState_moveRun runId .running id (fun _ => rfl) now runId
    rw [if_pos rfl, hrecovering] at hruns
    exact hruns
  · obtain rfl := Option.some.inj h
    obtain ⟨_, _, _, hruns⟩ := resumeRun_effect hs.coherent runId now
    have hresumed := hruns runId
    rw [if_pos rfl, hrecovering] at hresumed
    exact hresumed

/-- A first resume, or a start, that finds its run in recovery takes it out early. -/
theorem findsSettled_of_not_resumedEarly (hs : s.system.server.Recorded)
    (h : s.step sha256 event = some s') {runId : String} (hearly : ¬ ResumedEarly runId s s') :
    s.FindsSettled runId event := by
  cases step_system h with
  | other e hevent hresume hstep =>
      simp only [FindsSettled, hevent]
      split
      · next heq => cases heq
      · next r heq =>
        obtain rfl := StartupEvent.other.inj heq
        intro hr hrestored hrecovering
        subst hr
        have hhandled : (s.system.server.handle event.2 (.start r)).map
            (fun server => { s.system with server := server }) = some s'.system := hstep
        obtain ⟨server, hserver, hs'⟩ := Option.map_eq_some_iff.mp hhandled
        refine hearly ⟨hrecovering, ?_, hrestored⟩
        rw [runState, ← hs']
        exact running_of_handle hs hserver (Or.inl rfl) hrecovering
      · exact trivial
  | moved fault request server hevent hfault hrequest hhandle hsystem =>
      simp only [FindsSettled, hevent]
      intro _ hnext hrecovering
      have hboth : (request = .start runId ∨ request = .resume runId) ∧
          s.rank0.hasRestored runId = false := by
        cases hrank : s.rank0 <;> simp [hrank, early?, request?, RankZero.hasRestored]
          at hnext hrequest ⊢
        · exact Or.inr (by rw [← hrequest, hnext])
        · exact Or.inl (by rw [← hrequest, hnext])
      refine hearly ⟨hrecovering, ?_, hboth.2⟩
      rw [runState, hsystem]
      exact running_of_handle hs hhandle hboth.1 hrecovering
  | created config r fault server hevent hhandle hsystem =>
      simp only [FindsSettled, hevent]
  | quiet hother hcall hsystem =>
      unfold FindsSettled
      split
      · next fault hevent =>
        intro hfault hnext
        have hnone := (hcall fault hevent).resolve_left hfault
        cases hrank : s.rank0 <;> simp [hrank, early?, request?] at hnext hnone
      · next r hevent => exact absurd hevent (hother _)
      · exact trivial

/-- Nothing else takes a run out of recovery early. -/
theorem not_resumedEarly_of_findsSettled (hs : s.system.server.Recorded)
    (h : s.step sha256 event = some s') {runId : String} (hsettled : s.FindsSettled runId event) :
    ¬ ResumedEarly runId s s' := by
  intro hearly
  obtain ⟨hrecovering, hrunning, hrestored⟩ := hearly
  cases step_system h with
  | other e hevent hresume hstep =>
      obtain ⟨request, he, hstart | hresumes⟩ :=
        System.step_recovering hs hstep hrecovering hrunning
      · obtain rfl : e = .request (.start runId) := hstart ▸ he
        simp only [FindsSettled, hevent] at hsettled
        exact hsettled trivial hrestored hrecovering
      · exact hresume runId (by rw [← hresumes]; exact he)
  | moved fault request server hevent hfault hrequest hhandle hsystem =>
      have hserver : server.cp.coordinator.runState runId = some .running := by
        rw [runState, hsystem] at hrunning
        exact hrunning
      simp only [FindsSettled, hevent] at hsettled
      refine hsettled hfault ?_ hrecovering
      rcases Server.handle_recovering hs hhandle hrecovering hserver with rfl | rfl
      · cases hrank : s.rank0 <;> simp [hrank, request?, early?] at hrequest ⊢
        exact hrequest
      · cases hrank : s.rank0 <;>
          simp [hrank, request?, early?, RankZero.hasRestored] at hrequest hrestored ⊢
        · exact hrequest
        · exact hrestored hrequest
  | created config r fault server hevent hhandle hsystem =>
      have hserver : server.cp.coordinator.runState runId = some .running := by
        rw [runState, hsystem] at hrunning
        exact hrunning
      rcases Server.handle_recovering hs hhandle hrecovering hserver with hbad | hbad <;>
        cases hbad
  | quiet hother hcall hsystem =>
      rw [runState, hsystem] at hrunning
      rw [runState, hrunning] at hrecovering
      cases hrecovering

/-- A step takes its run out of recovery early exactly when it is a first
resume, or a start, that finds it there. -/
theorem resumedEarly_iff (hs : s.system.server.Recorded) (h : s.step sha256 event = some s')
    (runId : String) : ¬ ResumedEarly runId s s' ↔ s.FindsSettled runId event :=
  ⟨findsSettled_of_not_resumedEarly hs h, not_resumedEarly_of_findsSettled hs h⟩

end

/-- The same for a whole run. -/
theorem guarded_iff_findsSettled {sha256 : Bytes → String} {s : Startup}
    (hs : s.system.server.Recorded) (runId : String) (es : List (StartupEvent × Nat)) :
    Guarded (step sha256) (fun t e => ∀ t', t.step sha256 e = some t' → ¬ ResumedEarly runId t t')
      s es ↔ Guarded (step sha256) (FindsSettled runId) s es := by
  exact guarded_next_congr (step sha256) (I := fun t => t.system.server.Recorded)
    (fun _ _ _ ht h => recorded_step ht h) (fun _ _ _ ht h => resumedEarly_iff ht h runId) hs

/-- A run of two workers that has been started and has failed. -/
def failedEvents : List (Event × Nat) :=
  [(.request (.createRun pairRun "00000000000000a1"), 1),
    (.request (.start "00000000000000a1"), 2), (.request (.fail "00000000000000a1" none), 3)]

/-- The system afterwards. -/
def failedSystem : System :=
  (run (System.step fun _ => "") (.init .inMemoryKVStore true true) failedEvents).get
    (by decide +kernel)

theorem run_failedEvents :
    run (System.step fun _ => "") (.init .inMemoryKVStore true true) failedEvents =
      some failedSystem :=
  (Option.some_get _).symm

/-- **Resumed only after a restore, exactly.**  From any state that the system
can reach, a run leaves `RECOVERING` for `RUNNING` before rank 0 has restored
it exactly when a first resume of rank 0, or a start, finds it there. -/
theorem resumed_after_restore_iff (sha256 : Bytes → String) {store : KVStore}
    {autoRecover hasSupervisor : Bool} {earlier : List (Event × Nat)} {s : System}
    (hs : run (System.step sha256) (.init store autoRecover hasSupervisor) earlier = some s)
    (envRunId sharedRunId runId : String) (es : List (StartupEvent × Nat)) :
    Guarded (step sha256) (fun t e => ∀ t', t.step sha256 e = some t' → ¬ ResumedEarly runId t t')
        { system := s, rank0 := .begin envRunId sharedRunId } es ↔
      Guarded (step sha256) (FindsSettled runId)
        { system := s, rank0 := .begin envRunId sharedRunId } es := by
  apply guarded_iff_findsSettled
  exact run_invariant (System.step sha256) (I := fun t => t.server.Recorded)
    (fun _ _ _ ht h => System.recorded_step ht h)
    (Server.recorded_init store autoRecover hasSupervisor) hs

/-- Rank 0 finds the run failed, takes it to `RECOVERING`, restores it and
takes it to `RUNNING`. -/
theorem resumed_after_restore_once :
    run (System.step fun _ => "") (.init .inMemoryKVStore true true) failedEvents =
        some failedSystem ∧
      Guarded (step fun _ => "")
        (fun t e => ∀ t', t.step (fun _ => "") e = some t' →
          ¬ ResumedEarly "00000000000000a1" t t')
        { system := failedSystem, rank0 := .begin "" "00000000000000a1" }
        [(.call .none, 4), (.call .none, 5), (.register true, 6), (.call .none, 7),
          (.call .none, 8)] := by
  exact ⟨run_failedEvents,
    (resumed_after_restore_iff _ run_failedEvents ..).mpr (by decide +kernel)⟩

/-- Rank 0 reads that the run has failed; before it resumes it, the lease of
another worker expires and the recovery takes the run to `RECOVERING`. -/
theorem resume_overtaken_by_recovery :
    ¬ Guarded (step fun _ => "")
        (fun t e => ∀ t', t.step (fun _ => "") e = some t' →
          ¬ ResumedEarly "00000000000000a1" t t')
        { system := failedSystem, rank0 := .begin "" "00000000000000a1" }
        [(.call .none, 4),
          (.other (.request (.workerFailure "00000000000000a1" .scheduled)), 5),
          (.call .none, 6)] := by
  have hrecorded : failedSystem.server.Recorded :=
    run_invariant (System.step fun _ => "") (I := fun t => t.server.Recorded)
      (fun _ _ _ ht h => System.recorded_step ht h) (Server.recorded_init ..)
      run_failedEvents
  rw [guarded_iff_findsSettled hrecorded]
  decide +kernel

end Startup

end CheckpointRuntime
