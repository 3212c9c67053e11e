import Mathlib.Algebra.Order.Ring.Nat
import CheckpointRuntime.Library.PartialRun
import CheckpointRuntime.Library.Pools

/-!
# Worker-group restarts

`_schedule_worker_group_restart` and its restart thread.  The slot and the
attempt times are shared by all runs and change under one lock, so every locked
block is one step and anything may happen between two of them.  What the call
does to worker records appears as its outcome: the loop ends, or it raises.
-/

namespace CheckpointRuntime

open PartialRun

/-- `_WORKER_RESTART_RETRY_SECONDS`, in nanoseconds. -/
def workerRestartRetry : Nat := 30 * 10 ^ 9

/-- What the environment says about the supervised worker group. -/
structure RestartEnvironment where
  /-- Whether `SHARED_RUN_ID_PATH` is set. -/
  sharedRunPath : Bool
  /-- The run id in that file, if there is one. -/
  supervisedRunId : Option String
  /-- The names in `WORKER_CONTAINERS`. -/
  containerNames : List String
deriving DecidableEq, Repr

/-- The checks before the lock is taken. -/
def RestartEnvironment.admits (env : RestartEnvironment) (runId : String) : Bool :=
  (!env.sharedRunPath || decide (env.supervisedRunId = some runId)) &&
    decide (env.containerNames ≠ [])

/-- How far a scheduling call has come. -/
inductive CallPhase
  | entered
  | marking
  | markFailed
  | starting
  | startFailed
  | returned (answer : Bool)
  | raised
deriving DecidableEq, Repr

/-- A call of `_schedule_worker_group_restart`. -/
structure ScheduleCall where
  runId : String
  phase : CallPhase
deriving DecidableEq, Repr

/-- The call has taken the slot and has not passed it on. -/
def ScheduleCall.holds (call : ScheduleCall) : Bool :=
  match call.phase with
  | .marking | .markFailed | .starting | .startFailed => true
  | .entered | .returned _ | .raised => false

/-- How far a restart thread has come: at one of its three attempts, about to
enter its `finally` block, or through with it. -/
inductive ThreadPhase
  | restarting (attempt : Nat)
  | finishing (succeeded : Bool)
  | finished (succeeded : Bool)
deriving DecidableEq, Repr

/-- A restart thread. -/
structure RestartThread where
  runId : String
  startedAt : Nat
  phase : ThreadPhase
deriving DecidableEq, Repr

def RestartThread.running (thread : RestartThread) : Bool :=
  match thread.phase with
  | .restarting _ | .finishing _ => true
  | .finished _ => false

/-- How a `docker restart` ends: with status zero, with another status or an
exception that is caught, or with one that is not. -/
inductive DockerOutcome
  | succeeded
  | failed
  | escaped
deriving DecidableEq, Repr

/-- The shared state, the calls and the threads.  How the latest attempt for a
run has ended is known to nobody; it is kept here to speak about it. -/
structure GroupRestarts where
  inFlight : Option String
  lastAttempt : String → Option Nat
  calls : List ScheduleCall
  threads : List RestartThread
  clock : Nat
  outcome : String → Option Bool

/-- What may happen next; calls and threads are named by their position. -/
inductive RestartEvent
  | schedule (runId : String) (env : RestartEnvironment)
  | check (call : Nat)
  | markWorkers (call : Nat) (raised : Bool)
  | startThread (call : Nat) (raised : Bool)
  | giveUp (call : Nat)
  | dockerRestart (thread : Nat) (outcome : DockerOutcome)
  | finish (thread : Nat)
  | resumeRun (runId : String)
deriving DecidableEq, Repr

namespace GroupRestarts

/-- A process that has just started. -/
def init : GroupRestarts where
  inFlight := none
  lastAttempt := fun _ => none
  calls := []
  threads := []
  clock := 0
  outcome := fun _ => none

def setLastAttempt (s : GroupRestarts) (runId : String) (time : Option Nat) : GroupRestarts :=
  { s with lastAttempt := fun r => if r = runId then time else s.lastAttempt r }

def setOutcome (s : GroupRestarts) (runId : String) (outcome : Option Bool) : GroupRestarts :=
  { s with outcome := fun r => if r = runId then outcome else s.outcome r }

def setCall (s : GroupRestarts) (call : ScheduleCall) (i : Nat) (phase : CallPhase) :
    GroupRestarts :=
  { s with calls := s.calls.set i { call with phase := phase } }

def setThread (s : GroupRestarts) (thread : RestartThread) (i : Nat) (phase : ThreadPhase) :
    GroupRestarts :=
  { s with threads := s.threads.set i { thread with phase := phase } }

/-- `if run_id == _WORKER_RESTART_IN_FLIGHT: _WORKER_RESTART_IN_FLIGHT = None`. -/
def freeSlot (s : GroupRestarts) (runId : String) : GroupRestarts :=
  { s with inFlight := if s.inFlight = some runId then none else s.inFlight }

/-- What the first locked block answers, unless it takes the slot. -/
def checkSlot (s : GroupRestarts) (runId : String) (now : Nat) : Option Bool :=
  match s.inFlight with
  | some holder => some (decide (runId = holder))
  | none => if now < (s.lastAttempt runId).getD 0 + workerRestartRetry then some true else none

/-- The first locked block. -/
def checkCall (s : GroupRestarts) (i : Nat) (call : ScheduleCall) (now : Nat) : GroupRestarts :=
  match s.checkSlot call.runId now with
  | some answer => s.setCall call i (.returned answer)
  | none =>
      { ((s.setCall call i .marking).setLastAttempt call.runId (some now)).setOutcome call.runId
          none with
        inFlight := some call.runId }

/-- The locked block of both exception paths. -/
def dropAttempt (s : GroupRestarts) (runId : String) : GroupRestarts :=
  ((s.setLastAttempt runId none).freeSlot runId).setOutcome runId (some false)

/-- The locked block of the `finally` of a thread. -/
def finishThread (s : GroupRestarts) (i : Nat) (thread : RestartThread) (succeeded : Bool) :
    GroupRestarts :=
  let s := s.setThread thread i (.finished succeeded)
  if succeeded then (s.freeSlot thread.runId).setOutcome thread.runId (some true)
  else s.dropAttempt thread.runId

/-- What follows a `docker restart`. -/
def nextPhase (attempt : Nat) : DockerOutcome → ThreadPhase
  | .succeeded => .finishing true
  | .failed => if attempt < 3 then .restarting (attempt + 1) else .finishing false
  | .escaped => .finishing false

/-- Let one thing happen, if it can; the clock reading belongs to the caller of
`step`. -/
def act (s : GroupRestarts) (now : Nat) : RestartEvent → Option GroupRestarts
  | .schedule runId env =>
      let phase : CallPhase := if env.admits runId then .entered else .returned false
      some { s with calls := s.calls ++ [{ runId := runId, phase := phase }] }
  | .check i => do
      let call ← s.calls[i]?
      if call.phase = .entered then some (s.checkCall i call now) else none
  | .markWorkers i raised => do
      let call ← s.calls[i]?
      if call.phase = .marking then
        some (s.setCall call i (if raised then .markFailed else .starting))
      else
        none
  | .startThread i raised => do
      let call ← s.calls[i]?
      if call.phase = .starting then
        if raised then
          some (s.setCall call i .startFailed)
        else
          let thread : RestartThread :=
            { runId := call.runId, startedAt := now, phase := .restarting 1 }
          some { s.setCall call i (.returned true) with threads := s.threads ++ [thread] }
      else
        none
  | .giveUp i => do
      let call ← s.calls[i]?
      match call.phase with
      | .markFailed => some ((s.setCall call i .raised).dropAttempt call.runId)
      | .startFailed => some ((s.setCall call i (.returned false)).dropAttempt call.runId)
      | _ => none
  | .dockerRestart i outcome => do
      let thread ← s.threads[i]?
      match thread.phase with
      | .restarting attempt => some (s.setThread thread i (nextPhase attempt outcome))
      | _ => none
  | .finish i => do
      let thread ← s.threads[i]?
      match thread.phase with
      | .finishing succeeded => some (s.finishThread i thread succeeded)
      | _ => none
  | .resumeRun runId => some (s.setLastAttempt runId none)

/-- One step at a reading of the monotonic clock. -/
def step (s : GroupRestarts) (event : RestartEvent × Nat) : Option GroupRestarts :=
  if s.clock ≤ event.2 then
    (s.act event.2 event.1).map fun next => { next with clock := event.2 }
  else
    none

/-! ## What a step does -/

/-- The kinds of steps: a call arrives, is answered, takes the slot, goes on
holding it, passes it to a new thread or gives it up; a thread goes on or ends;
an attempt time is cleared. -/
inductive Move (s : GroupRestarts) (now : Nat) (event : RestartEvent) (next : GroupRestarts) : Prop
  | arrive (call : ScheduleCall) (hquiet : call.holds = false)
      (h : next = { s with calls := s.calls ++ [call] })
  | answer (i : Nat) (call : ScheduleCall) (answer : Bool) (hevent : event = .check i)
      (hcall : s.calls[i]? = some call) (hphase : call.phase = .entered)
      (hanswer : s.checkSlot call.runId now = some answer)
      (h : next = s.setCall call i (.returned answer))
  | take (i : Nat) (call : ScheduleCall) (hevent : event = .check i)
      (hcall : s.calls[i]? = some call) (hphase : call.phase = .entered)
      (hfree : s.checkSlot call.runId now = none)
      (h : next = { ((s.setCall call i .marking).setLastAttempt call.runId (some now)).setOutcome
        call.runId none with inFlight := some call.runId })
  | hold (i : Nat) (call : ScheduleCall) (phase : CallPhase) (hcall : s.calls[i]? = some call)
      (hholds : call.holds = true)
      (hnext : ({ call with phase := phase } : ScheduleCall).holds = true)
      (h : next = s.setCall call i phase)
  | start (i : Nat) (call : ScheduleCall) (hevent : event = .startThread i false)
      (hcall : s.calls[i]? = some call) (hphase : call.phase = .starting)
      (h : next = { s.setCall call i (.returned true) with
        threads := s.threads ++
          [{ runId := call.runId, startedAt := now, phase := .restarting 1 }] })
  | giveUp (i : Nat) (call : ScheduleCall) (phase : CallPhase) (hcall : s.calls[i]? = some call)
      (hholds : call.holds = true)
      (hnext : ({ call with phase := phase } : ScheduleCall).holds = false)
      (h : next = (s.setCall call i phase).dropAttempt call.runId)
  | work (i : Nat) (thread : RestartThread) (phase : ThreadPhase)
      (hthread : s.threads[i]? = some thread) (hruns : thread.running = true)
      (hnext : ({ thread with phase := phase } : RestartThread).running = true)
      (h : next = s.setThread thread i phase)
  | finish (i : Nat) (thread : RestartThread) (succeeded : Bool)
      (hthread : s.threads[i]? = some thread) (hphase : thread.phase = .finishing succeeded)
      (h : next = s.finishThread i thread succeeded)
  | resume (runId : String) (h : next = s.setLastAttempt runId none)

theorem nextPhase_running (thread : RestartThread) (attempt : Nat) (outcome : DockerOutcome) :
    ({ thread with phase := nextPhase attempt outcome } : RestartThread).running = true := by
  cases outcome with
  | succeeded => rfl
  | escaped => rfl
  | failed =>
      unfold nextPhase
      dsimp only
      split <;> rfl

theorem act_cases {s next : GroupRestarts} {now : Nat} {event : RestartEvent}
    (h : s.act now event = some next) : Move s now event next := by
  cases event with
  | schedule runId env =>
      refine .arrive _ ?_ (Option.some.inj h).symm
      unfold ScheduleCall.holds
      dsimp only
      cases env.admits runId <;> rfl
  | check i =>
      obtain ⟨call, hcall, h⟩ := Option.bind_eq_some_iff.mp h
      obtain ⟨hphase, h⟩ := Option.ite_none_right_eq_some.mp h
      have h := Option.some.inj h
      unfold checkCall at h
      split at h
      · next answer hanswer => exact .answer i call answer rfl hcall hphase hanswer h.symm
      · next hfree => exact .take i call rfl hcall hphase hfree h.symm
  | markWorkers i raised =>
      obtain ⟨call, hcall, h⟩ := Option.bind_eq_some_iff.mp h
      obtain ⟨hphase, h⟩ := Option.ite_none_right_eq_some.mp h
      refine .hold i call _ hcall (by rw [ScheduleCall.holds, hphase]) ?_ (Option.some.inj h).symm
      cases raised <;> rfl
  | startThread i raised =>
      obtain ⟨call, hcall, h⟩ := Option.bind_eq_some_iff.mp h
      obtain ⟨hphase, h⟩ := Option.ite_none_right_eq_some.mp h
      cases raised with
      | true =>
          exact .hold i call .startFailed hcall (by rw [ScheduleCall.holds, hphase]) rfl
            (Option.some.inj h).symm
      | false => exact .start i call rfl hcall hphase (Option.some.inj h).symm
  | giveUp i =>
      obtain ⟨call, hcall, h⟩ := Option.bind_eq_some_iff.mp h
      split at h
      · next hphase =>
        exact .giveUp i call .raised hcall (by rw [ScheduleCall.holds, hphase]) rfl
          (Option.some.inj h).symm
      · next hphase =>
        exact .giveUp i call (.returned false) hcall (by rw [ScheduleCall.holds, hphase]) rfl
          (Option.some.inj h).symm
      · cases h
  | dockerRestart i outcome =>
      obtain ⟨thread, hthread, h⟩ := Option.bind_eq_some_iff.mp h
      split at h
      · next attempt hphase =>
        exact .work i thread _ hthread (by rw [RestartThread.running, hphase])
          (nextPhase_running thread attempt outcome) (Option.some.inj h).symm
      · cases h
  | finish i =>
      obtain ⟨thread, hthread, h⟩ := Option.bind_eq_some_iff.mp h
      split at h
      · next succeeded hphase =>
        exact .finish i thread succeeded hthread hphase (Option.some.inj h).symm
      · cases h
  | resumeRun runId => exact .resume runId (Option.some.inj h).symm

theorem step_cases {s s' : GroupRestarts} {event : RestartEvent × Nat}
    (h : s.step event = some s') :
    s.clock ≤ event.2 ∧
      ∃ next, Move s event.2 event.1 next ∧ s' = { next with clock := event.2 } := by
  obtain ⟨hclock, h⟩ := Option.ite_none_right_eq_some.mp h
  obtain ⟨next, hact, rfl⟩ := Option.map_eq_some_iff.mp h
  exact ⟨hclock, next, act_cases hact, rfl⟩

/-! ## The slot has one holder -/

/-- The slot is taken exactly by one call or thread, for its run. -/
structure Exclusive (s : GroupRestarts) : Prop where
  count : s.calls.countP (·.holds) + s.threads.countP (·.running) = s.inFlight.toList.length
  calls : ∀ call ∈ s.calls, call.holds = true → s.inFlight = some call.runId
  threads : ∀ thread ∈ s.threads, thread.running = true → s.inFlight = some thread.runId

theorem exclusive_init : init.Exclusive where
  count := rfl
  calls := fun _ h => by cases h
  threads := fun _ h => by cases h

section
variable {s next s' : GroupRestarts} {now : Nat} {event : RestartEvent}

/-- Nobody holds a free slot. -/
theorem Exclusive.of_free (hs : s.Exclusive) (hfree : s.inFlight = none) :
    (∀ call ∈ s.calls, call.holds = false) ∧ ∀ thread ∈ s.threads, thread.running = false := by
  constructor
  · intro call hcall
    by_contra hholds
    have hheld := hs.calls call hcall (by simpa using hholds)
    rw [hfree] at hheld
    cases hheld
  · intro thread hthread
    by_contra hruns
    have hheld := hs.threads thread hthread (by simpa using hruns)
    rw [hfree] at hheld
    cases hheld

/-- A state without holders is exclusive when its slot is free. -/
theorem exclusive_of_no_holder (hfree : s.inFlight = none)
    (hnone : s.calls.countP (·.holds) + s.threads.countP (·.running) = 0) : s.Exclusive where
  count := by rw [hnone, hfree]; rfl
  calls := fun call hcall hholds => by
    have hnone : s.calls.countP (·.holds) = 0 := by omega
    have hzero := List.countP_eq_zero.mp hnone call hcall
    exact absurd hholds hzero
  threads := fun thread hthread hruns => by
    have hnone : s.threads.countP (·.running) = 0 := by omega
    have hzero := List.countP_eq_zero.mp hnone thread hthread
    exact absurd hruns hzero

/-- The slot is free when the checks of the first block pass. -/
theorem inFlight_of_checkSlot {runId : String} (h : s.checkSlot runId now = none) :
    s.inFlight = none ∧ (s.lastAttempt runId).getD 0 + workerRestartRetry ≤ now := by
  unfold checkSlot at h
  split at h
  · cases h
  · next hfree =>
    refine ⟨hfree, Nat.not_lt.mp fun hlt => ?_⟩
    rw [if_pos hlt] at h
    cases h

/-- A call that goes on without taking or passing the slot. -/
theorem Exclusive.setCall (hs : s.Exclusive) {i : Nat} {call : ScheduleCall} {phase : CallPhase}
    (hcall : s.calls[i]? = some call)
    (hsame : ({ call with phase := phase } : ScheduleCall).holds = call.holds) :
    (s.setCall call i phase).Exclusive := by
  have hcount := Pools.countP_set (p := (·.holds)) ({ call with phase := phase } : ScheduleCall)
    hcall
  rw [hsame] at hcount
  refine ⟨?_, fun other hother hholds => ?_, hs.threads⟩
  · have hbefore := hs.count
    show List.countP _ (s.calls.set i _) + s.threads.countP _ = s.inFlight.toList.length
    omega
  · rcases (List.mem_or_eq_of_mem_set hother).symm with rfl | hold
    · exact hs.calls call (List.mem_of_getElem? hcall) (hsame ▸ hholds)
    · exact hs.calls other hold hholds

/-- A thread that goes on. -/
theorem Exclusive.setThread (hs : s.Exclusive) {i : Nat} {thread : RestartThread}
    {phase : ThreadPhase} (hthread : s.threads[i]? = some thread)
    (hsame : ({ thread with phase := phase } : RestartThread).running = thread.running) :
    (s.setThread thread i phase).Exclusive := by
  have hcount := Pools.countP_set (p := (·.running))
    ({ thread with phase := phase } : RestartThread) hthread
  rw [hsame] at hcount
  refine ⟨?_, hs.calls, fun other hother hruns => ?_⟩
  · have hbefore := hs.count
    show s.calls.countP _ + List.countP _ (s.threads.set i _) = s.inFlight.toList.length
    omega
  · rcases (List.mem_or_eq_of_mem_set hother).symm with rfl | hold
    · exact hs.threads thread (List.mem_of_getElem? hthread) (hsame ▸ hruns)
    · exact hs.threads other hold hruns

/-- A call arrives without the slot. -/
theorem Exclusive.arrive (hs : s.Exclusive) {call : ScheduleCall} (hquiet : call.holds = false) :
    Exclusive { s with calls := s.calls ++ [call] } := by
  refine ⟨?_, fun other hother => ?_, hs.threads⟩
  · rw [List.countP_append, List.countP_singleton, if_neg (by simp [hquiet]), Nat.add_zero]
    exact hs.count
  · rcases List.mem_append.mp hother with hold | hnew
    · exact hs.calls other hold
    · rw [List.mem_singleton.mp hnew, hquiet]
      exact fun hholds => by cases hholds

/-- A call takes the free slot. -/
theorem Exclusive.take (hs : s.Exclusive) {i : Nat} {call : ScheduleCall}
    (hcall : s.calls[i]? = some call) (hphase : call.phase = .entered)
    (hslot : s.inFlight = none) :
    Exclusive { ((s.setCall call i .marking).setLastAttempt call.runId (some now)).setOutcome
      call.runId none with inFlight := some call.runId } := by
  obtain ⟨hcalls, hthreads⟩ := hs.of_free hslot
  have hquiet : call.holds = false := by rw [ScheduleCall.holds, hphase]
  have hcount := Pools.countP_set (p := (·.holds))
    ({ call with phase := .marking } : ScheduleCall) hcall
  rw [if_neg (by simp [hquiet]), if_pos (by rfl)] at hcount
  refine ⟨?_, fun other hother hholds => ?_, fun thread hthread hruns => ?_⟩
  · have hbefore := hs.count
    rw [hslot] at hbefore
    simp only [Option.toList_none, List.length_nil] at hbefore
    show List.countP _ (s.calls.set i _) + s.threads.countP _ = 1
    omega
  · rcases (List.mem_or_eq_of_mem_set hother).symm with rfl | hold
    · rfl
    · rw [hcalls other hold] at hholds
      cases hholds
  · rw [hthreads thread hthread] at hruns
    cases hruns

/-- A call passes the slot to a new thread. -/
theorem Exclusive.start (hs : s.Exclusive) {i : Nat} {call : ScheduleCall}
    (hcall : s.calls[i]? = some call) (hphase : call.phase = .starting) :
    Exclusive { s.setCall call i (.returned true) with
      threads := s.threads ++
        [{ runId := call.runId, startedAt := now, phase := .restarting 1 }] } := by
  have hholds : call.holds = true := by rw [ScheduleCall.holds, hphase]
  have hslot := hs.calls call (List.mem_of_getElem? hcall) hholds
  have hcount := Pools.countP_set (p := (·.holds))
    ({ call with phase := .returned true } : ScheduleCall) hcall
  rw [if_pos hholds, if_neg (by simp [ScheduleCall.holds])] at hcount
  refine ⟨?_, fun other hother hother' => ?_, fun thread hthread hruns => ?_⟩
  · have hbefore := hs.count
    show List.countP _ (s.calls.set i _) + List.countP _ (s.threads ++ [_]) = _
    rw [List.countP_append, List.countP_singleton, if_pos (by rfl)]
    show _ = s.inFlight.toList.length
    omega
  · rcases (List.mem_or_eq_of_mem_set hother).symm with rfl | hold
    · cases hother'
    · exact hs.calls other hold hother'
  · rcases List.mem_append.mp hthread with hold | hnew
    · exact hs.threads thread hold hruns
    · rw [List.mem_singleton.mp hnew]
      exact hslot

/-- A call gives the slot up. -/
theorem Exclusive.giveUp (hs : s.Exclusive) {i : Nat} {call : ScheduleCall} {phase : CallPhase}
    (hcall : s.calls[i]? = some call) (hholds : call.holds = true)
    (hnext : ({ call with phase := phase } : ScheduleCall).holds = false) :
    ((s.setCall call i phase).dropAttempt call.runId).Exclusive := by
  have hslot := hs.calls call (List.mem_of_getElem? hcall) hholds
  have hcount := Pools.countP_set (p := (·.holds))
    ({ call with phase := phase } : ScheduleCall) hcall
  rw [if_pos hholds, if_neg (by simp [hnext])] at hcount
  apply exclusive_of_no_holder (if_pos hslot)
  have hbefore := hs.count
  rw [hslot] at hbefore
  simp only [Option.toList_some, List.length_singleton] at hbefore
  show List.countP _ (s.calls.set i _) + s.threads.countP _ = 0
  omega

/-- A thread ends and gives the slot up. -/
theorem Exclusive.finish (hs : s.Exclusive) {i : Nat} {thread : RestartThread} {succeeded : Bool}
    (hthread : s.threads[i]? = some thread) (hphase : thread.phase = .finishing succeeded) :
    (s.finishThread i thread succeeded).Exclusive := by
  have hruns : thread.running = true := by rw [RestartThread.running, hphase]
  have hslot := hs.threads thread (List.mem_of_getElem? hthread) hruns
  have hcount := Pools.countP_set (p := (·.running))
    ({ thread with phase := .finished succeeded } : RestartThread) hthread
  rw [if_pos hruns, if_neg (by simp [RestartThread.running])] at hcount
  have hbefore := hs.count
  rw [hslot] at hbefore
  simp only [Option.toList_some, List.length_singleton] at hbefore
  refine exclusive_of_no_holder ?_ ?_
  · cases succeeded <;> exact if_pos hslot
  · cases succeeded <;>
      · show s.calls.countP _ + List.countP _ (s.threads.set i _) = 0
        omega

/-- **Exclusion at one step.** -/
theorem Exclusive.move (hs : s.Exclusive) (h : Move s now event next) : next.Exclusive := by
  cases h with
  | arrive call hquiet h => exact h ▸ hs.arrive hquiet
  | answer i call answer _ hcall hphase _ h =>
      have hquiet : call.holds = false := by rw [ScheduleCall.holds, hphase]
      exact h ▸ hs.setCall hcall hquiet.symm
  | take i call _ hcall hphase hfree h =>
      exact h ▸ hs.take hcall hphase (inFlight_of_checkSlot hfree).1
  | hold i call phase hcall hholds hnext h =>
      exact h ▸ hs.setCall hcall (hnext.trans hholds.symm)
  | start i call _ hcall hphase h => exact h ▸ hs.start hcall hphase
  | giveUp i call phase hcall hholds hnext h => exact h ▸ hs.giveUp hcall hholds hnext
  | work i thread phase hthread hruns hnext h =>
      exact h ▸ hs.setThread hthread (hnext.trans hruns.symm)
  | finish i thread succeeded hthread hphase h => exact h ▸ hs.finish hthread hphase
  | resume runId h =>
      subst h
      exact ⟨hs.count, hs.calls, hs.threads⟩

end

theorem Exclusive.step {s s' : GroupRestarts} {event : RestartEvent × Nat} (hs : s.Exclusive)
    (h : s.step event = some s') : s'.Exclusive := by
  obtain ⟨_, next, hmove, rfl⟩ := step_cases h
  have hnext := hs.move hmove
  exact ⟨hnext.count, hnext.calls, hnext.threads⟩

/-! ## What an attempt leaves behind -/

/-- A failed attempt leaves no attempt time, and no attempt is made before the
clock shows the retry interval. -/
structure Settled (s : GroupRestarts) : Prop where
  failed : ∀ runId, s.outcome runId = some false → s.lastAttempt runId = none
  held : ∀ runId, s.inFlight = some runId → workerRestartRetry ≤ s.clock
  ended : ∀ runId ok, s.outcome runId = some ok → workerRestartRetry ≤ s.clock

theorem settled_init : init.Settled where
  failed := fun _ _ => rfl
  held := fun _ h => by cases h
  ended := fun _ _ h => by cases h

/-- The state after an attempt for a run has been dropped. -/
theorem Settled.dropAttempt {s : GroupRestarts} (hs : s.Settled) {runId : String}
    (hclock : workerRestartRetry ≤ s.clock) : (s.dropAttempt runId).Settled where
  failed := by
    intro other hother
    show (if other = runId then none else s.lastAttempt other) = none
    split
    · rfl
    · next hne =>
      have hother : (if other = runId then some false else s.outcome other) = some false := hother
      rw [if_neg hne] at hother
      exact hs.failed other hother
  held := fun _ _ => hclock
  ended := fun _ _ _ => hclock

/-- What is settled stays settled as the clock goes on. -/
theorem Settled.tick {s : GroupRestarts} (hs : s.Settled) {now : Nat} (hclock : s.clock ≤ now) :
    ({ s with clock := now } : GroupRestarts).Settled where
  failed := hs.failed
  held := fun runId h => Nat.le_trans (hs.held runId h) hclock
  ended := fun runId ok h => Nat.le_trans (hs.ended runId ok h) hclock

theorem Settled.step {s s' : GroupRestarts} {event : RestartEvent × Nat} (hx : s.Exclusive)
    (hs : s.Settled) (h : s.step event = some s') : s'.Settled := by
  obtain ⟨hclock, next, hmove, rfl⟩ := step_cases h
  have hs' : ({ s with clock := event.2 } : GroupRestarts).Settled := hs.tick hclock
  cases hmove with
  | arrive call _ h => subst h; exact ⟨hs'.failed, hs'.held, hs'.ended⟩
  | answer i call answer _ _ _ _ h => subst h; exact ⟨hs'.failed, hs'.held, hs'.ended⟩
  | hold i call phase _ _ _ h => subst h; exact ⟨hs'.failed, hs'.held, hs'.ended⟩
  | start i call _ _ _ h => subst h; exact ⟨hs'.failed, hs'.held, hs'.ended⟩
  | work i thread phase _ _ _ h => subst h; exact ⟨hs'.failed, hs'.held, hs'.ended⟩
  | take i call _ _ _ hfree h =>
      subst h
      obtain ⟨_, hlate⟩ := inFlight_of_checkSlot hfree
      have hretry : workerRestartRetry ≤ event.2 := Nat.le_trans (Nat.le_add_left _ _) hlate
      refine ⟨fun runId hfailed => ?_, fun _ _ => hretry, fun _ _ _ => hretry⟩
      -- the new attempt has no outcome yet
      have hfailed : (if runId = call.runId then none else s.outcome runId) = some false := hfailed
      show (if runId = call.runId then some event.2 else s.lastAttempt runId) = none
      split at hfailed
      · cases hfailed
      · next hne =>
        rw [if_neg hne]
        exact hs.failed runId hfailed
  | giveUp i call phase hcall hholds _ h =>
      subst h
      have hslot := hx.calls call (List.mem_of_getElem? hcall) hholds
      have hquiet : ({ s.setCall call i phase with clock := event.2 } : GroupRestarts).Settled :=
        ⟨hs'.failed, hs'.held, hs'.ended⟩
      exact hquiet.dropAttempt (hs'.held call.runId hslot)
  | finish i thread succeeded hthread hphase h =>
      subst h
      have hruns : thread.running = true := by rw [RestartThread.running, hphase]
      have hretry := hs'.held thread.runId (hx.threads thread (List.mem_of_getElem? hthread) hruns)
      have hquiet : ({ s.setThread thread i (.finished succeeded) with
          clock := event.2 } : GroupRestarts).Settled := ⟨hs'.failed, hs'.held, hs'.ended⟩
      cases succeeded with
      | false => exact hquiet.dropAttempt hretry
      | true =>
          refine ⟨fun runId hfailed => hs.failed runId ?_, fun _ _ => hretry, fun _ _ _ => hretry⟩
          have hfailed :
              (if runId = thread.runId then some true else s.outcome runId) = some false :=
            hfailed
          split at hfailed
          · cases hfailed
          · exact hfailed
  | resume runId h =>
      subst h
      refine ⟨fun other hfailed => ?_, hs'.held, hs'.ended⟩
      show (if other = runId then none else s.lastAttempt other) = none
      split
      · rfl
      · exact hs.failed other hfailed

/-! ## Mutual exclusion -/

/-- At most one thread runs, the slot is taken only while a call or a thread
for its run is unfinished, and after a failed attempt there is no attempt time:
the next check that finds the slot free takes it. -/
structure Safe (s : GroupRestarts) : Prop where
  oneThread : s.threads.countP (·.running) ≤ 1
  slotHeld : ∀ runId, s.inFlight = some runId →
    (∃ call ∈ s.calls, call.holds = true ∧ call.runId = runId) ∨
      ∃ thread ∈ s.threads, thread.running = true ∧ thread.runId = runId
  noTime : ∀ runId, s.outcome runId = some false → s.lastAttempt runId = none
  retried : ∀ runId now, s.outcome runId = some false → s.inFlight = none → s.clock ≤ now →
    s.checkSlot runId now = none

/-- A taken slot has a holder. -/
theorem Exclusive.slotHeld {s : GroupRestarts} (hx : s.Exclusive) {runId : String}
    (hslot : s.inFlight = some runId) :
    (∃ call ∈ s.calls, call.holds = true ∧ call.runId = runId) ∨
      ∃ thread ∈ s.threads, thread.running = true ∧ thread.runId = runId := by
  have hcount := hx.count
  rw [hslot] at hcount
  by_cases hcalls : s.calls.countP (·.holds) = 0
  · right
    have hpos : 0 < s.threads.countP (·.running) := by
      simp only [Option.toList_some, List.length_singleton] at hcount
      omega
    obtain ⟨thread, hthread, hruns⟩ := List.countP_pos_iff.mp hpos
    have hrun := hx.threads thread hthread hruns
    exact ⟨thread, hthread, hruns, Option.some.inj (hrun.symm.trans hslot)⟩
  · left
    obtain ⟨call, hcall, hholds⟩ := List.countP_pos_iff.mp (Nat.pos_of_ne_zero hcalls)
    have hrun := hx.calls call hcall hholds
    exact ⟨call, hcall, hholds, Option.some.inj (hrun.symm.trans hslot)⟩

theorem safe_of_invariants {s : GroupRestarts} (hx : s.Exclusive) (hs : s.Settled) : s.Safe where
  oneThread := by
    have hcount := hx.count
    have hslot : s.inFlight.toList.length ≤ 1 := by cases s.inFlight <;> simp
    omega
  slotHeld := fun _ => hx.slotHeld
  noTime := hs.failed
  retried := by
    intro runId now hfailed hfree hclock
    have hretry := hs.ended runId false hfailed
    unfold checkSlot
    rw [hfree]
    dsimp only
    rw [hs.failed runId hfailed, Option.getD_none, if_neg (by omega)]

/-- **Group restarts exclude each other and never get stuck**, whatever the
calls, the threads, `docker restart` and the resumed runs do, and in whatever
order. -/
theorem group_restarts_safe (events : List (RestartEvent × Nat)) :
    Throughout step Safe init events := by
  refine throughout_of_invariant step (I := fun s => s.Exclusive ∧ s.Settled) ?_
    (fun s hs => safe_of_invariants hs.1 hs.2) ⟨exclusive_init, settled_init⟩
  intro s event s' hs h
  exact ⟨hs.1.step h, hs.2.step hs.1 h⟩

end GroupRestarts

end CheckpointRuntime
