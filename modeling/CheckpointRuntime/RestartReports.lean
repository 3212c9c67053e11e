import CheckpointRuntime.GroupRestart

/-!
# Reported restarts

A scheduling call that answers `True` says that a restart of the run is under
way.  The rate limit reads a missing attempt time as time zero, so within the
first thirty seconds of the clock the answer is `True` and nothing happens; and
while another call holds the slot without having started its thread, the answer
runs ahead of the restart.  Apart from these two cases the answer is true.
-/

namespace CheckpointRuntime

open PartialRun

/-- The thread has not ended in failure, and it was started a moment ago. -/
def RestartThread.recent (thread : RestartThread) (now : Nat) : Bool :=
  decide (now < thread.startedAt + workerRestartRetry) &&
    decide (thread.phase ≠ .finished false)

namespace GroupRestarts

/-- The run for which the event makes a call answer `True`. -/
def answersTrue (s : GroupRestarts) (event : RestartEvent × Nat) : Option String :=
  match event.1 with
  | .check i => do
      let call ← s.calls[i]?
      if call.phase = .entered ∧ s.checkSlot call.runId event.2 = some true then some call.runId
      else none
  | .startThread i false => do
      let call ← s.calls[i]?
      if call.phase = .starting then some call.runId else none
  | _ => none

/-- A restart thread of the run is in flight, or was started less than thirty
seconds ago and has not failed. -/
def UnderWay (s : GroupRestarts) (runId : String) : Prop :=
  ∃ thread ∈ s.threads, thread.runId = runId ∧
    (thread.running = true ∨ thread.recent s.clock = true)

/-- An answer is true when it is given. -/
def ReportsRestart (s : GroupRestarts) (event : RestartEvent × Nat) : Prop :=
  ∀ next, s.step event = some next → ∀ runId, s.answersTrue event = some runId →
    next.UnderWay runId

/-- A check that finds the slot free and no attempt time comes thirty seconds
after the start of the clock or later, and one that finds the slot held for its
run by a call without a thread finds an earlier thread that is recent. -/
def ChecksInTime (s : GroupRestarts) (event : RestartEvent × Nat) : Prop :=
  ∀ i, event.1 = .check i → ∀ call, s.calls[i]? = some call → call.phase = .entered →
    (s.inFlight = none → s.lastAttempt call.runId = none → workerRestartRetry ≤ event.2) ∧
    ((∃ other ∈ s.calls, other.holds = true ∧ other.runId = call.runId) →
      ∃ thread ∈ s.threads, thread.runId = call.runId ∧ thread.recent event.2 = true)

/-! ## Attempt times and threads -/

/-- Every attempt time belongs to the holder of the slot or to a thread that has
succeeded, and threads start no earlier than their attempt. -/
structure Timed (s : GroupRestarts) : Prop where
  past : ∀ runId time, s.lastAttempt runId = some time → time ≤ s.clock
  started : ∀ thread ∈ s.threads, workerRestartRetry ≤ thread.startedAt ∧ thread.startedAt ≤ s.clock
  owned : ∀ runId time, s.lastAttempt runId = some time → s.inFlight = some runId ∨
    ∃ thread ∈ s.threads, thread.runId = runId ∧ thread.phase = .finished true ∧
      time ≤ thread.startedAt
  running : ∀ thread ∈ s.threads, thread.running = true →
    ∀ time, s.lastAttempt thread.runId = some time → time ≤ thread.startedAt

theorem timed_init : init.Timed where
  past := fun _ _ h => by cases h
  started := fun _ h => by cases h
  owned := fun _ _ h => by cases h
  running := fun _ h => by cases h

section
variable {s s' : GroupRestarts} {event : RestartEvent × Nat}

theorem Timed.tick (hs : s.Timed) {now : Nat} (hclock : s.clock ≤ now) :
    ({ s with clock := now } : GroupRestarts).Timed where
  past := fun runId time h => Nat.le_trans (hs.past runId time h) hclock
  started := fun thread h => ⟨(hs.started thread h).1, Nat.le_trans (hs.started thread h).2 hclock⟩
  owned := hs.owned
  running := hs.running

/-- Clearing an attempt time breaks nothing. -/
theorem Timed.clear (hs : s.Timed) (runId : String) : (s.setLastAttempt runId none).Timed := by
  have hold : ∀ other time, (s.setLastAttempt runId none).lastAttempt other = some time →
      s.lastAttempt other = some time := by
    intro other time h
    have h : (if other = runId then none else s.lastAttempt other) = some time := h
    split at h
    · cases h
    · exact h
  exact ⟨fun other time h => hs.past other time (hold other time h), hs.started,
    fun other time h => hs.owned other time (hold other time h),
    fun thread hthread hruns time h => hs.running thread hthread hruns time (hold _ time h)⟩

/-- Freeing the slot of a run without an attempt time breaks nothing. -/
theorem Timed.free (hs : s.Timed) {runId : String} (hnone : s.lastAttempt runId = none) :
    (s.freeSlot runId).Timed where
  past := hs.past
  started := hs.started
  running := hs.running
  owned := by
    intro other time h
    have h : s.lastAttempt other = some time := h
    rcases hs.owned other time h with hslot | hthread
    · left
      have hne : some other ≠ some runId := by
        intro hsame
        rw [Option.some.inj hsame, hnone] at h
        cases h
      show (if s.inFlight = some runId then none else s.inFlight) = some other
      rw [hslot, if_neg hne]
    · exact Or.inr hthread

theorem Timed.drop (hs : s.Timed) (runId : String) : (s.dropAttempt runId).Timed := by
  have hnone : (s.setLastAttempt runId none).lastAttempt runId = none := if_pos rfl
  have hdropped := (hs.clear runId).free hnone
  exact ⟨hdropped.past, hdropped.started, hdropped.owned, hdropped.running⟩

/-- A thread that goes on, or fails, keeps what is known of attempt times. -/
theorem Timed.setThread (hs : s.Timed) {i : Nat} {thread : RestartThread}
    (hthread : s.threads[i]? = some thread) (hruns : thread.running = true) (phase : ThreadPhase) :
    (s.setThread thread i phase).Timed where
  past := hs.past
  started := by
    intro other hother
    rcases (List.mem_or_eq_of_mem_set hother).symm with rfl | hold
    · exact hs.started thread (List.mem_of_getElem? hthread)
    · exact hs.started other hold
  owned := by
    intro runId time h
    rcases hs.owned runId time h with hslot | ⟨other, hother, hrun, hdone, htime⟩
    · exact Or.inl hslot
    · -- a thread that has succeeded is not the one that moves
      have hne : other ≠ thread := by
        intro h
        subst h
        rw [RestartThread.running, hdone] at hruns
        cases hruns
      exact Or.inr ⟨other, Pools.mem_set_of_ne _ hthread hother hne, hrun, hdone, htime⟩
  running := by
    intro other hother hother' time h
    rcases (List.mem_or_eq_of_mem_set hother).symm with rfl | hold
    · exact hs.running thread (List.mem_of_getElem? hthread) hruns time h
    · exact hs.running other hold hother' time h

/-- The slot of a thread that has just succeeded may be freed. -/
theorem Timed.succeed (hs : s.Timed) {i : Nat} {thread : RestartThread}
    (hthread : s.threads[i]? = some thread) (hruns : thread.running = true) :
    ((s.setThread thread i (.finished true)).freeSlot thread.runId).Timed := by
  have hset := hs.setThread hthread hruns (.finished true)
  refine ⟨hset.past, hset.started, fun runId time h => ?_, hset.running⟩
  have h : s.lastAttempt runId = some time := h
  by_cases hrun : runId = thread.runId
  · subst hrun
    exact Or.inr ⟨_, Pools.mem_set_self _ hthread, rfl, rfl,
      hs.running thread (List.mem_of_getElem? hthread) hruns time h⟩
  · rcases hset.owned runId time h with hslot | howner
    · left
      have hslot : s.inFlight = some runId := hslot
      have hne : some runId ≠ some thread.runId := fun hsame => hrun (Option.some.inj hsame)
      show (if s.inFlight = some thread.runId then none else s.inFlight) = some runId
      rw [hslot, if_neg hne]
    · exact Or.inr howner

theorem Timed.step (hx : s.Exclusive) (hq : s.Settled) (hs : s.Timed)
    (h : s.step event = some s') : s'.Timed := by
  obtain ⟨hclock, next, hmove, rfl⟩ := step_cases h
  have hs' : ({ s with clock := event.2 } : GroupRestarts).Timed := hs.tick hclock
  cases hmove with
  | arrive call _ h => subst h; exact ⟨hs'.past, hs'.started, hs'.owned, hs'.running⟩
  | answer i call answer _ _ _ _ h =>
      subst h
      exact ⟨hs'.past, hs'.started, hs'.owned, hs'.running⟩
  | hold i call phase _ _ _ h => subst h; exact ⟨hs'.past, hs'.started, hs'.owned, hs'.running⟩
  | take i call _ _ _ hfree h =>
      subst h
      obtain ⟨hslot, _⟩ := inFlight_of_checkSlot hfree
      obtain ⟨_, hidle⟩ := hx.of_free hslot
      refine ⟨fun runId time h => ?_, hs'.started, fun runId time h => ?_,
        fun thread hthread hruns => ?_⟩
      · have h : (if runId = call.runId then some event.2 else s.lastAttempt runId) = some time := h
        split at h
        · exact Nat.le_of_eq (Option.some.inj h).symm
        · exact hs'.past runId time h
      · have h : (if runId = call.runId then some event.2 else s.lastAttempt runId) = some time := h
        split at h
        · next hrun => exact Or.inl (congrArg some hrun.symm)
        · rcases hs.owned runId time h with hheld | howner
          · rw [hslot] at hheld
            cases hheld
          · exact Or.inr howner
      · rw [hidle thread hthread] at hruns
        cases hruns
  | start i call _ hcall hphase h =>
      subst h
      have hholds : call.holds = true := by rw [ScheduleCall.holds, hphase]
      have hslot := hx.calls call (List.mem_of_getElem? hcall) hholds
      have hretry := Nat.le_trans (hq.held call.runId hslot) hclock
      refine ⟨hs'.past, fun thread hthread => ?_, fun runId time h => ?_,
        fun thread hthread hruns time h => ?_⟩
      · rcases List.mem_append.mp hthread with hold | hnew
        · exact hs'.started thread hold
        · rw [List.mem_singleton.mp hnew]
          exact ⟨hretry, Nat.le_refl _⟩
      · rcases hs.owned runId time h with hheld | ⟨thread, hthread, howner⟩
        · exact Or.inl hheld
        · exact Or.inr ⟨thread, List.mem_append_left _ hthread, howner⟩
      · rcases List.mem_append.mp hthread with hold | hnew
        · exact hs.running thread hold hruns time h
        · rw [List.mem_singleton.mp hnew] at h ⊢
          exact hs'.past call.runId time h
  | giveUp i call phase _ _ _ h =>
      subst h
      have hquiet : ({ s.setCall call i phase with clock := event.2 } : GroupRestarts).Timed :=
        ⟨hs'.past, hs'.started, hs'.owned, hs'.running⟩
      exact hquiet.drop call.runId
  | work i thread phase hthread hruns _ h => subst h; exact hs'.setThread hthread hruns phase
  | finish i thread succeeded hthread hphase h =>
      subst h
      have hruns : thread.running = true := by rw [RestartThread.running, hphase]
      cases succeeded with
      | false => exact (hs'.setThread hthread hruns (.finished false)).drop thread.runId
      | true =>
          have hdone := hs'.succeed hthread hruns
          exact ⟨hdone.past, hdone.started, hdone.owned, hdone.running⟩
  | resume runId h => subst h; exact hs'.clear runId

/-! ## The answers -/

/-- No thread can be under way before the clock shows the retry interval. -/
theorem Timed.retry_le (hs : s.Timed) {thread : RestartThread} (hthread : thread ∈ s.threads) :
    workerRestartRetry ≤ s.clock :=
  Nat.le_trans (hs.started thread hthread).1 (hs.started thread hthread).2

/-- A limited attempt is that of a thread that has succeeded. -/
theorem Timed.recent_of_limited (hs : s.Timed) {runId : String} {time now : Nat}
    (hfree : s.inFlight = none) (htime : s.lastAttempt runId = some time)
    (hlimited : now < time + workerRestartRetry) :
    ∃ thread ∈ s.threads, thread.runId = runId ∧ thread.recent now = true := by
  rcases hs.owned runId time htime with hheld | ⟨thread, hthread, hrun, hdone, hle⟩
  · rw [hfree] at hheld
    cases hheld
  · refine ⟨thread, hthread, hrun, ?_⟩
    rw [RestartThread.recent, Bool.and_eq_true, decide_eq_true_eq, decide_eq_true_eq, hdone]
    exact ⟨by omega, by decide⟩

/-- What the first locked block answers is true exactly when the check comes in
time. -/
theorem checkSlot_iff (hx : s.Exclusive) (hs : s.Timed) {runId : String} {now : Nat}
    (hclock : s.clock ≤ now) :
    (s.checkSlot runId now = some true → ∃ thread ∈ s.threads, thread.runId = runId ∧
        (thread.running = true ∨ thread.recent now = true)) ↔
      (s.inFlight = none → s.lastAttempt runId = none → workerRestartRetry ≤ now) ∧
      ((∃ other ∈ s.calls, other.holds = true ∧ other.runId = runId) →
        ∃ thread ∈ s.threads, thread.runId = runId ∧ thread.recent now = true) := by
  cases hslot : s.inFlight with
  | none =>
      obtain ⟨hcalls, hthreads⟩ := hx.of_free hslot
      have hvacuous : (∃ other ∈ s.calls, other.holds = true ∧ other.runId = runId) →
          ∃ thread ∈ s.threads, thread.runId = runId ∧ thread.recent now = true := by
        intro h
        obtain ⟨other, hother, hholds, _⟩ := h
        rw [hcalls other hother] at hholds
        cases hholds
      refine Iff.trans ?_ (and_iff_left hvacuous).symm
      simp only [checkSlot, hslot, forall_const]
      cases htime : s.lastAttempt runId with
      | some time =>
          refine iff_of_true (fun hanswer => ?_) (fun hnone => by cases hnone)
          have hlimited : now < time + workerRestartRetry := by
            by_contra hno
            rw [Option.getD_some, if_neg hno] at hanswer
            cases hanswer
          obtain ⟨thread, hthread, hrun, hrecent⟩ := hs.recent_of_limited hslot htime hlimited
          exact ⟨thread, hthread, hrun, Or.inr hrecent⟩
      | none =>
          rw [Option.getD_none, Nat.zero_add]
          constructor
          · intro h _
            by_contra hearly
            obtain ⟨thread, hthread, _⟩ := h (if_pos (Nat.not_le.mp hearly))
            exact hearly (Nat.le_trans (hs.retry_le hthread) hclock)
          · intro h hanswer
            rw [if_neg (Nat.not_lt.mpr (h rfl))] at hanswer
            cases hanswer
  | some holder =>
      simp only [checkSlot, hslot, Option.some.injEq, decide_eq_true_eq, reduceCtorEq,
        false_imp_iff, true_and]
      constructor
      · intro h h
        obtain ⟨other, hother, hholds, hrun⟩ := h
        have hheld := hx.calls other hother hholds
        obtain rfl : runId = holder := by
          rw [← hrun]
          exact Option.some.inj (hheld.symm.trans hslot)
        obtain ⟨thread, hthread, hthreadRun, hruns | hrecent⟩ := h rfl
        · -- the slot has one holder, and it is a call
          have hcall : 0 < s.calls.countP (·.holds) :=
            List.countP_pos_iff.mpr ⟨other, hother, hholds⟩
          have hpos : 0 < s.threads.countP (·.running) :=
            List.countP_pos_iff.mpr ⟨thread, hthread, hruns⟩
          have hcount := hx.count
          rw [hslot, Option.toList_some, List.length_singleton] at hcount
          omega
        · exact ⟨thread, hthread, hthreadRun, hrecent⟩
      · intro h h
        subst h
        rcases hx.slotHeld hslot with ⟨call, hcall, hholds, hrun⟩ | hthread
        · obtain ⟨thread, hthread, hthreadRun, hrecent⟩ := h ⟨call, hcall, hholds, hrun⟩
          exact ⟨thread, hthread, hthreadRun, Or.inr hrecent⟩
        · obtain ⟨thread, hthread, hruns, hrun⟩ := hthread
          exact ⟨thread, hthread, hrun, Or.inl hruns⟩

/-- **One answer.**  It is true exactly when the check, if it is one, comes in
time. -/
theorem reportsRestart_iff (hx : s.Exclusive) (hs : s.Timed) (h : s.step event = some s') :
    s.ReportsRestart event ↔ s.ChecksInTime event := by
  have hdetermined : s.ReportsRestart event ↔
      ∀ runId, s.answersTrue event = some runId → s'.UnderWay runId := by
    constructor
    · exact fun hall => hall s' h
    · intro hone other hother
      obtain rfl := Option.some.inj (h.symm.trans hother)
      exact hone
  rw [hdetermined]
  obtain ⟨event, now⟩ := event
  obtain ⟨hclock, hmap⟩ := Option.ite_none_right_eq_some.mp h
  obtain ⟨next, hact, hnext⟩ := Option.map_eq_some_iff.mp hmap
  obtain rfl : { next with clock := now } = s' := hnext
  clear hdetermined h hmap
  cases event with
  | check i =>
      obtain ⟨call, hcall, hcheck⟩ := Option.bind_eq_some_iff.mp hact
      obtain ⟨hphase, hcheck⟩ := Option.ite_none_right_eq_some.mp hcheck
      have hthreads : next.threads = s.threads := by
        rw [← Option.some.inj hcheck, checkCall]
        split <;> rfl
      have hanswer : ∀ runId, s.answersTrue (.check i, now) = some runId ↔
          s.checkSlot call.runId now = some true ∧ call.runId = runId := by
        intro runId
        simp only [answersTrue, Option.bind_eq_bind, hcall, Option.bind_some, hphase, true_and,
          Option.ite_none_right_eq_some, Option.some.injEq]
      have hguard : s.ChecksInTime (.check i, now) ↔
          (s.inFlight = none → s.lastAttempt call.runId = none → workerRestartRetry ≤ now) ∧
          ((∃ other ∈ s.calls, other.holds = true ∧ other.runId = call.runId) →
            ∃ thread ∈ s.threads, thread.runId = call.runId ∧ thread.recent now = true) := by
        constructor
        · exact fun hall => hall i rfl call hcall hphase
        · intro hone j hj other hother _
          cases hj
          obtain rfl := Option.some.inj (hcall.symm.trans hother)
          exact hone
      rw [hguard, ← checkSlot_iff hx hs hclock]
      simp only [hanswer, UnderWay, hthreads]
      constructor
      · exact fun hall htrue => hall call.runId ⟨htrue, rfl⟩
      · intro hone runId h
        obtain ⟨htrue, rfl⟩ := h
        exact hone htrue
  | startThread i raised =>
      obtain ⟨call, hcall, hstart⟩ := Option.bind_eq_some_iff.mp hact
      obtain ⟨_, hstart⟩ := Option.ite_none_right_eq_some.mp hstart
      refine iff_of_true (fun runId hanswer => ?_) (fun _ hcheck => by cases hcheck)
      cases raised with
      | true => cases hanswer
      | false =>
          rw [← Option.some.inj hstart]
          obtain ⟨call', hcall', hanswer⟩ := Option.bind_eq_some_iff.mp hanswer
          obtain ⟨_, hanswer⟩ := Option.ite_none_right_eq_some.mp hanswer
          obtain rfl := Option.some.inj (hcall.symm.trans hcall')
          obtain rfl := Option.some.inj hanswer
          exact ⟨_, List.mem_append_right _ List.mem_cons_self, rfl, Or.inl rfl⟩
  | schedule | markWorkers | giveUp | dockerRestart | finish | resumeRun =>
      exact iff_of_true (fun _ hanswer => by cases hanswer) (fun _ hcheck => by cases hcheck)

end

/-- **Reported restarts are real, exactly.**  In every history each answer
`True` is true when it is given, exactly when every check comes in time. -/
theorem reported_restarts_iff (events : List (RestartEvent × Nat)) :
    Guarded step ReportsRestart init events ↔ Guarded step ChecksInTime init events := by
  refine guarded_congr step (I := fun s => s.Exclusive ∧ s.Settled ∧ s.Timed) ?_ ?_
    ⟨exclusive_init, settled_init, timed_init⟩
  · intro s event s' hs h
    obtain ⟨hx, hq, ht⟩ := hs
    exact ⟨hx.step h, hq.step hx h, ht.step hx hq h⟩
  · intro s event s' hs h
    exact reportsRestart_iff hs.1 hs.2.2 h

/-- A worker group that is not tied to a run file. -/
def twoContainers : RestartEnvironment where
  sharedRunPath := false
  supervisedRunId := none
  containerNames := ["ckpt-worker-0", "ckpt-worker-1"]

/-- Ten seconds after the start of the clock a first call answers `True`; there
is no thread. -/
theorem restart_reported_but_not_started :
    ¬ Guarded step ReportsRestart init
      [(.schedule "00000000000000a1" twoContainers, 10 * 10 ^ 9), (.check 0, 10 * 10 ^ 9)] := by
  rw [reported_restarts_iff]
  intro h
  have hcheck := (h _ rfl).2 _ rfl
  have hearly := (hcheck.1 0 rfl _ rfl rfl).1 rfl rfl
  exact absurd hearly (by decide)

end GroupRestarts

end CheckpointRuntime
