import CheckpointRuntime.CheckpointService
import CheckpointRuntime.Library.PartialRun
import CheckpointRuntime.Library.Pools

/-!
# Backpressure

The `write_shard` handler of `grpc_service.rs` between its awaits, for any
number of calls at once, and the counter that admits them.  A call takes a slot
when it raises the counter, and its handler lowers the counter by hand on every
way out except one: a future that is dropped at an await lowers nothing.
-/

namespace CheckpointRuntime

open PartialRun

/-- `BackpressureController`; a `usize` is 64 bits wide. -/
structure BackpressureController where
  queueDepth : UInt64
  maxDepth : UInt64
deriving DecidableEq, Repr

namespace BackpressureController

def new (maxDepth : UInt64) : BackpressureController where
  queueDepth := 0
  maxDepth := maxDepth

/-- `fetch_add`, which wraps around. -/
def increment (b : BackpressureController) : BackpressureController :=
  { b with queueDepth := b.queueDepth + 1 }

/-- `fetch_sub`, which wraps around. -/
def decrement (b : BackpressureController) : BackpressureController :=
  { b with queueDepth := b.queueDepth - 1 }

theorem increment_toNat {b : BackpressureController} (h : b.queueDepth.toNat + 1 < 2 ^ 64) :
    b.increment.queueDepth.toNat = b.queueDepth.toNat + 1 := by
  simp only [increment, UInt64.toNat_add, UInt64.toNat_one]
  omega

/-- One call more than the counter can count takes it back to zero. -/
theorem increment_toNat_wraps {b : BackpressureController}
    (h : 2 ^ 64 ≤ b.queueDepth.toNat + 1) : b.increment.queueDepth.toNat = 0 := by
  have hlt := b.queueDepth.toNat_lt
  simp only [increment, UInt64.toNat_add, UInt64.toNat_one]
  omega

/-- A counter that is not zero does not wrap below it. -/
theorem decrement_toNat {b : BackpressureController} (h : 0 < b.queueDepth.toNat) :
    b.decrement.queueDepth.toNat = b.queueDepth.toNat - 1 := by
  have hlt := b.queueDepth.toNat_lt
  simp only [decrement, UInt64.toNat_sub, UInt64.toNat_one]
  omega

end BackpressureController

/-- A call of `write_shard`: before the check, between the check and the
increment, at one of its awaits, answered, or dropped.  `first` is the first
chunk, `sent` what the writer has been sent. -/
inductive WriteCall
  | arrived
  | admitted
  | awaitingFirst
  | sending (first : ShardChunk) (sent : List (Except String Bytes)) (item : Except String Bytes)
  | receiving (first : ShardChunk) (sent : List (Except String Bytes))
  | awaitingWriter (first : ShardChunk) (sent : List (Except String Bytes))
  | answered (answer : Except Status WriteShardResponse)
  | dropped

/-- What lets a call go on: its thread runs, its await is over, or the client
cancels it. -/
inductive Wake
  | run
  | item (item : Option (Except String ShardChunk))
  | sent (receiving : Bool)
  | written (outcome : Except String WriteResult)
  | cancel

namespace WriteCall

/-- The call holds a slot and is still in progress. -/
def inProgress : WriteCall → Bool
  | .awaitingFirst | .sending .. | .receiving .. | .awaitingWriter .. => true
  | .arrived | .admitted | .answered _ | .dropped => false

/-- The future of the call is at a place where it can be dropped. -/
def droppable : WriteCall → Bool
  | .arrived => true
  | call => call.inProgress

/-- `Ok(Response)` or `Err(Status)` for the result of the writer. -/
def answerOf : Except String WriteResult → Except Status WriteShardResponse
  | .ok result =>
      .ok { shardId := result.shardId, totalBytes := result.totalBytes,
            sha256Checksum := result.sha256Checksum, success := true }
  | .error e => .error ⟨.internal, "Write failed: " ++ e⟩

/-- Run the handler of a call up to its next await. -/
def poll (b : BackpressureController) :
    WriteCall → Wake → Option (BackpressureController × WriteCall)
  | .arrived, .run =>
      if b.maxDepth ≤ b.queueDepth then
        some (b, .answered (.error
          ⟨.resourceExhausted, "Backpressure queue full — try again later"⟩))
      else
        some (b, .admitted)
  | .admitted, .run => some (b.increment, .awaitingFirst)
  | .awaitingFirst, .item (some (.ok first)) => some (b, .sending first [] (.ok first.data))
  | .awaitingFirst, .item (some (.error error)) =>
      some (b.decrement, .answered (.error ⟨.internal, "Stream error: " ++ error⟩))
  | .awaitingFirst, .item none =>
      some (b.decrement, .answered (.error ⟨.invalidArgument, "Shard stream was empty"⟩))
  | .sending first sent (.ok data), .sent true => some (b, .receiving first (sent ++ [.ok data]))
  | .sending first sent (.error error), .sent true =>
      some (b, .awaitingWriter first (sent ++ [.error error]))
  -- the writer has dropped its end of the channel
  | .sending first sent _, .sent false => some (b, .awaitingWriter first sent)
  | .receiving first sent, .item none => some (b, .awaitingWriter first sent)
  | .receiving first sent, .item (some (.error error)) =>
      some (b, .sending first sent (.error ("Stream error: " ++ error)))
  | .receiving first sent, .item (some (.ok chunk)) =>
      if chunk.shardId ≠ first.shardId ∨ chunk.checkpointId ≠ first.checkpointId then
        some (b, .sending first sent (.error "Shard metadata changed within the stream"))
      else
        some (b, .sending first sent (.ok chunk.data))
  | .awaitingWriter _ _, .written outcome => some (b.decrement, .answered (answerOf outcome))
  | call, .cancel => if call.droppable then some (b, .dropped) else none
  | _, _ => none

/-- What the client and the writer do in a call that nobody disturbs. -/
def undisturbed (first : ShardChunk) : List (Except String ShardChunk) → List Wake
  | [] => [.sent true, .item none]
  | .error error :: _ => [.sent true, .item (some (.error error)), .sent true]
  | .ok chunk :: stream =>
      if chunk.shardId ≠ first.shardId ∨ chunk.checkpointId ≠ first.checkpointId then
        [.sent true, .item (some (.ok chunk)), .sent true]
      else
        .sent true :: .item (some (.ok chunk)) :: undisturbed first stream

/-- A call that nobody disturbs sends the writer what `writeShard` sends it. -/
theorem run_undisturbed (b : BackpressureController) (first : ShardChunk)
    (stream : List (Except String ShardChunk)) (sent : List (Except String Bytes)) (data : Bytes) :
    run (fun s wake => poll s.1 s.2 wake) (b, .sending first sent (.ok data))
        (undisturbed first stream) =
      some (b, .awaitingWriter first
        (sent ++ .ok data :: forwardChunks first.shardId first.checkpointId stream)) := by
  induction stream generalizing sent data with
  | nil => simp [undisturbed, forwardChunks, run_cons, poll]
  | cons item stream ih =>
      cases item with
      | error error => simp [undisturbed, forwardChunks, run_cons, poll]
      | ok chunk =>
          unfold undisturbed forwardChunks
          by_cases hchanged : chunk.shardId ≠ first.shardId ∨
              chunk.checkpointId ≠ first.checkpointId
          · simp only [if_pos hchanged, run_cons, poll, Option.bind_some, run_nil,
              List.append_assoc, List.cons_append, List.nil_append]
          · have hreceived : poll b (.receiving first (sent ++ [.ok data]))
                (.item (some (.ok chunk))) =
                  some (b, .sending first (sent ++ [.ok data]) (.ok chunk.data)) :=
              if_neg hchanged
            rw [if_neg hchanged, if_neg hchanged, run_cons]
            calc run (fun s wake => poll s.1 s.2 wake) (b, .receiving first (sent ++ [.ok data]))
                  (.item (some (.ok chunk)) :: undisturbed first stream)
                = run (fun s wake => poll s.1 s.2 wake)
                    (b, .sending first (sent ++ [.ok data]) (.ok chunk.data))
                    (undisturbed first stream) := by
                  rw [run_cons, hreceived, Option.bind_some]
              _ = _ := by
                  rw [ih, List.append_assoc]
                  rfl

/-- What a call does to the counter: it takes a slot, it gives back its own, it
is dropped with it, or it goes on. -/
inductive Polled (b : BackpressureController) (call : WriteCall) (wake : Wake)
    (b' : BackpressureController) (next : WriteCall) : Prop
  | takes (hadmitted : call = .admitted) (hrun : wake = .run) (hnext : next.inProgress = true)
      (hb : b' = b.increment)
  | givesBack (hprogress : call.inProgress = true) (hrun : wake ≠ .run) (hcancel : wake ≠ .cancel)
      (hnext : next.inProgress = false) (hb : b' = b.decrement)
  | dropped (hprogress : call.inProgress = true) (hcancel : wake = .cancel)
      (hnext : next.inProgress = false) (hb : b' = b)
  | goesOn (hadmitted : call ≠ .admitted) (hcancel : wake = .cancel → call.inProgress = false)
      (hsame : next.inProgress = call.inProgress) (hb : b' = b)

theorem poll_cases {b b' : BackpressureController} {call next : WriteCall} {wake : Wake}
    (h : poll b call wake = some (b', next)) : Polled b call wake b' next := by
  unfold poll at h
  split at h
  case h_1 =>
    split at h <;> cases h <;> exact .goesOn (by simp) (by simp) rfl rfl
  case h_2 =>
    cases h
    exact .takes rfl rfl rfl rfl
  case h_4 | h_5 | h_12 =>
    cases h
    exact .givesBack rfl (by simp) (by simp) rfl rfl
  case h_11 =>
    split at h <;> cases h <;> exact .goesOn (by simp) (by simp) rfl rfl
  case h_13 =>
    obtain ⟨hdroppable, hsome⟩ := Option.ite_none_right_eq_some.mp h
    cases hsome
    cases hprogress : call.inProgress with
    | true => exact .dropped hprogress rfl rfl rfl
    | false =>
        refine .goesOn ?_ (fun _ => hprogress) hprogress.symm rfl
        intro hadmitted
        rw [hadmitted] at hdroppable
        cases hdroppable
  case h_14 => cases h
  all_goals
    cases h
    exact .goesOn (by simp) (by simp) rfl rfl

end WriteCall

/-- The calls of a server, each at its position, and their counter. -/
structure WriteCalls where
  backpressure : BackpressureController
  calls : List WriteCall

/-- A call arrives, or goes on. -/
inductive CallEvent
  | arrive
  | wake (call : Nat) (wake : Wake)

namespace WriteCalls

/-- A server that has just started. -/
def init (maxDepth : UInt64) : WriteCalls where
  backpressure := .new maxDepth
  calls := []

/-- Let one thing happen, if it can. -/
def step (s : WriteCalls) : CallEvent → Option WriteCalls
  | .arrive => some { s with calls := s.calls ++ [.arrived] }
  | .wake i wake => do
      let call ← s.calls[i]?
      let (backpressure, next) ← call.poll s.backpressure wake
      return { backpressure := backpressure, calls := s.calls.set i next }

/-- The number of admitted calls that are still in progress. -/
def inProgress (s : WriteCalls) : Nat := s.calls.countP (·.inProgress)

/-- The counter counts the calls in progress. -/
def Exact (s : WriteCalls) : Prop := s.backpressure.queueDepth.toNat = s.inProgress

instance (s : WriteCalls) : Decidable s.Exact :=
  inferInstanceAs (Decidable (_ = _))

/-- No call in progress is cancelled, and no call is admitted that the counter
cannot count. -/
def SparesSlots (s : WriteCalls) : CallEvent → Prop
  | .wake i .cancel => ∀ call, s.calls[i]? = some call → call.inProgress = false
  | .wake i .run => s.calls[i]? = some .admitted → s.inProgress + 1 < 2 ^ 64
  | _ => True

theorem sparesSlots_wake_iff {s : WriteCalls} {i : Nat} {call : WriteCall}
    (hcall : s.calls[i]? = some call) (wake : Wake) :
    s.SparesSlots (.wake i wake) ↔ (wake = .cancel → call.inProgress = false) ∧
      (wake = .run → call = .admitted → s.inProgress + 1 < 2 ^ 64) := by
  cases wake <;> simp [SparesSlots, hcall]

/-- A call that goes on is polled and put back. -/
theorem step_wake {s s' : WriteCalls} {i : Nat} {wake : Wake}
    (h : s.step (.wake i wake) = some s') :
    ∃ call next, s.calls[i]? = some call ∧
      call.poll s.backpressure wake = some (s'.backpressure, next) ∧
      s'.calls = s.calls.set i next := by
  obtain ⟨call, hcall, h⟩ := Option.bind_eq_some_iff.mp h
  obtain ⟨⟨backpressure, next⟩, hpoll, h⟩ := Option.bind_eq_some_iff.mp h
  obtain rfl := Option.some.inj h
  exact ⟨call, next, hcall, hpoll, rfl⟩

/-- Replacing a call changes the number of calls in progress by that call. -/
theorem inProgress_set {s s' : WriteCalls} {i : Nat} {call next : WriteCall}
    (hcall : s.calls[i]? = some call) (hcalls : s'.calls = s.calls.set i next) :
    s'.inProgress + (if call.inProgress then 1 else 0) =
      s.inProgress + (if next.inProgress then 1 else 0) := by
  simp only [inProgress, hcalls]
  exact Pools.countP_set next hcall

/-- A counter that counts the calls in progress is zero when there are none. -/
theorem Exact.queueDepth_eq_zero {s : WriteCalls} (h : s.Exact)
    (hnone : ∀ call ∈ s.calls, call.inProgress = false) : s.backpressure.queueDepth.toNat = 0 := by
  rw [h, inProgress, List.countP_eq_zero]
  intro call hcall
  simp [hnone call hcall]

/-- A counter that counts the calls in progress is not zero when one of them
gives back its slot. -/
theorem Exact.queueDepth_pos {s : WriteCalls} (h : s.Exact) {i : Nat} {call : WriteCall}
    (hcall : s.calls[i]? = some call) (hprogress : call.inProgress = true) :
    0 < s.backpressure.queueDepth.toNat := by
  rw [h]
  exact List.countP_pos_iff.mpr ⟨call, List.mem_of_getElem? hcall, hprogress⟩

/-- **One step.**  The counter still counts the calls in progress exactly when
the step drops none of them and admits none too many. -/
theorem exact_step_iff {s s' : WriteCalls} {event : CallEvent} (hs : s.Exact)
    (h : s.step event = some s') : s'.Exact ↔ s.SparesSlots event := by
  cases event with
  | arrive =>
      obtain rfl := Option.some.inj h
      refine iff_of_true ?_ trivial
      rw [Exact, inProgress, List.countP_append]
      exact hs
  | wake i wake =>
      obtain ⟨call, next, hcall, hpoll, hcalls⟩ := step_wake h
      have hcount := inProgress_set hcall hcalls
      rw [sparesSlots_wake_iff hcall]
      have hprogressPos := hs.queueDepth_pos hcall
      unfold Exact at hs ⊢
      cases WriteCall.poll_cases hpoll with
      | takes hadmitted hrun hnext hb =>
          have hcount' : s'.inProgress = s.inProgress + 1 := by
            have hnot : call.inProgress = false := by rw [hadmitted]; rfl
            simpa [hnot, hnext] using hcount
          rw [hb, hcount', ← hs]
          by_cases hfits : s.backpressure.queueDepth.toNat + 1 < 2 ^ 64
          · apply iff_of_true (BackpressureController.increment_toNat hfits)
            exact ⟨fun hcancel => (nomatch hrun.symm.trans hcancel), fun _ _ => hfits⟩
          · refine iff_of_false ?_ fun h => hfits (h.2 hrun hadmitted)
            rw [BackpressureController.increment_toNat_wraps (not_lt.mp hfits)]
            omega
      | givesBack hprogress hrun hcancel hnext hb =>
          have hcount' : s'.inProgress + 1 = s.inProgress := by
            simpa [hprogress, hnext] using hcount
          refine iff_of_true ?_ ⟨fun h => absurd h hcancel, fun h => absurd h hrun⟩
          rw [hb, BackpressureController.decrement_toNat (hprogressPos hprogress)]
          omega
      | dropped hprogress hcancel hnext hb =>
          have hcount' : s'.inProgress + 1 = s.inProgress := by
            simpa [hprogress, hnext] using hcount
          refine iff_of_false ?_ ?_
          · rw [hb]
            omega
          · intro h
            rw [h.1 hcancel] at hprogress
            cases hprogress
      | goesOn hadmitted hcancel hsame hb =>
          have hcount' : s'.inProgress = s.inProgress := by
            simpa [hsame] using hcount
          refine iff_of_true ?_ ⟨hcancel, fun _ h => absurd h hadmitted⟩
          rw [hb, hcount', hs]

/-- **Exact accounting.**  In a run of any calls the counter always counts the
calls in progress exactly when no call in progress is cancelled, and none is
admitted that the counter cannot count. -/
theorem backpressure_exact_iff (maxDepth : UInt64) (events : List CallEvent) :
    Throughout step Exact (init maxDepth) events ↔
      Guarded step SparesSlots (init maxDepth) events :=
  throughout_iff_guarded step (I := fun _ => True) (fun _ _ _ _ _ => trivial)
    (fun _ _ _ _ hs h => exact_step_iff hs h) trivial rfl

/-- A client cancels a call that waits for its first chunk. -/
theorem cancelled_call_keeps_slot :
    ¬ Throughout step Exact (init 64) [.arrive, .wake 0 .run, .wake 0 .run, .wake 0 .cancel] := by
  intro h
  have hexact : Exact { backpressure := ⟨1, 64⟩, calls := [.dropped] } := h.at_end step rfl
  exact absurd hexact (by decide)

end WriteCalls

end CheckpointRuntime
