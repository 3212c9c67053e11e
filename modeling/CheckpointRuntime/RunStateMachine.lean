import CheckpointRuntime.RunModels

/-!
# Run lifecycle state machine

`validTransitions` is the table of `state_machine.py`; `transition` follows an
edge of it or refuses.  Every other module moves a run only through
`transition`, so the lemmas about the table at the end are the only places
that enumerate it.
-/

namespace CheckpointRuntime

/-- Raised when an invalid state transition is attempted. -/
structure InvalidTransitionError where
  current : RunState
  target : RunState
deriving DecidableEq, Repr

/-- The message of an invalid transition. -/
def InvalidTransitionError.message (e : InvalidTransitionError) : String :=
  "Invalid state transition: " ++ e.current.value ++ " -> " ++ e.target.value

/-- Map of current state to the valid next states. -/
def validTransitions : RunState → List RunState
  | .created => [.running, .cancelled]
  | .running => [.checkpointing, .failed, .cancelled, .completed]
  | .checkpointing => [.committed, .failed, .running]
  | .committed => [.running, .completed, .failed]
  | .failed => [.recovering, .cancelled]
  | .recovering => [.running, .failed, .cancelled]
  | .cancelled => []
  | .completed => []

/-- Finite state machine tracking the lifecycle of a single run. -/
structure RunStateMachine where
  state : RunState := .created
  history : List (RunState × RunState) := []
deriving DecidableEq, Repr

namespace RunStateMachine

/-- Whether the transition from the current state to `target` is valid. -/
def canTransition (m : RunStateMachine) (target : RunState) : Bool :=
  decide (target ∈ validTransitions m.state)

/-- Attempt to move to `target`; a refused attempt leaves the machine alone. -/
def transition (m : RunStateMachine) (target : RunState) :
    Except InvalidTransitionError RunStateMachine :=
  if m.canTransition target then
    .ok { state := target, history := m.history ++ [(m.state, target)] }
  else
    .error { current := m.state, target := target }

/-- A transition succeeds exactly along the edges of the table. -/
theorem transition_eq_ok_iff {m m' : RunStateMachine} {target : RunState} :
    m.transition target = .ok m' ↔
      target ∈ validTransitions m.state ∧
      m' = { state := target, history := m.history ++ [(m.state, target)] } := by
  by_cases h : target ∈ validTransitions m.state
  · simp [transition, canTransition, h, eq_comm]
  · simp [transition, canTransition, h]

/-- A refused transition names the state it found and the state it was asked
for. -/
theorem transition_eq_error_iff {m : RunStateMachine} {target : RunState}
    {e : InvalidTransitionError} :
    m.transition target = .error e ↔
      target ∉ validTransitions m.state ∧ e = { current := m.state, target := target } := by
  by_cases h : target ∈ validTransitions m.state
  · simp [transition, canTransition, h]
  · simp [transition, canTransition, h, eq_comm]

end RunStateMachine

/-- `CHECKPOINTING` is entered from `RUNNING` only. -/
theorem checkpointing_mem_validTransitions {s : RunState} :
    RunState.checkpointing ∈ validTransitions s ↔ s = .running := by
  cases s <;> decide

/-- `COMMITTED` is entered from `CHECKPOINTING` only. -/
theorem committed_mem_validTransitions {s : RunState} :
    RunState.committed ∈ validTransitions s ↔ s = .checkpointing := by
  cases s <;> decide

/-- `CANCELLED` and `COMPLETED` are terminal. -/
theorem validTransitions_terminal {s : RunState} :
    validTransitions s = [] ↔ s = .cancelled ∨ s = .completed := by
  cases s <;> decide

end CheckpointRuntime
