import Mathlib.Algebra.Order.Ring.Nat
import Mathlib.Data.List.Basic

/-!
# Domain models of the control plane

The records of `models.py` that the checkpoint path reads and writes.  A
string field with a closed set of values is an enumeration; instants are
numbers; the bounds that the request model checks on a run configuration are
fields of the structure, so an invalid configuration cannot be built.
-/

namespace CheckpointRuntime

/-- The bytes of a shard or of a request body. -/
abbrev Bytes := List UInt8

/-- Lifecycle states for a training run. -/
inductive RunState
  | created
  | running
  | checkpointing
  | committed
  | failed
  | recovering
  | cancelled
  | completed
deriving DecidableEq, Repr

/-- The text of a run state in messages and JSON. -/
def RunState.value : RunState → String
  | .created => "CREATED"
  | .running => "RUNNING"
  | .checkpointing => "CHECKPOINTING"
  | .committed => "COMMITTED"
  | .failed => "FAILED"
  | .recovering => "RECOVERING"
  | .cancelled => "CANCELLED"
  | .completed => "COMPLETED"

/-- How dataset shards are distributed across workers. -/
inductive ShardingPolicy
  | fullReplication
  | rangeSharding
  | hashSharding
  | roundRobin
deriving DecidableEq, Repr

/-- Configuration supplied when creating a new training run. -/
structure RunConfig where
  name : String
  numWorkers : Nat
  shardingPolicy : ShardingPolicy := .rangeSharding
  checkpointIntervalSteps : Nat := 500
  maxSteps : Option Nat := none
  datasetId : Option String := none
  metadata : List (String × String) := []
  name_length : 1 ≤ name.length ∧ name.length ≤ 256 := by decide
  numWorkers_pos : 0 < numWorkers := by decide
  checkpointIntervalSteps_pos : 0 < checkpointIntervalSteps := by decide
  maxSteps_pos : ∀ n ∈ maxSteps, 0 < n := by decide

/-- Configurations with every default, for the examples. -/
def soloRun : RunConfig := { name := "run", numWorkers := 1 }

def pairRun : RunConfig := { name := "run", numWorkers := 2 }

def demoRun : RunConfig := { name := "demo", numWorkers := 2 }

/-- Live status of a training run. -/
structure RunStatus where
  runId : String
  name : String
  state : RunState
  currentStep : Int := 0
  numWorkers : Nat := 0
  createdAt : Nat
  updatedAt : Nat
  config : RunConfig
  lastCheckpointId : Option String := none
  errorMessage : Option String := none
  metadata : List (String × String) := []

/-- The states of a checkpoint record: `PENDING | IN_PROGRESS | COMMITTED | FAILED`. -/
inductive CheckpointState
  | pending
  | inProgress
  | committed
  | failed
deriving DecidableEq, Repr

/-- Metadata about a single checkpoint. -/
structure CheckpointInfo where
  checkpointId : String
  runId : String
  step : Int
  state : CheckpointState := .pending
  numShards : Nat := 0
  totalBytes : Nat := 0
  createdAt : Nat
  committedAt : Option Nat := none
  shardIds : List String := []
  metadata : List (String × String) := []
deriving DecidableEq, Repr

/-- A checkpoint whose outcome is still undecided. -/
def CheckpointInfo.isOpen (info : CheckpointInfo) : Prop :=
  info.state = .pending ∨ info.state = .inProgress

instance (info : CheckpointInfo) : Decidable info.isOpen :=
  inferInstanceAs (Decidable (_ ∨ _))

/-- What the control plane remembers of an uploaded shard, and what it sends
with a commit. -/
structure ShardInfo where
  shardId : String
  rank : Int
  sizeBytes : Nat
  sha256 : String
  storageKey : String
deriving DecidableEq, Repr

/-- How `repr` prints a character between quotes; beyond Latin-1 every character counts
as printable. -/
def pyReprChar (quote c : Char) : List Char :=
  if c = quote ∨ c = '\\' then ['\\', c]
  else if c = '\t' then ['\\', 't']
  else if c = '\n' then ['\\', 'n']
  else if c = '\r' then ['\\', 'r']
  else if c.toNat < 32 ∨ 127 ≤ c.toNat ∧ c.toNat ≤ 160 ∨ c.toNat = 173 then
    ['\\', 'x', Nat.digitChar (c.toNat / 16), Nat.digitChar (c.toNat % 16)]
  else [c]

/-- How Python prints a string inside a message: between double quotes if it has single
ones only. -/
def pyRepr (s : String) : String :=
  let single := Char.ofNat 39
  let double := Char.ofNat 34
  let quote := if single ∈ s.toList ∧ double ∉ s.toList then double else single
  String.ofList (quote :: s.toList.flatMap (pyReprChar quote) ++ [quote])

example : pyRepr "it's \"\n" = "'it\\'s \"\\n'" := by decide

end CheckpointRuntime
