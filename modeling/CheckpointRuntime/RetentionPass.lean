import CheckpointRuntime.InterleavedSystem
import CheckpointRuntime.HandlerEffects
import CheckpointRuntime.RetentionPolicy

/-!
# A retention pass next to everything else

`run_once` one call at a time, next to uploads and commits that go on: a page of
the listing, the run records, the clock, a batch of deletions, the lookup of a
record and its deletion.  The pass decides on what it has read, and meanwhile
the bucket goes on changing.
-/

namespace CheckpointRuntime

open Coordinator ControlPlane CallProgram StableListing PartialRun

/-! ## What a call stores -/

/-- The key of the object that a call stores when it goes through. -/
def S3Call.stores? : S3Call → Option String
  | .putObject key _ => some key
  | .copyObject _ destinationKey => some destinationKey
  | .completeMultipartUpload key _ _ => some key
  | _ => none

/-- The key of the object that the next call of a program stores. -/
def storesNext? {α : Type} (program : S3Program α) (fault : Fault) (b : Bucket) :
    Option String := do
  let op ← program.nextOp?
  if fault ≠ .refused ∧ (b.effect op).toOption.isSome then op.stores? else none

namespace Bucket

/-- Delete several keys in one call. -/
def removeAll (b : Bucket) (keys : List String) : Bucket := keys.foldl Bucket.remove b

theorem get?_removeAll (b : Bucket) (keys : List String) (key : String) :
    (b.removeAll keys).get? key = if key ∈ keys then none else b.get? key := by
  induction keys generalizing b with
  | nil => simp [removeAll]
  | cons k keys ih =>
      rw [removeAll, List.foldl_cons, ← removeAll, ih, get?_remove]
      by_cases hmem : key ∈ keys
      · rw [if_pos hmem, if_pos (List.mem_cons_of_mem _ hmem)]
      · by_cases hkey : key = k <;> simp [hmem, hkey]

@[simp] theorem uploads_removeAll (b : Bucket) (keys : List String) :
    (b.removeAll keys).uploads = b.uploads := by
  induction keys generalizing b with
  | nil => rfl
  | cons k keys ih => exact ih (b.remove k)

end Bucket

namespace System

/-- The key of the object that an event stores. -/
def stores? (s : System) : Event → Option String
  | .writeCall rpc fault => do storesNext? (← s.writes[rpc]?).program fault s.bucket
  | .commitCall rpc fault => do storesNext? (← s.commits[rpc]?).program fault s.bucket
  | _ => none

/-- The manifest that an event stores, with its key. -/
def manifestPut? (s : System) : Event → Option (String × Manifest)
  | .commitCall rpc fault => do
      match (← s.commits[rpc]?).program.nextOp? with
      | some (.putObject key (.manifest manifest)) =>
          if fault = .refused then none else some (key, manifest)
      | _ => none
  | _ => none

/-- The commit whose record an event sets to `COMMITTED`. -/
def committed? (s : System) (event : Event) : Option CommitCall :=
  (s.commitAnswer event).bind fun (call, reply) =>
    if commitAccepted reply ∧ (s.server.cp.coordinator.getCheckpoint call.checkpointId).isSome then
      some call
    else
      none

end System

/-- The objects of a committed checkpoint: its manifest and its shards. -/
def ControlPlane.CommitCall.objectKeys (call : CommitCall) : List String :=
  manifestKey call.runId call.checkpointId :: call.shards.map (·.storageKey)

/-! ## The pass -/

/-- How far a pass has come: it reads the listing page by page, the run records
and the clock, deletes batch by batch, and prunes record by record. -/
inductive Pass
  | over
  | listing (objects : List ListedObject)
  | readingRuns (objects : List ListedObject)
  | deciding (objects : List ListedObject) (runs : List RunStatus)
  | deleting (plan : Snapshot) (batches : List (List ListedObject))
  | pruning (doomed : List ListedPrefix)
  | found (doomed : ListedPrefix) (rest : List ListedPrefix)

namespace Pass

/-- The loop over the records. -/
def prune : List ListedPrefix → Pass
  | [] => .over
  | doomed => .pruning doomed

/-- The loop over the batches, and then the one over the records. -/
def delete (plan : Snapshot) : List (List ListedObject) → Pass
  | [] => .prune plan.toDelete
  | batches => .deleting plan batches

/-- The keys that the pass is still going to delete. -/
def pending : Pass → List String
  | .deleting _ batches => batches.flatten.map (·.key)
  | _ => []

/-- The keys of the batch that the pass deletes next. -/
def batch : Pass → List String
  | .deleting _ (batch :: _) => batch.map (·.key)
  | _ => []

end Pass

/-- The system and the pass.  When objects were last stored is known to the
bucket; what has been stored and committed since the pass began, and what the
passes have removed, is known to nobody and kept here to speak about it. -/
structure Upkeep where
  config : RetentionConfig
  system : System
  lastModified : String → Nat
  pass : Pass
  stored : List String
  committed : List CommitCall
  removed : List String

/-- Something happens in the system, a pass begins, its next call goes through,
or it raises; a `delete_objects` that raises may have deleted some keys.

The pass runs in a thread of its own, so its call may come in the middle of a
handler.  Then it sees the records as the handler has left them, whatever they
are, and a record that it deletes is written again. -/
inductive UpkeepEvent
  | system (event : Event)
  | begin
  | next (within : Option Coordinator)
  | fail (gone : List String)

namespace Upkeep

/-- A system that has just started; no pass has begun. -/
def init (store : KVStore) (autoRecover hasSupervisor : Bool) (config : RetentionConfig) :
    Upkeep where
  config := config
  system := .init store autoRecover hasSupervisor
  lastModified := fun _ => 0
  pass := .over
  stored := []
  committed := []
  removed := []

def get? (s : Upkeep) (key : String) : Option ObjectBody := s.system.bucket.get? key

/-- The manifest that is stored under a key. -/
def manifestAt (s : Upkeep) (key : String) : Option Manifest :=
  match s.get? key with
  | some (.manifest manifest) => some manifest
  | _ => none

/-- The objects whose keys come after all those that are listed, in key order. -/
def unlisted (s : Upkeep) (objects : List ListedObject) : List ListedObject :=
  (byKey (·.key) (s.system.bucket.objects.rows.filter fun object =>
    decide (∀ item ∈ objects, item.key < object.key))).map fun object =>
      { key := object.key, lastModified := s.lastModified object.key }

/-- The next page of the listing, at most a thousand objects. -/
def listPage (s : Upkeep) (objects : List ListedObject) : Pass :=
  let rest := s.unlisted objects
  if rest.length ≤ 1000 then .readingRuns (objects ++ rest.take 1000)
  else .listing (objects ++ rest.take 1000)

/-- The store deletes objects. -/
def clear (s : Upkeep) (keys : List String) : Upkeep :=
  { s with
    system := { s.system with bucket := s.system.bucket.removeAll keys }
    removed := keys.filter (fun key => (s.get? key).isSome) ++ s.removed }

/-- The next call of the pass goes through. -/
def next (s : Upkeep) (within : Option Coordinator) (now : Nat) : Option Upkeep :=
  let coordinator := within.getD s.system.server.cp.coordinator
  match s.pass with
  | .over => none
  | .listing objects => some { s with pass := s.listPage objects }
  | .readingRuns objects => some { s with pass := .deciding objects coordinator.listRuns }
  | .deciding objects runs =>
      let plan : Snapshot := { config := s.config, objects := objects, runs := runs, now := now }
      -- a cutoff that raises ends the pass
      some { s with pass := if plan.cutoff?.isSome then .delete plan plan.batches else .over }
  | .deleting plan (batch :: batches) =>
      some { s.clear (batch.map (·.key)) with pass := .delete plan batches }
  | .pruning (doomed :: rest) =>
      match coordinator.getCheckpoint doomed.checkpointId with
      | some checkpoint =>
          some { s with
            pass := if checkpoint.runId = doomed.runId then .found doomed rest else .prune rest }
      | none => some { s with pass := .prune rest }
  | .found doomed rest =>
      some { s with
        system := if within.isSome then s.system else s.system.setCp { s.system.server.cp with
          coordinator := coordinator.deleteCheckpoint doomed.checkpointId }
        pass := .prune rest }
  | .deleting _ [] | .pruning [] => none

/-- The next call of the pass raises, and with it the pass. -/
def fail (s : Upkeep) (gone : List String) : Option Upkeep :=
  match s.pass with
  | .over => none
  | pass => some { s.clear (pass.batch.filter (· ∈ gone)) with pass := .over }

/-- Something happens in the system.  No abort runs. -/
def serve (sha256 : Bytes → String) (s : Upkeep) (event : Event) (now : Nat) : Option Upkeep :=
  match event with
  | .abortCall _ _ => none
  | event =>
      (s.system.step sha256 (event, now)).map fun system =>
        { s with
          system := system
          lastModified := fun key =>
            if s.system.stores? event = some key then now else s.lastModified key
          stored := (s.system.stores? event).toList ++ s.stored
          committed := (s.system.committed? event).toList ++ s.committed }

/-- Let one thing happen, if it can; instants are microseconds. -/
def step (sha256 : Bytes → String) (s : Upkeep) (event : UpkeepEvent × Nat) : Option Upkeep :=
  match event.1 with
  | .system e => s.serve sha256 e event.2
  | .begin =>
      match s.pass with
      | .over => some { s with pass := .listing [], stored := [], committed := [] }
      | _ => none
  | .next within => s.next within event.2
  | .fail gone => s.fail gone

/-! ## What a pass must not do -/

/-- Every shard that a stored manifest lists is there. -/
def Complete (s : Upkeep) : Prop :=
  ∀ runId checkpointId, ∀ manifest ∈ s.manifestAt (manifestKey runId checkpointId),
    ∀ shard ∈ manifest.shards, s.get? shard.storageKey ≠ none

/-- Every checkpoint whose record was set to `COMMITTED` since the pass began has
its objects. -/
def CommittedKept (s : Upkeep) : Prop :=
  ∀ call ∈ s.committed, ∀ key ∈ call.objectKeys, s.get? key ≠ none

/-- After a pass no manifest dangles and no checkpoint that was committed
meanwhile has lost objects. -/
def Unharmed (s : Upkeep) : Prop :=
  s.pass = .over → s.Complete ∧ s.CommittedKept

/-! ## When a pass does not race -/

/-- No pass has removed the object, or it has been stored again. -/
def Untouched (s : Upkeep) (key : String) : Prop := key ∈ s.removed → s.get? key ≠ none

instance (s : Upkeep) (key : String) : Decidable (s.Untouched key) :=
  inferInstanceAs (Decidable (_ → _))

/-- The batch has no object of a checkpoint that was committed since the pass
began. -/
def SparesCommitted (s : Upkeep) (keys : List String) : Prop :=
  ∀ call ∈ s.committed, ∀ key ∈ call.objectKeys, key ∉ keys

/-- The batch has no object that is listed by a manifest that was stored since the
pass began, unless the manifest itself is still going to be deleted. -/
def SparesStored (s : Upkeep) (keys : List String) : Prop :=
  ∀ key ∈ s.stored, ∀ manifest ∈ s.manifestAt key, key ∈ s.pass.pending ∨
    ∀ shard ∈ manifest.shards, shard.storageKey ∉ keys

/-- No manifest is left that lists an object that the passes have removed, or that
is among the given keys. -/
def SparesLeft (s : Upkeep) (keys : List String) : Prop :=
  ∀ object ∈ s.system.bucket.objects.rows, ∀ manifest ∈ s.manifestAt object.key,
    object.key ∈ keys ∨
      ∀ shard ∈ manifest.shards, shard.storageKey ∉ keys ∧ s.Untouched shard.storageKey

/-- Commits and the pass keep out of each other's way: a commit neither stores a
manifest of objects that a pass has removed nor reports them as committed, and a
batch deletes nothing that was committed since the pass began.  If a batch fails,
it does not leave a manifest without its shards. -/
def KeepsOut (s : Upkeep) (event : UpkeepEvent × Nat) : Prop :=
  match event.1 with
  | .system e =>
      (∀ put ∈ s.system.manifestPut? e, put.1 ∈ s.pass.pending ∨
        ∀ shard ∈ put.2.shards, s.Untouched shard.storageKey) ∧
      ∀ call ∈ s.system.committed? e, ∀ key ∈ call.objectKeys, s.Untouched key
  | .begin => True
  | .next _ => s.SparesStored s.pass.batch ∧ s.SparesCommitted s.pass.batch
  | .fail gone =>
      s.pass.pending = [] ∨
        s.SparesLeft (s.pass.batch.filter (· ∈ gone)) ∧
          s.SparesCommitted (s.pass.batch.filter (· ∈ gone))

instance (s : Upkeep) (keys : List String) : Decidable (s.SparesCommitted keys) :=
  inferInstanceAs (Decidable (∀ call ∈ s.committed, _))

instance (s : Upkeep) (keys : List String) : Decidable (s.SparesStored keys) :=
  inferInstanceAs (Decidable (∀ key ∈ s.stored, _))

instance (s : Upkeep) (keys : List String) : Decidable (s.SparesLeft keys) :=
  inferInstanceAs (Decidable (∀ object ∈ s.system.bucket.objects.rows, _))

instance (s : Upkeep) (event : UpkeepEvent × Nat) : Decidable (s.KeepsOut event) := by
  unfold KeepsOut
  split <;> infer_instance

end Upkeep

end CheckpointRuntime
