import CheckpointRuntime.ObjectStore
import CheckpointRuntime.Library.Chunking

/-!
# Manifests, shard reads and garbage collection

`checkpoint/manifest.rs`, `checkpoint/reader.rs` and the abort path of
`checkpoint/gc.rs`.  Writing a manifest is two calls, a probe and a put; an
abort is one listing and one delete for each key that is not a manifest.
-/

namespace CheckpointRuntime

open CallProgram Chunking

/-- The key of the manifest of a checkpoint. -/
def manifestKey (runId checkpointId : String) : String :=
  runId ++ "/" ++ checkpointId ++ "/_manifest.json"

/-- Write a manifest unless one exists. -/
def writeManifest (manifest : Manifest) : S3Client String := do
  let key := manifestKey manifest.runId manifest.checkpointId
  let present ← S3Client.objectExists key
  if present then
    return key
  else
    S3Client.putObject key (.manifest manifest)
    return key

/-- Read the manifest of a checkpoint, if it has one. -/
def readManifest (runId checkpointId : String) : S3Client (Option Manifest) := do
  let key := manifestKey runId checkpointId
  let present ← S3Client.objectExists key
  if present then
    let data ← S3Client.getObject key
    match data with
    | .manifest manifest => return some manifest
    | _ => throw "manifest is not valid JSON"
  else
    return none

/-- Read a shard by its storage key, cut into chunks.  Only shard bytes are
ever stored under a storage key of a manifest. -/
def readShardObject (storageKey : String) (chunkSize : Nat) : S3Client (List Bytes) := do
  let data ← S3Client.getObject storageKey
  match data with
  | .bytes data => return pieces chunkSize data
  | _ => throw "object is not a shard"

/-- Whether a key ends in `_manifest.json`. -/
def isManifestKey (key : String) : Bool :=
  "_manifest.json".toList.isSuffixOf key.toList

/-- Delete the keys of a list that are not manifests, and count them. -/
def deleteShardKeys : List String → Nat → S3Client Nat
  | [], deleted => return deleted
  | key :: keys, deleted =>
      if isManifestKey key then
        deleteShardKeys keys deleted
      else do
        S3Client.deleteObject key
        deleteShardKeys keys (deleted + 1)

/-- Delete all shards for a specific checkpoint. -/
def deleteCheckpointShards (runId checkpointId : String) : S3Client Nat := do
  let objects ← S3Client.listObjects (runId ++ "/" ++ checkpointId ++ "/")
  deleteShardKeys objects 0

end CheckpointRuntime
