import CheckpointRuntime.ShardWriter
import CheckpointRuntime.CheckpointStorage

/-!
# The gRPC checkpoint service

The messages of `checkpoint.proto` and the handlers of `grpc_service.rs`.  A
handler is a program over S3 calls; the stream of a `WriteShard` request is the
list of items it delivers, each a chunk or a transport error.
-/

namespace CheckpointRuntime

open CallProgram

structure ShardChunk where
  shardId : String
  checkpointId : String
  offset : Nat
  data : Bytes
  isLast : Bool := false
deriving DecidableEq, Repr

structure WriteShardResponse where
  shardId : String
  totalBytes : Nat
  sha256Checksum : String
  success : Bool
deriving DecidableEq, Repr

structure ReadShardRequest where
  shardId : String
  checkpointId : String
  runId : String
deriving DecidableEq, Repr

/-- The shard entries of a commit request have the fields of manifest
entries. -/
structure CommitRequest where
  checkpointId : String
  runId : String
  step : Nat
  shards : List ManifestShard
  metadata : List (String × String) := []
deriving DecidableEq, Repr

structure CommitResponse where
  success : Bool
  manifestKey : String := ""
  errorMessage : String := ""
deriving DecidableEq, Repr

structure AbortRequest where
  checkpointId : String
  runId : String
deriving DecidableEq, Repr

structure AbortResponse where
  success : Bool
  shardsDeleted : Nat
deriving DecidableEq, Repr

/-- The status codes that the service answers with. -/
inductive StatusCode
  | invalidArgument
  | notFound
  | resourceExhausted
  | internal
deriving DecidableEq, Repr

structure Status where
  code : StatusCode
  message : String
deriving DecidableEq, Repr

/-- Split a composite id at its first slash; without one it stands for both
parts. -/
def splitCompositeId (checkpointId : String) : String × String :=
  if '/' ∈ checkpointId.toList then
    (String.ofList (checkpointId.toList.takeWhile (· ≠ '/')),
      String.ofList ((checkpointId.toList.dropWhile (· ≠ '/')).drop 1))
  else
    (checkpointId, checkpointId)

/-- What the handler forwards to the writer after the first chunk: the data of
each chunk, until the metadata changes or the stream fails. -/
def forwardChunks (shardId checkpointId : String) :
    List (Except String ShardChunk) → List (Except String Bytes)
  | [] => []
  | .error error :: _ => [.error ("Stream error: " ++ error)]
  | .ok chunk :: stream =>
      if chunk.shardId ≠ shardId ∨ chunk.checkpointId ≠ checkpointId then
        [.error "Shard metadata changed within the stream"]
      else
        .ok chunk.data :: forwardChunks shardId checkpointId stream

/-- `WriteShard`, with the reading of the backpressure queue at its start. -/
def writeShard (sha256 : Bytes → String) (depth maxDepth : Nat) (uuid : String)
    (stream : List (Except String ShardChunk)) :
    S3Program (Except Status WriteShardResponse) :=
  if maxDepth ≤ depth then
    .done (.error ⟨.resourceExhausted, "Backpressure queue full — try again later"⟩)
  else
    match stream with
    | [] => .done (.error ⟨.invalidArgument, "Shard stream was empty"⟩)
    | .error error :: _ => .done (.error ⟨.internal, "Stream error: " ++ error⟩)
    | .ok first :: stream =>
        let ids := splitCompositeId first.checkpointId
        let data := .ok first.data :: forwardChunks first.shardId first.checkpointId stream
        (writeShardStream sha256 ids.1 ids.2 first.shardId uuid data).run.bind fun outcome =>
          match outcome with
          | .ok result =>
              .done (.ok { shardId := result.shardId, totalBytes := result.totalBytes,
                           sha256Checksum := result.sha256Checksum, success := true })
          | .error e => .done (.error ⟨.internal, "Write failed: " ++ e⟩)

/-- The chunk size of `ReadShard` responses: four MiB. -/
def readChunkSize : Nat := 4 * 1024 * 1024

/-- The messages of a `ReadShard` response. -/
def readShardStream (shardId checkpointId : String) (chunks : List Bytes) :
    List ShardChunk :=
  chunks.mapIdx fun i data =>
    { shardId := shardId, checkpointId := checkpointId, offset := i * readChunkSize,
      data := data, isLast := decide (i = chunks.length - 1) }

/-- `ReadShard`: look up the storage key in the manifest, then read the object. -/
def readShard (request : ReadShardRequest) : S3Program (Except Status (List ShardChunk)) :=
  (readManifest request.runId request.checkpointId).run.bind fun found =>
    match found with
    | .error e => .done (.error ⟨.internal, "Failed to read manifest: " ++ e⟩)
    | .ok none =>
        .done (.error ⟨.notFound, "Manifest not found for run=" ++ request.runId ++
          " checkpoint=" ++ request.checkpointId⟩)
    | .ok (some manifest) =>
        match manifest.shards.find? (fun s => decide (s.shardId = request.shardId)) with
        | none =>
            .done (.error ⟨.notFound, "Shard " ++ request.shardId ++ " not found in manifest"⟩)
        | some shard =>
            (readShardObject shard.storageKey readChunkSize).run.bind fun read =>
              match read with
              | .error e => .done (.error ⟨.internal, "Read failed: " ++ e⟩)
              | .ok chunks =>
                  .done (.ok (readShardStream request.shardId request.checkpointId chunks))

/-- The manifest that a commit request asks for. -/
def CommitRequest.manifest (request : CommitRequest) (now : Nat) : Manifest where
  checkpointId := request.checkpointId
  runId := request.runId
  step := request.step
  createdAt := now
  numShards := request.shards.length
  totalBytes := (request.shards.map (·.sizeBytes)).sum
  shards := request.shards
  metadata := request.metadata

/-- `CommitCheckpoint`: a failure to write is reported in the response. -/
def commitCheckpoint (request : CommitRequest) (now : Nat) : S3Program CommitResponse :=
  (writeManifest (request.manifest now)).run.bind fun outcome =>
    match outcome with
    | .ok key => .done { success := true, manifestKey := key }
    | .error e => .done { success := false, errorMessage := e }

/-- `AbortCheckpoint`. -/
def abortCheckpoint (request : AbortRequest) : S3Program (Except Status AbortResponse) :=
  (deleteCheckpointShards request.runId request.checkpointId).run.bind fun outcome =>
    match outcome with
    | .ok deleted => .done (.ok { success := true, shardsDeleted := deleted })
    | .error e => .done (.error ⟨.internal, "Abort failed: " ++ e⟩)

end CheckpointRuntime
