import CheckpointRuntime.ObjectStore

/-!
# The streaming shard writer

`checkpoint/writer.rs`: a shard arrives as a stream of chunks, leaves in
five-MiB multipart batches under a staging key, and is promoted to its
content-addressed key once its digest is known.  SHA-256 is a parameter; the
checksum worker is the `hashed` field of the loop, because it consumes the
chunks in the order in which the loop sends them.
-/

namespace CheckpointRuntime

open CallProgram

/-- `MULTIPART_PART_SIZE`: five MiB. -/
def multipartPartSize : Nat := 5 * 1024 * 1024

/-- The first sixteen hex digits of a digest. -/
def digestPrefix (sha256 : String) : String := String.ofList (sha256.toList.take 16)

/-- Build a content-addressed storage key.  Two identical payloads of one
shard map to the same object. -/
def contentAddressedKey (runId checkpointId shardId sha256 : String) : String :=
  runId ++ "/" ++ checkpointId ++ "/sha256-" ++ digestPrefix sha256 ++ "-" ++ shardId ++ ".bin"

/-- The key under which a shard is streamed before its digest is known. -/
def stagingKey (runId checkpointId shardId uuid : String) : String :=
  runId ++ "/" ++ checkpointId ++ "/.multipart-" ++ shardId ++ "-" ++ uuid

/-- The key of the checksum sidecar. -/
def sidecarKey (runId checkpointId shardId : String) : String :=
  runId ++ "/" ++ checkpointId ++ "/" ++ shardId ++ ".sha256"

structure WriteResult where
  shardId : String
  totalBytes : Nat
  sha256Checksum : String
  storageKey : String
deriving DecidableEq, Repr

/-- The loop of `take_part`: `missing` bytes of the part are still to come.
It indexes the first chunk, so it fails on an empty list. -/
def takeFragments : List Bytes → Nat → Option (Bytes × List Bytes)
  | chunks, 0 => some ([], chunks)
  | [], _ + 1 => none
  | chunk :: chunks, missing + 1 =>
      let take := min (missing + 1) chunk.length
      let fragment := chunk.take take
      let remainder := chunk.drop take
      if remainder.isEmpty then
        (takeFragments chunks (missing + 1 - take)).map fun (part, rest) =>
          (fragment ++ part, rest)
      else
        -- bytes are left over only when the part is full, so the loop ends here
        some (fragment, remainder :: chunks)

/-- Remove `partSize` bytes from a list of chunks. -/
def takePart (chunks : List Bytes) (partSize : Nat) : Option (Bytes × List Bytes) :=
  match chunks with
  | [chunk] => if chunk.length = partSize then some (chunk, []) else takeFragments [chunk] partSize
  | _ => takeFragments chunks partSize

/-- The variables of the upload loop, and the bytes its checksum worker has
consumed. -/
structure UploadLoop where
  bufferedChunks : List Bytes := []
  bufferedBytes : Nat := 0
  completedParts : List Nat := []
  partNumber : Nat := 1
  hashed : Bytes := []

/-- Take one part out of the buffer and upload it. -/
def uploadOnePart (key : String) (uploadId partSize : Nat) (loop : UploadLoop) :
    S3Client UploadLoop :=
  match takePart loop.bufferedChunks partSize with
  | none => throw "task panicked"
  | some (part, rest) => do
      let completed ← S3Client.uploadPart key uploadId loop.partNumber part
      return { loop with
        bufferedChunks := rest
        bufferedBytes := loop.bufferedBytes - partSize
        completedParts := loop.completedParts ++ [completed]
        partNumber := loop.partNumber + 1 }

/-- Upload full parts while the buffer holds one.  Every round removes at least
one byte, so as much fuel as there are buffered bytes is enough. -/
def uploadFullParts (key : String) (uploadId : Nat) :
    Nat → UploadLoop → S3Client UploadLoop
  | 0, loop => return loop
  | fuel + 1, loop =>
      if multipartPartSize ≤ loop.bufferedBytes then do
        let loop ← uploadOnePart key uploadId multipartPartSize loop
        uploadFullParts key uploadId fuel loop
      else
        return loop

/-- Take one chunk into the buffer and into the checksum. -/
def UploadLoop.receive (loop : UploadLoop) (chunk : Bytes) : UploadLoop :=
  { loop with
    bufferedChunks := loop.bufferedChunks ++ [chunk]
    bufferedBytes := loop.bufferedBytes + chunk.length
    hashed := loop.hashed ++ chunk }

/-- Consume the stream until it ends or carries an error. -/
def receiveChunks (key : String) (uploadId : Nat) :
    List (Except String Bytes) → UploadLoop → S3Client UploadLoop
  | [], loop => return loop
  | .error message :: _, _ => throw message
  | .ok chunk :: data, loop => do
      let received := loop.receive chunk
      let loop ← uploadFullParts key uploadId received.bufferedBytes received
      receiveChunks key uploadId data loop

/-- The last part carries whatever is left in the buffer. -/
def uploadLastPart (key : String) (uploadId : Nat) (loop : UploadLoop) :
    S3Client UploadLoop :=
  if 0 < loop.bufferedBytes then uploadOnePart key uploadId loop.bufferedBytes loop
  else return loop

/-- The multipart upload of a whole stream; returns the bytes that were hashed. -/
def uploadStream (key : String) (uploadId : Nat) (data : List (Except String Bytes)) :
    S3Client Bytes := do
  let loop ← receiveChunks key uploadId data {}
  let loop ← uploadLastPart key uploadId loop
  if loop.completedParts.isEmpty then
    throw "cannot write an empty shard"
  S3Client.completeMultipartUpload key uploadId loop.completedParts
  return loop.hashed

/-- Run a function, and a cleanup whose own outcome is dropped if it fails. -/
def cleaningUp {α : Type} (x : S3Client α) (cleanup : S3Client Unit) : S3Client α :=
  ExceptT.mk (x.run.bind fun outcome =>
    match outcome with
    | .ok value => .done (.ok value)
    | .error message => (S3Client.ignoring cleanup).run.bind fun _ => .done (.error message))

/-- Promote a staged object to its final key and write the checksum sidecar. -/
def promoteShard (runId checkpointId shardId uuid checksum : String) (totalBytes : Nat) :
    S3Client WriteResult := do
  let storageKey := contentAddressedKey runId checkpointId shardId checksum
  let present ← S3Client.objectExists storageKey
  if present then
    pure ()
  else
    S3Client.copyObject (stagingKey runId checkpointId shardId uuid) storageKey
  S3Client.deleteObject (stagingKey runId checkpointId shardId uuid)
  S3Client.putObject (sidecarKey runId checkpointId shardId) (.text checksum)
  return { shardId := shardId, totalBytes := totalBytes, sha256Checksum := checksum,
           storageKey := storageKey }

/-- Stream a shard to storage. -/
def writeShardStream (sha256 : Bytes → String) (runId checkpointId shardId uuid : String)
    (data : List (Except String Bytes)) : S3Client WriteResult := do
  let staging := stagingKey runId checkpointId shardId uuid
  let uploadId ← S3Client.createMultipartUpload staging
  let hashed ← cleaningUp (uploadStream staging uploadId data)
    (S3Client.abortMultipartUpload staging uploadId)
  promoteShard runId checkpointId shardId uuid (sha256 hashed) hashed.length

end CheckpointRuntime
