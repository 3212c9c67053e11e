import CheckpointRuntime.RestHandlers
import CheckpointRuntime.WriterContract

/-!
# From a request body to a stored object

The upload path has two halves: the control plane cuts the body into chunks
that all carry the same ids, and the data plane puts the chunks of one stream
together again and writes them.  The first half is a matter of lists; the
second is the contract of `write_shard_stream` under the keys of the upload.
-/

namespace CheckpointRuntime

open CallProgram Chunking ControlPlane

/-! ## Cutting the body -/

/-- The chunk iterator cuts what is left of the body into pieces of one MiB. -/
theorem chunkIteratorFrom_data (shardId compositeId : String) (body : Bytes) {fuel offset : Nat}
    (hfuel : body.length ≤ offset + fuel) :
    (chunkIteratorFrom shardId compositeId body fuel offset).map (·.data) =
      pieces uploadChunkSize (body.drop offset) := by
  have hpos : 0 < uploadChunkSize := by decide
  induction fuel generalizing offset with
  | zero =>
      have hnil : body.drop offset = [] := List.drop_eq_nil_of_le (by omega)
      rw [hnil]
      rfl
  | succ fuel ih =>
      unfold chunkIteratorFrom
      by_cases hmore : offset < body.length
      · have hne : body.drop offset ≠ [] := by
          rw [← List.length_pos_iff, List.length_drop]
          omega
        have htake : (body.drop offset).take
            (min (offset + uploadChunkSize) body.length - offset) =
            (body.drop offset).take uploadChunkSize := by
          by_cases hfull : offset + uploadChunkSize ≤ body.length
          · rw [Nat.min_eq_left hfull, Nat.add_sub_cancel_left]
          · rw [Nat.min_eq_right (by omega)]
            rw [List.take_of_length_le (by rw [List.length_drop]),
              List.take_of_length_le (by rw [List.length_drop]; omega)]
        have hdrop : body.drop (min (offset + uploadChunkSize) body.length) =
            (body.drop offset).drop uploadChunkSize := by
          rw [List.drop_drop]
          by_cases hfull : offset + uploadChunkSize ≤ body.length
          · rw [Nat.min_eq_left hfull]
          · rw [Nat.min_eq_right (by omega), List.drop_length,
              List.drop_eq_nil_of_le (by omega)]
        rw [if_pos hmore, pieces_of_ne_nil hpos hne, List.map_cons, htake, ih, hdrop]
        omega
      · rw [if_neg hmore, List.drop_eq_nil_of_le (by omega)]
        rfl

/-- The chunks of an upload carry the bytes of its body, in order. -/
theorem ControlPlane.UploadCall.chunks_data (call : UploadCall) :
    (call.chunks.map (·.data)).flatten = call.body := by
  rw [UploadCall.chunks, chunkIteratorFrom_data _ _ _ (by omega), List.drop_zero,
    flatten_pieces (by decide)]

/-- Every chunk of an upload carries the ids of the upload. -/
theorem ControlPlane.UploadCall.chunks_ids (call : UploadCall) {chunk : ShardChunk}
    (h : chunk ∈ call.chunks) :
    chunk.shardId = call.shardId ∧ chunk.checkpointId = call.compositeId := by
  have hfrom : ∀ fuel offset, chunk ∈ chunkIteratorFrom call.shardId call.compositeId call.body
      fuel offset → chunk.shardId = call.shardId ∧ chunk.checkpointId = call.compositeId := by
    intro fuel
    induction fuel with
    | zero => exact fun offset h => by cases h
    | succ fuel ih =>
        intro offset h
        unfold chunkIteratorFrom at h
        split at h
        · rcases List.mem_cons.mp h with rfl | hrest
          · exact ⟨rfl, rfl⟩
          · exact ih _ hrest
        · cases h
  exact hfrom _ _ h

/-! ## Putting the stream together -/

/-- The bytes of a stream, up to its first error. -/
def streamPayload : List (Except String ShardChunk) → Bytes
  | [] => []
  | .error _ :: _ => []
  | .ok chunk :: stream => chunk.data ++ streamPayload stream

/-- All chunks of a stream carry the ids of an upload. -/
def FromCall (call : UploadCall) (stream : List (Except String ShardChunk)) : Prop :=
  ∀ chunk, .ok chunk ∈ stream →
    chunk.shardId = call.shardId ∧ chunk.checkpointId = call.compositeId

/-- A stream whose ids do not change is forwarded as it is. -/
theorem payload_forwardChunks {call : UploadCall} {stream : List (Except String ShardChunk)}
    (h : FromCall call stream) :
    payload (forwardChunks call.shardId call.compositeId stream) = streamPayload stream := by
  induction stream with
  | nil => rfl
  | cons item stream ih =>
      cases item with
      | error e => rfl
      | ok chunk =>
          obtain ⟨hshard, hcheckpoint⟩ := h chunk List.mem_cons_self
          have hrest : FromCall call stream :=
            fun chunk hmem => h chunk (List.mem_cons_of_mem _ hmem)
          unfold forwardChunks
          rw [if_neg (by simp [hshard, hcheckpoint]), payload, ih hrest, streamPayload]

/-- The whole stream of an upload has the bytes of its body. -/
theorem streamPayload_chunks (call : UploadCall) :
    streamPayload (call.chunks.map .ok) = call.body := by
  rw [← call.chunks_data]
  induction call.chunks with
  | nil => rfl
  | cons chunk chunks ih => simpa [streamPayload] using ih

theorem fromCall_chunks (call : UploadCall) : FromCall call (call.chunks.map .ok) := by
  intro chunk h
  obtain ⟨found, hfound, heq⟩ := List.mem_map.mp h
  obtain rfl := Except.ok.inj heq
  exact call.chunks_ids hfound

/-- The writer uses its ids only as one key prefix. -/
theorem writeShardStream_congr {runId checkpointId runId' checkpointId' : String}
    (h : runId ++ "/" ++ checkpointId = runId' ++ "/" ++ checkpointId')
    (sha256 : Bytes → String) (shardId uuid : String) (data : List (Except String Bytes)) :
    writeShardStream sha256 runId checkpointId shardId uuid data =
      writeShardStream sha256 runId' checkpointId' shardId uuid data := by
  unfold writeShardStream promoteShard
  simp only [stagingKey, contentAddressedKey, sidecarKey, h]

/-- The keys of an upload, and the bytes that its stream delivers. -/
def uploadTarget (sha256 : Bytes → String) (call : UploadCall) (uuid : String)
    (huuid : isUuid uuid = true) (stream : List (Except String ShardChunk)) : ShardTarget :=
  shardTarget sha256 call.runId call.checkpointId call.shardId uuid huuid (streamPayload stream)

/-- The answer to a shard write, once the writer has returned. -/
def writeResponse (result : WriteResult) : WriteShardResponse :=
  { shardId := result.shardId, totalBytes := result.totalBytes,
    sha256Checksum := result.sha256Checksum, success := true }

/-- `WriteShard` is under whatever contract the writer is under for streams with the
bytes of the upload, whether or not all chunks arrive. -/
theorem keeps_writeShard_of_stream {sha256 : Bytes → String} {call : UploadCall} {uuid : String}
    {stream : List (Except String ShardChunk)} (hstream : FromCall call stream)
    {rely guar : Bucket → Bucket → Prop} {good : WriteResult → Bucket → Prop} {b : Bucket}
    (hkeeps : ∀ data, payload data = streamPayload stream →
      ClientKeeps rely guar good (fun _ => True)
        (writeShardStream sha256 call.runId call.checkpointId call.shardId uuid data) b)
    (depth maxDepth : Nat) :
    Keeps bucketService rely guar
      (fun reply t => ∀ response, reply = .ok response →
        ∃ result, response = writeResponse result ∧ good result t)
      (writeShard sha256 depth maxDepth uuid stream) b := by
  unfold writeShard
  split
  · exact fun response h => by cases h
  · cases stream with
    | nil => exact fun response h => by cases h
    | cons item stream =>
        cases item with
        | error e => exact fun response h => by cases h
        | ok first =>
            obtain ⟨hshard, hcheckpoint⟩ := hstream first List.mem_cons_self
            have hrest : FromCall call stream :=
              fun chunk hmem => hstream chunk (List.mem_cons_of_mem _ hmem)
            have hpayload : payload (.ok first.data ::
                forwardChunks first.shardId first.checkpointId stream) =
                streamPayload (.ok first :: stream) := by
              rw [hshard, hcheckpoint, payload, payload_forwardChunks hrest, streamPayload]
            have hids := splitCompositeId_join call.runId call.checkpointId
            have hwriter := hkeeps _ hpayload
            have hcomposite : first.checkpointId = call.runId ++ "/" ++ call.checkpointId :=
              hcheckpoint
            rw [hcomposite, hshard] at hwriter
            apply Keeps.bind
            rw [hcomposite, hshard, writeShardStream_congr hids]
            refine Keeps.weaken (fun _ _ h => h) (fun _ _ h => h) ?_ hwriter
            intro outcome t houtcome
            cases outcome with
            | error e => exact fun response h => by cases h
            | ok result =>
                intro response hresponse
                exact ⟨result, (Except.ok.inj hresponse).symm, houtcome⟩

/-- **The contract of `WriteShard`** for a stream whose chunks come from an
upload, whether or not all of them arrive. -/
theorem keeps_writeShard (sha256 : Bytes → String) (depth maxDepth : Nat) (call : UploadCall)
    (uuid : String) (huuid : isUuid uuid = true) {stream : List (Except String ShardChunk)}
    (hstream : FromCall call stream) (kept alone : Prop) (b : Bucket) :
    let target := uploadTarget sha256 call uuid huuid stream
    Keeps bucketService (WriterRely target kept alone) (WriterGuar target)
      (fun reply t => ∀ response, reply = .ok response →
        response = { shardId := call.shardId, totalBytes := (streamPayload stream).length,
                     sha256Checksum := sha256 (streamPayload stream), success := true } ∧
        Written target kept alone t)
      (writeShard sha256 depth maxDepth uuid stream) b := by
  intro target
  have hwriter : ∀ data, payload data = streamPayload stream →
      ClientKeeps (WriterRely target kept alone) (WriterGuar target)
        (fun result t =>
          result = { shardId := call.shardId, totalBytes := (streamPayload stream).length,
                     sha256Checksum := sha256 (streamPayload stream),
                     storageKey := target.final } ∧
          Written target kept alone t)
        (fun _ => True)
        (writeShardStream sha256 call.runId call.checkpointId call.shardId uuid data) b := by
    intro data hdata
    have hkeeps := keeps_writeShardStream sha256 call.runId call.checkpointId call.shardId
      uuid huuid data kept alone b
    rw [hdata] at hkeeps
    exact hkeeps
  refine Keeps.weaken (fun _ _ h => h) (fun _ _ h => h) ?_
    (keeps_writeShard_of_stream hstream hwriter depth maxDepth)
  intro reply t hreply response hresponse
  obtain ⟨result, rfl, rfl, hwritten⟩ := hreply response hresponse
  exact ⟨rfl, hwritten⟩

end CheckpointRuntime
