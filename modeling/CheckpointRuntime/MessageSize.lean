import CheckpointRuntime.UploadPath
import CheckpointRuntime.Library.ProtoWire

/-!
# Does every message fit the gRPC limit?

The two directions of the data path use different chunk sizes.  An upload sends
at most one MiB of data in a message and always fits; a read sends up to four
MiB, which is the whole limit before anything else is encoded, so it fits
exactly when the shard is small enough to leave room for the other fields.
-/

namespace CheckpointRuntime

open ControlPlane Chunking ProtoWire

/-- The receive limit of a gRPC peer that is not configured otherwise. -/
def defaultMaxReceiveMessageLength : Nat := 4194304

/-- The proto3 encoding of a chunk. -/
def ShardChunk.encode (chunk : ShardChunk) : List UInt8 :=
  stringField 1 chunk.shardId ++ stringField 2 chunk.checkpointId ++
    varintField 3 (chunk.offset % 2 ^ 64) ++ bytesField 4 chunk.data ++ boolField 5 chunk.isLast

/-- A message that a peer with the default limit accepts. -/
def ShardChunk.Fits (chunk : ShardChunk) : Prop :=
  chunk.encode.length ≤ defaultMaxReceiveMessageLength

instance (chunk : ShardChunk) : Decidable chunk.Fits := inferInstanceAs (Decidable (_ ≤ _))

theorem ShardChunk.length_encode (chunk : ShardChunk) :
    chunk.encode.length =
      fieldLength chunk.shardId.utf8ByteSize + fieldLength chunk.checkpointId.utf8ByteSize +
      (varintField 3 (chunk.offset % 2 ^ 64)).length + fieldLength chunk.data.length +
      (boolField 5 chunk.isLast).length := by
  simp only [encode, List.length_append, length_stringField 1 (by omega),
    length_stringField 2 (by omega), length_bytesField 4 (by omega)]

/-! ## Uploads -/

/-- The data of the chunks of an upload are the pieces of its body. -/
theorem ControlPlane.UploadCall.map_data_chunks (call : UploadCall) :
    call.chunks.map (·.data) = pieces uploadChunkSize call.body := by
  rw [UploadCall.chunks, chunkIteratorFrom_data _ _ _ (by omega), List.drop_zero]

/-- The data of a chunk of an upload is at most one MiB. -/
theorem ControlPlane.UploadCall.length_data_le (call : UploadCall) {chunk : ShardChunk}
    (h : chunk ∈ call.chunks) : chunk.data.length ≤ uploadChunkSize := by
  have hmem : chunk.data ∈ pieces uploadChunkSize call.body :=
    call.map_data_chunks ▸ List.mem_map_of_mem h
  exact (length_of_mem_pieces (by decide) hmem).2

/-- An upload has a chunk for each MiB begun. -/
theorem ControlPlane.UploadCall.lt_length_chunks_iff (call : UploadCall) {k : Nat} :
    k < call.chunks.length ↔ k * uploadChunkSize < call.body.length := by
  rw [← lt_length_pieces_iff (by decide), ← call.map_data_chunks, List.length_map]

/-- **Every message of an upload fits.** -/
theorem ControlPlane.UploadCall.chunk_fits (call : UploadCall)
    (hshard : call.shardId.utf8ByteSize < 1024) (hrun : call.runId.utf8ByteSize < 1024)
    (hcheckpoint : call.checkpointId.utf8ByteSize < 1024) {chunk : ShardChunk}
    (h : chunk ∈ call.chunks) : chunk.Fits := by
  obtain ⟨hshardId, hcheckpointId⟩ := call.chunks_ids h
  have hdata := call.length_data_le h
  have hcomposite : call.compositeId.utf8ByteSize < 128 ^ 2 := by
    rw [UploadCall.compositeId, String.utf8ByteSize_append, String.utf8ByteSize_append,
      show "/".utf8ByteSize = 1 from rfl]
    omega
  have hone := fieldLength_le 1 call.shardId.utf8ByteSize (by omega)
  have htwo := fieldLength_le 1 _ hcomposite
  have hthree := length_varintField_le 3 (by omega) (chunk.offset % 2 ^ 64)
  have hfour := fieldLength_le 2 chunk.data.length
    (by unfold uploadChunkSize at hdata; omega)
  have hfive := length_varintField_le 5 (by omega) chunk.isLast.toNat
  rw [ShardChunk.Fits, chunk.length_encode, hshardId, hcheckpointId, boolField]
  unfold defaultMaxReceiveMessageLength
  unfold uploadChunkSize at hdata
  rw [UploadCall.compositeId, String.utf8ByteSize_append, String.utf8ByteSize_append,
    show "/".utf8ByteSize = 1 from rfl] at htwo
  rw [UploadCall.compositeId, String.utf8ByteSize_append, String.utf8ByteSize_append,
    show "/".utf8ByteSize = 1 from rfl]
  omega

/-! ## Reads -/

/-- The messages of reading a stored shard: what `readShard` answers when the
object that the manifest names has these bytes. -/
def readMessages (shardId checkpointId : String) (body : Bytes) : List ShardChunk :=
  readShardStream shardId checkpointId (pieces readChunkSize body)

/-- The first message of a shard of four MiB or more does not fit, whatever the
ids. -/
theorem exists_oversized_message (shardId checkpointId : String) {body : Bytes}
    (h : readChunkSize ≤ body.length) :
    ∃ chunk ∈ readMessages shardId checkpointId body, ¬ chunk.Fits := by
  have hpos : 0 < readChunkSize := by decide
  have hne : body ≠ [] := by
    rw [← List.length_pos_iff]
    omega
  obtain ⟨first, rest, hmessages, hfirst⟩ : ∃ first rest,
      readMessages shardId checkpointId body = first :: rest ∧
      first.data = body.take readChunkSize := by
    rw [readMessages, readShardStream, pieces_of_ne_nil hpos hne, List.mapIdx_cons]
    exact ⟨_, _, rfl, rfl⟩
  have hlength : first.data.length = readChunkSize := by
    rw [hfirst, List.length_take]
    omega
  have hdata := le_fieldLength 3 readChunkSize (by omega) (by decide)
  refine ⟨first, hmessages ▸ List.mem_cons_self, ?_⟩
  rw [ShardChunk.Fits, ShardChunk.length_encode, hlength]
  unfold defaultMaxReceiveMessageLength
  unfold readChunkSize at hdata ⊢
  omega

/-- A smaller shard is one message. -/
theorem readMessages_of_lt (shardId checkpointId : String) {body : Bytes} (hne : body ≠ [])
    (h : body.length < readChunkSize) :
    readMessages shardId checkpointId body =
      [{ shardId := shardId, checkpointId := checkpointId, offset := 0, data := body,
         isLast := true }] := by
  rw [readMessages, readShardStream, pieces_of_length_le (by decide) hne h.le]
  simp

/-- **Message sizes.**  With ids below one KiB, the messages of an upload and
of a later read of the shard all fit exactly when the shard and its two ids
leave seven bytes of the limit. -/
theorem all_messages_fit_iff (call : UploadCall)
    (hshard : call.shardId.utf8ByteSize < 1024) (hrun : call.runId.utf8ByteSize < 1024)
    (hcheckpoint : call.checkpointId.utf8ByteSize < 1024) :
    (∀ chunk ∈ call.chunks ++ readMessages call.shardId call.checkpointId call.body,
        chunk.Fits) ↔
      call.body.length + fieldLength call.shardId.utf8ByteSize +
        fieldLength call.checkpointId.utf8ByteSize + 7 ≤ defaultMaxReceiveMessageLength := by
  have hone := fieldLength_le 1 call.shardId.utf8ByteSize (by omega)
  have htwo := fieldLength_le 1 call.checkpointId.utf8ByteSize (by omega)
  have hread : (∀ chunk ∈ call.chunks ++ readMessages call.shardId call.checkpointId call.body,
      chunk.Fits) ↔
      ∀ chunk ∈ readMessages call.shardId call.checkpointId call.body, chunk.Fits := by
    constructor
    · intro h chunk hchunk
      exact h chunk (List.mem_append_right _ hchunk)
    · intro h chunk hchunk
      rcases List.mem_append.mp hchunk with hup | hdown
      · exact call.chunk_fits hshard hrun hcheckpoint hup
      · exact h chunk hdown
  rw [hread]
  unfold defaultMaxReceiveMessageLength
  by_cases hlarge : readChunkSize ≤ call.body.length
  · -- the data of the first message already reaches the limit
    obtain ⟨chunk, hmem, hnot⟩ :=
      exists_oversized_message call.shardId call.checkpointId hlarge
    apply iff_of_false (fun h => hnot (h chunk hmem))
    unfold readChunkSize at hlarge
    omega
  · by_cases hne : call.body = []
    · have hmessages : readMessages call.shardId call.checkpointId call.body = [] := by
        rw [hne]
        rfl
      rw [hmessages, hne]
      apply iff_of_true (fun chunk h => by cases h)
      rw [List.length_nil]
      omega
    · rw [readMessages_of_lt _ _ hne (by omega), List.forall_mem_singleton, ShardChunk.Fits,
        ShardChunk.length_encode]
      dsimp only
      rw [length_boolField_true (by omega)]
      unfold defaultMaxReceiveMessageLength
      unfold readChunkSize at hlarge
      have hoffset : (varintField 3 (0 % 2 ^ 64)).length = 0 := rfl
      have hdata := fieldLength_le 3 call.body.length (by omega)
      by_cases hhalf : 128 ^ 3 ≤ call.body.length
      · -- the length of the data takes four bytes
        have hdata' := le_fieldLength 3 _ (by omega) hhalf
        omega
      · omega

/-- The upload of one shard of a run. -/
def uploadOfBody (body : Bytes) : UploadCall where
  runId := "00000000000000a1"
  checkpointId := "00000000000000c1"
  shardId := "rank-0"
  rank := 0
  body := body

/-- A shard of 33 bytes less than four MiB is uploaded in four chunks, and all its
messages just fit. -/
theorem all_messages_of_largest_shard_fit :
    3 < (uploadOfBody (List.replicate 4194271 97)).chunks.length ∧
    ∀ chunk ∈ (uploadOfBody (List.replicate 4194271 97)).chunks ++
        readMessages "rank-0" "00000000000000c1" (List.replicate 4194271 97), chunk.Fits := by
  have hiff := all_messages_fit_iff (uploadOfBody (List.replicate 4194271 97)) (by decide)
    (by decide) (by decide)
  have hlength : (uploadOfBody (List.replicate 4194271 97)).body.length = 4194271 :=
    List.length_replicate
  rw [hlength] at hiff
  rw [UploadCall.lt_length_chunks_iff, hlength]
  exact ⟨by decide, hiff.mpr (by decide)⟩

/-- A shard of four MiB can be saved, but a read of it sends a message that
does not fit. -/
theorem messages_of_four_mib_shard_do_not_fit :
    ¬ ∀ chunk ∈ (uploadOfBody (List.replicate 4194304 97)).chunks ++
        readMessages "rank-0" "00000000000000c1" (List.replicate 4194304 97), chunk.Fits := by
  have hlarge : readChunkSize ≤ (List.replicate 4194304 (97 : UInt8)).length := by
    rw [List.length_replicate]
    decide
  obtain ⟨chunk, hmem, hnot⟩ := exists_oversized_message "rank-0" "00000000000000c1" hlarge
  intro h
  exact hnot (h chunk (List.mem_append_right _ hmem))

end CheckpointRuntime
