import CheckpointRuntime.Backpressure
import CheckpointRuntime.WriterRuns
import Mathlib.Logic.Relation

/-!
# Which shard streams are acknowledged

A `WriteShard` call answers success when its writer has a result.  On the way
there the handler compares the ids of every chunk with those of the first one,
and the writer fails on an error in the stream.  Nobody reads `offset` and
`is_last`, so a stream that has lost chunks and ends cleanly is acknowledged.
-/

namespace CheckpointRuntime

open CallProgram Chunking

/-- All chunks carry the ids of the first one. -/
def OneShard (chunks : List ShardChunk) : Prop :=
  ∀ first ∈ chunks.head?, ∀ chunk ∈ chunks,
    chunk.shardId = first.shardId ∧ chunk.checkpointId = first.checkpointId

/-- The bytes that the chunks carry. -/
def dataOf (chunks : List ShardChunk) : Bytes := (chunks.map (·.data)).flatten

/-- Every offset is the number of bytes before the chunk, and exactly the last
chunk is marked as such. -/
def Marked (chunks : List ShardChunk) : Prop :=
  ∀ i chunk, chunks[i]? = some chunk →
    chunk.offset = (dataOf (chunks.take i)).length ∧
      (chunk.isLast = true ↔ i + 1 = chunks.length)

/-- The stream is a whole shard, and the answer describes it. -/
structure Intact (sha256 : Bytes → String) (stream : List (Except String ShardChunk))
    (chunks : List ShardChunk) (response : WriteShardResponse) : Prop where
  clean : stream = chunks.map .ok
  oneShard : OneShard chunks
  marked : Marked chunks
  success : response.success = true
  total : response.totalBytes = (dataOf chunks).length
  digest : response.sha256Checksum = sha256 (dataOf chunks)

/-! ## What the handler forwards -/

/-- A stream whose ids do not change is forwarded as it is. -/
theorem forwardChunks_map_ok {shardId checkpointId : String} {chunks : List ShardChunk}
    (h : ∀ chunk ∈ chunks, chunk.shardId = shardId ∧ chunk.checkpointId = checkpointId) :
    forwardChunks shardId checkpointId (chunks.map .ok) =
      (chunks.map (·.data)).map .ok := by
  induction chunks with
  | nil => rfl
  | cons chunk chunks ih =>
      obtain ⟨hshard, hcheckpoint⟩ := h chunk List.mem_cons_self
      have hrest := ih fun other hother => h other (List.mem_cons_of_mem _ hother)
      rw [List.map_cons, forwardChunks, if_neg (by simp [hshard, hcheckpoint]), hrest]
      rfl

/-- Only such a stream is forwarded without an error. -/
theorem endsCleanly_forwardChunks {shardId checkpointId : String}
    {stream : List (Except String ShardChunk)}
    (h : EndsCleanly (forwardChunks shardId checkpointId stream)) :
    ∃ chunks : List ShardChunk, stream = chunks.map .ok ∧
      ∀ chunk ∈ chunks, chunk.shardId = shardId ∧ chunk.checkpointId = checkpointId := by
  induction stream with
  | nil => exact ⟨[], rfl, fun _ h => (by cases h)⟩
  | cons item stream ih =>
      cases item with
      | error error =>
          exact absurd (h _ List.mem_cons_self) Bool.false_ne_true
      | ok chunk =>
          unfold forwardChunks at h
          split at h
          · exact absurd (h _ List.mem_cons_self) Bool.false_ne_true
          · next hsame =>
            obtain ⟨chunks, rfl, hchunks⟩ :=
              ih fun item hitem => h item (List.mem_cons_of_mem _ hitem)
            refine ⟨chunk :: chunks, rfl, fun other hother => ?_⟩
            rcases List.mem_cons.mp hother with rfl | hrest
            · rw [not_or, not_not, not_not] at hsame
              exact hsame
            · exact hchunks other hrest

/-! ## The handler beside its writer -/

/-- The writer as a function of what it has been sent when its channel is
closed. -/
abbrev Writer := ShardChunk → List (Except String Bytes) → Except String WriteResult

/-- The writer has stopped: nothing that is sent later makes a difference. -/
def Writer.Stopped (writer : Writer) (first : ShardChunk) (sent : List (Except String Bytes)) :
    Prop :=
  ∀ more, writer first (sent ++ more) = writer first sent

/-- What wakes a handler at an await: its stream delivers an item or ends, the
channel takes an item, it is closed because the writer has stopped, or the writer
has its result. -/
inductive Delivers (writer : Writer) :
    WriteCall → List (Except String ShardChunk) → Wake → List (Except String ShardChunk) → Prop
  | item {call item stream} : Delivers writer call (item :: stream) (.item (some item)) stream
  | ended {call} : Delivers writer call [] (.item none) []
  | taken {call stream} : Delivers writer call stream (.sent true) stream
  | closed {first sent item stream} (hstopped : writer.Stopped first sent) :
      Delivers writer (.sending first sent item) stream (.sent false) stream
  | written {first sent stream} :
      Delivers writer (.awaitingWriter first sent) stream (.written (writer first sent)) stream

/-- A step of a call, whatever the other calls have done to the controller. -/
def HandlerStep (writer : Writer) (s s' : WriteCall × List (Except String ShardChunk)) : Prop :=
  ∃ b b' wake, Delivers writer s.1 s.2 wake s'.2 ∧ WriteCall.poll b s.1 wake = some (b', s'.1)

/-- The answer to a stream when all of it is sent. -/
def answerTo (writer : Writer) :
    List (Except String ShardChunk) → Except Status WriteShardResponse
  | [] => .error ⟨.invalidArgument, "Shard stream was empty"⟩
  | .error error :: _ => .error ⟨.internal, "Stream error: " ++ error⟩
  | .ok first :: stream =>
      WriteCall.answerOf (writer first
        (.ok first.data :: forwardChunks first.shardId first.checkpointId stream))

/-- A call on its way to an answer. -/
def HeadsFor (writer : Writer) (answer : Except Status WriteShardResponse) :
    WriteCall × List (Except String ShardChunk) → Prop
  | (.awaitingFirst, stream) => answerTo writer stream = answer
  | (.sending first sent (.ok data), stream) =>
      WriteCall.answerOf (writer first
        (sent ++ .ok data :: forwardChunks first.shardId first.checkpointId stream)) = answer
  | (.sending first sent (.error error), _) =>
      WriteCall.answerOf (writer first (sent ++ [.error error])) = answer
  | (.receiving first sent, stream) =>
      WriteCall.answerOf (writer first
        (sent ++ forwardChunks first.shardId first.checkpointId stream)) = answer
  | (.awaitingWriter first sent, _) => WriteCall.answerOf (writer first sent) = answer
  | (.answered given, _) => given = answer
  | (.arrived, _) | (.admitted, _) | (.dropped, _) => False

/-- A step does not change the answer that a call heads for. -/
theorem HeadsFor.step {writer : Writer} {answer : Except Status WriteShardResponse}
    {s s' : WriteCall × List (Except String ShardChunk)} (h : HeadsFor writer answer s)
    (hstep : HandlerStep writer s s') : HeadsFor writer answer s' := by
  obtain ⟨call, stream⟩ := s
  obtain ⟨call', stream'⟩ := s'
  obtain ⟨b, b', wake, hdelivers, hpoll⟩ := hstep
  cases call with
  | arrived => exact h.elim
  | admitted => exact h.elim
  | dropped => exact h.elim
  | answered given => cases hdelivers <;> cases hpoll
  | awaitingFirst =>
      cases hdelivers with
      | taken => cases hpoll
      | ended =>
          cases hpoll
          exact h
      | item =>
          rename_i item
          cases item with
          | error error =>
              cases hpoll
              exact h
          | ok first =>
              cases hpoll
              exact h
  | sending first sent item =>
      cases item with
      | error error =>
          cases hdelivers with
          | item => cases hpoll
          | ended => cases hpoll
          | taken =>
              cases hpoll
              exact h
          | closed hstopped =>
              cases hpoll
              exact (congrArg WriteCall.answerOf (hstopped _)).symm.trans h
      | ok data =>
          cases hdelivers with
          | item => cases hpoll
          | ended => cases hpoll
          | taken =>
              cases hpoll
              have hsent : sent ++ [.ok data] ++
                  forwardChunks first.shardId first.checkpointId stream =
                    sent ++ .ok data :: forwardChunks first.shardId first.checkpointId stream :=
                List.append_assoc _ _ _
              exact (congrArg (fun sent => WriteCall.answerOf (writer first sent)) hsent).trans h
          | closed hstopped =>
              cases hpoll
              exact (congrArg WriteCall.answerOf (hstopped _)).symm.trans h
  | receiving first sent =>
      cases hdelivers with
      | taken => cases hpoll
      | ended =>
          cases hpoll
          have hsent : sent = sent ++ forwardChunks first.shardId first.checkpointId [] :=
            (List.append_nil sent).symm
          exact (congrArg (fun sent => WriteCall.answerOf (writer first sent)) hsent).trans h
      | item =>
          rename_i item
          cases item with
          | error error =>
              cases hpoll
              exact h
          | ok chunk =>
              unfold HeadsFor at h
              unfold forwardChunks at h
              unfold WriteCall.poll at hpoll
              dsimp only at hpoll h
              split at hpoll
              · next hchanged =>
                cases hpoll
                rw [if_pos hchanged] at h
                exact h
              · next hsame =>
                cases hpoll
                rw [if_neg hsame] at h
                exact h
  | awaitingWriter first sent =>
      cases hdelivers with
      | item => cases hpoll
      | ended => cases hpoll
      | taken => cases hpoll
      | written =>
          cases hpoll
          exact h

/-- **Any interleaving.**  However the handler, its stream and its writer take
turns, the answer is the one to the whole stream. -/
theorem answer_of_run {writer : Writer} {stream rest : List (Except String ShardChunk)}
    {answer : Except Status WriteShardResponse}
    (h : Relation.ReflTransGen (HandlerStep writer) (.awaitingFirst, stream)
      (.answered answer, rest)) : answer = answerTo writer stream := by
  have hheads : ∀ s, Relation.ReflTransGen (HandlerStep writer) (.awaitingFirst, stream) s →
      HeadsFor writer (answerTo writer stream) s := by
    intro s hrun
    induction hrun with
    | refl => exact rfl
    | tail _ hstep ih => exact ih.step hstep
  exact hheads _ h

/-! ## A call and its answer -/

/-- A `WriteShard` call: what its stream delivers, the reading of the
backpressure queue at its start, and the UUID that its writer draws. -/
structure WriteShardCall where
  stream : List (Except String ShardChunk)
  depth : Nat
  maxDepth : Nat
  uuid : String
  isUuid : isUuid uuid = true

namespace WriteShardCall

section
variable (w : WriteShardCall) (sha256 : Bytes → String) (faults : Nat → Fault) (b : Bucket)

/-- The answer of the call, and the bucket after it. -/
def answer : Except Status WriteShardResponse × Bucket :=
  (writeShard sha256 w.depth w.maxDepth w.uuid w.stream).run bucketService faults b

/-- The content-addressed key of the call for some digest. -/
def finalKey (first : ShardChunk) (digest : String) : String :=
  contentAddressedKey (splitCompositeId first.checkpointId).1
    (splitCompositeId first.checkpointId).2 first.shardId digest

/-- Whatever the digest, the object under the final key is the one of before. -/
def NothingStored (b' : Bucket) : Prop :=
  ∀ first stream, w.stream = .ok first :: stream →
    ∀ digest, b'.get? (finalKey first digest) = b.get? (finalKey first digest)

/-- Success is answered for an intact shard only, and an error when nothing was
stored. -/
structure Lawful : Prop where
  success : ∀ response, (w.answer sha256 faults b).1 = .ok response →
    ∃ chunks, Intact sha256 w.stream chunks response
  failure : ∀ status, (w.answer sha256 faults b).1 = .error status →
    w.NothingStored b (w.answer sha256 faults b).2

/-- The call is admitted, its stream is one shard and ends cleanly, and its
upload is completed. -/
structure Accepts (chunks : List ShardChunk) : Prop where
  admitted : w.depth < w.maxDepth
  clean : w.stream = chunks.map .ok
  oneShard : OneShard chunks
  staged : Stages faults ((chunks.map (·.data)).map .ok)

/-- The calls after the probe go through: two of them when it saw an object, and
three of them when it did not. -/
def Finishes (n : Nat) (seen : Prop) : Prop :=
  (seen ∧ ∀ i < 2, faults (n + i) = .none) ∨ (¬ seen ∧ ∀ i < 3, faults (n + i) = .none)

/-- The condition on an accepted stream whose upload has `n` parts. -/
def RespectsMarks : Prop :=
  ∀ first chunks, w.Accepts faults (first :: chunks) →
    let bytes := dataOf (first :: chunks)
    let n := (pieces multipartPartSize bytes).length
    let final := finalKey first (sha256 bytes)
    let seen := b.get? final ≠ none ∧ faults (n + 2) = .none
    (Finishes faults (n + 3) seen → Marked (first :: chunks)) ∧
      (¬ Finishes faults (n + 3) seen →
        seen ∨ faults (n + 3) = .refused ∨ b.get? final = some (.bytes bytes))

end

section
variable {w : WriteShardCall} {sha256 : Bytes → String} {faults : Nat → Fault} {b : Bucket}
  {first : ShardChunk} {stream : List (Except String ShardChunk)}

/-- What the writer is sent. -/
def sent (first : ShardChunk) (stream : List (Except String ShardChunk)) :
    List (Except String Bytes) :=
  .ok first.data :: forwardChunks first.shardId first.checkpointId stream

/-- The writer of a call, with its calls written down. -/
def write (w : WriteShardCall) (sha256 : Bytes → String) (faults : Nat → Fault) (b : Bucket)
    (first : ShardChunk) (stream : List (Except String ShardChunk)) :
    Except String WriteResult × LoggedBucket :=
  (writeShardStream sha256 (splitCompositeId first.checkpointId).1
    (splitCompositeId first.checkpointId).2 first.shardId w.uuid (sent first stream)).run.run
    (bucketService.logged fun n _ => faults n) (fun _ => ()) (b, [])

/-- An admitted call with a first chunk answers with the result of its writer. -/
theorem answer_eq (hadmitted : w.depth < w.maxDepth) (hstream : w.stream = .ok first :: stream) :
    w.answer sha256 faults b =
      (WriteCall.answerOf (w.write sha256 faults b first stream).1,
        (w.write sha256 faults b first stream).2.1) := by
  have hfaults : (fun n => faults (([] : List S3Call).length + n)) = faults := by
    funext n
    rw [List.length_nil, Nat.zero_add]
  have hlogged := Program.run_logged bucketService faults
    (writeShard sha256 w.depth w.maxDepth w.uuid w.stream) b []
  rw [hfaults] at hlogged
  unfold answer
  rw [hlogged]
  unfold writeShard
  rw [if_neg (Nat.not_le_of_lt hadmitted), hstream]
  dsimp only
  rw [Program.run_bind_const]
  unfold write sent
  split
  · next hresult =>
    rw [hresult]
    rfl
  · next hresult =>
    rw [hresult]
    rfl

/-- The writer of a call, as its handler sees it. -/
def writer (w : WriteShardCall) (sha256 : Bytes → String) (faults : Nat → Fault) (b : Bucket) :
    Writer := fun first sent =>
  ((writeShardStream sha256 (splitCompositeId first.checkpointId).1
    (splitCompositeId first.checkpointId).2 first.shardId w.uuid sent).run.run
    (bucketService.logged fun n _ => faults n) (fun _ => ()) (b, [])).1

/-- The answer of an admitted call does not depend on how its handler and its
writer take turns. -/
theorem interleaved_answer (hadmitted : w.depth < w.maxDepth)
    {rest : List (Except String ShardChunk)} {answer : Except Status WriteShardResponse}
    (h : Relation.ReflTransGen (HandlerStep (w.writer sha256 faults b))
      (.awaitingFirst, w.stream) (.answered answer, rest)) :
    answer = (w.answer sha256 faults b).1 := by
  rw [answer_of_run h]
  cases hstream : w.stream with
  | nil =>
      unfold WriteShardCall.answer writeShard
      rw [if_neg (Nat.not_le_of_lt hadmitted), hstream]
      rfl
  | cons item stream =>
      cases item with
      | error error =>
          unfold WriteShardCall.answer writeShard
          rw [if_neg (Nat.not_le_of_lt hadmitted), hstream]
          rfl
      | ok first =>
          rw [answer_eq hadmitted hstream]
          rfl

/-- A stream that is staged is a whole shard. -/
theorem accepts_of_stages (hadmitted : w.depth < w.maxDepth)
    (hstream : w.stream = .ok first :: stream) (hstages : Stages faults (sent first stream)) :
    ∃ chunks, stream = chunks.map .ok ∧ sent first stream =
      ((first :: chunks).map (·.data)).map .ok ∧ w.Accepts faults (first :: chunks) := by
  have hclean : EndsCleanly (forwardChunks first.shardId first.checkpointId stream) :=
    fun item hitem => hstages.clean item (List.mem_cons_of_mem _ hitem)
  obtain ⟨chunks, rfl, hsame⟩ := endsCleanly_forwardChunks hclean
  have hsent : sent first (chunks.map .ok) = ((first :: chunks).map (·.data)).map .ok := by
    unfold sent
    rw [forwardChunks_map_ok hsame]
    rfl
  refine ⟨chunks, rfl, hsent, hadmitted, hstream, ?_, hsent ▸ hstages⟩
  intro head hhead chunk hchunk
  obtain rfl := Option.some.inj hhead
  rcases List.mem_cons.mp hchunk with rfl | hrest
  · exact ⟨rfl, rfl⟩
  · exact hsame chunk hrest

/-- The chunks of an accepted stream are determined by it. -/
theorem Accepts.eq {chunks chunks' : List ShardChunk} (h : w.Accepts faults chunks)
    (h' : w.Accepts faults chunks') : chunks = chunks' := by
  have hsame := h.clean.symm.trans h'.clean
  exact List.map_injective_iff.mpr (fun _ _ => Except.ok.inj) hsame

/-- The calls after the probe, counted. -/
theorem answered_iff_finishes {seen : Prop} [Decidable seen] {n : Nat}
    {staging final sidecar checksum : String} :
    Answered (fun n _ => faults n) n (promotionCalls seen staging final sidecar checksum) ↔
      Finishes faults n seen := by
  have htwo : (∀ i < 2, faults (n + i) = .none) ↔
      faults n = .none ∧ faults (n + 1) = .none := by
    refine ⟨fun h => ⟨h 0 (by omega), h 1 (by omega)⟩, fun h i hi => ?_⟩
    rcases show i = 0 ∨ i = 1 by omega with rfl | rfl
    · exact h.1
    · exact h.2
  have hthree : (∀ i < 3, faults (n + i) = .none) ↔
      faults n = .none ∧ faults (n + 1) = .none ∧ faults (n + 2) = .none := by
    refine ⟨fun h => ⟨h 0 (by omega), h 1 (by omega), h 2 (by omega)⟩, fun h i hi => ?_⟩
    rcases show i = 0 ∨ i = 1 ∨ i = 2 by omega with rfl | rfl | rfl
    · exact h.1
    · exact h.2.1
    · exact h.2.2
  unfold promotionCalls Finishes
  rw [htwo, hthree]
  by_cases hseen : seen
  · simp [hseen, finishingCalls, Answered]
  · simp [hseen, finishingCalls, Answered]

/-- The content-addressed keys of a call are not its staging key. -/
theorem finalKey_ne_staging (digest : String) :
    finalKey first digest ≠ stagingKey (splitCompositeId first.checkpointId).1
      (splitCompositeId first.checkpointId).2 first.shardId w.uuid :=
  contentAddressedKey_ne_stagingKey w.isUuid

/-- An accepted stream has one condition to meet. -/
theorem respectsMarks_iff {chunks : List ShardChunk}
    (haccepts : w.Accepts faults (first :: chunks)) :
    let bytes := dataOf (first :: chunks)
    let n := (pieces multipartPartSize bytes).length
    let final := finalKey first (sha256 bytes)
    let seen := b.get? final ≠ none ∧ faults (n + 2) = .none
    w.RespectsMarks sha256 faults b ↔
      (Finishes faults (n + 3) seen → Marked (first :: chunks)) ∧
        (¬ Finishes faults (n + 3) seen →
          seen ∨ faults (n + 3) = .refused ∨ b.get? final = some (.bytes bytes)) := by
  intro bytes n final seen
  refine ⟨fun h => h first chunks haccepts, fun h first' chunks' haccepts' => ?_⟩
  obtain ⟨rfl, rfl⟩ := List.cons.inj (haccepts.eq haccepts')
  exact h

/-- What is stored under the keys of a call is seen at the key of its digest. -/
theorem nothingStored_iff (hstream : w.stream = .ok first :: stream) {b' : Bucket}
    (digest : String)
    (hothers : ∀ key, key ≠ stagingKey (splitCompositeId first.checkpointId).1
        (splitCompositeId first.checkpointId).2 first.shardId w.uuid →
      key ≠ finalKey first digest →
      key ≠ sidecarKey (splitCompositeId first.checkpointId).1
        (splitCompositeId first.checkpointId).2 first.shardId → b'.get? key = b.get? key) :
    w.NothingStored b b' ↔
      b'.get? (finalKey first digest) = b.get? (finalKey first digest) := by
  refine ⟨fun h => h first stream hstream digest, fun h first' stream' hstream' digest' => ?_⟩
  obtain ⟨hfirst, -⟩ := List.cons.inj (hstream.symm.trans hstream')
  obtain rfl := Except.ok.inj hfirst
  by_cases hkey : finalKey first digest' = finalKey first digest
  · rw [hkey]
    exact h
  · exact hothers _ (finalKey_ne_staging digest') hkey contentAddressedKey_ne_sidecarKey

/-- The promotion of an accepted stream. -/
theorem ends_promotion {chunks : List ShardChunk} (haccepts : w.Accepts faults (first :: chunks)) :
    let bytes := dataOf (first :: chunks)
    let run := (splitCompositeId first.checkpointId).1
    let checkpoint := (splitCompositeId first.checkpointId).2
    let staging := stagingKey run checkpoint first.shardId w.uuid
    Ends (fun n _ => faults n)
      (promoteShard run checkpoint first.shardId w.uuid (sha256 bytes) bytes.length)
      (b.numbered.staged staging b.nextUpload bytes, stagingCalls staging b.nextUpload bytes)
      (fun result _ => (∃ chunks, Intact sha256 w.stream chunks
          { shardId := result.shardId, totalBytes := result.totalBytes,
            sha256Checksum := result.sha256Checksum, success := true }) ↔
        w.RespectsMarks sha256 faults b)
      (fun t => w.NothingStored b t.1 ↔ w.RespectsMarks sha256 faults b) := by
  intro bytes run checkpoint staging
  have hget : ∀ key, key ≠ staging →
      (b.numbered.staged staging b.nextUpload bytes).get? key = b.get? key := by
    intro key hkey
    rw [Bucket.staged, Bucket.get?_store, if_neg hkey]
    rfl
  have hlog : (stagingCalls staging b.nextUpload bytes).length =
      (pieces multipartPartSize bytes).length + 2 := length_stagingCalls _ _ _
  have hfinal := hget (finalKey first (sha256 bytes)) (finalKey_ne_staging _)
  -- the promotion starts from the staged bucket, with the calls of the staging in its log
  obtain ⟨s, hs⟩ : ∃ s : LoggedBucket, s = (b.numbered.staged staging b.nextUpload bytes,
    stagingCalls staging b.nextUpload bytes) := ⟨_, rfl⟩
  have hseen : Seen faults (finalKey first (sha256 bytes)) s =
      (b.get? (finalKey first (sha256 bytes)) ≠ none ∧
        faults ((pieces multipartPartSize bytes).length + 2) = .none) := by
    unfold Seen
    rw [hs, hfinal, hlog]
  have hnumber : s.2.length + 1 = (pieces multipartPartSize bytes).length + 3 := by
    rw [hs, hlog]
  have hstaged : s.1.get? (stagingKey run checkpoint first.shardId w.uuid) =
      some (.bytes bytes) := by
    rw [hs, Bucket.staged, Bucket.get?_store]
    exact if_pos rfl
  have hpattern : ∀ (n : Nat) (op : S3Call), op.cleansUp = false →
      (fun n _ => faults n : Nat → S3Call → Fault) n op = faults n := fun _ _ _ => rfl
  have hrespects : w.RespectsMarks sha256 faults b ↔ _ := respectsMarks_iff haccepts
  rw [← hs, hrespects]
  refine (ends_promoteShard hpattern w.isUuid hstaged).weaken ?_ ?_
  · intro result t h
    obtain ⟨hanswered, rfl, -⟩ := h
    have hfinishes : Finishes faults (s.2.length + 1)
        (Seen faults (finalKey first (sha256 bytes)) s) := answered_iff_finishes.mp hanswered
    rw [hseen, hnumber] at hfinishes
    constructor
    · intro h
      obtain ⟨chunks', h⟩ := h
      have hsame := List.map_injective_iff.mpr (fun _ _ => Except.ok.inj)
        (h.clean.symm.trans haccepts.clean)
      rw [hsame] at h
      exact ⟨fun _ => h.marked, fun hnot => absurd hfinishes hnot⟩
    · intro h
      obtain ⟨hmarked, -⟩ := h
      exact ⟨first :: chunks, haccepts.clean, haccepts.oneShard, hmarked hfinishes, rfl, rfl, rfl⟩
  · intro t h
    obtain ⟨hnot, hstored, hothers, -⟩ := h
    have hfailed : ¬ Finishes faults (s.2.length + 1)
        (Seen faults (finalKey first (sha256 bytes)) s) := mt answered_iff_finishes.mpr hnot
    have hstored' : t.1.get? (finalKey first (sha256 bytes)) =
        if Seen faults (finalKey first (sha256 bytes)) s ∨ faults (s.2.length + 1) = .refused then
          s.1.get? (finalKey first (sha256 bytes)) else some (.bytes bytes) := hstored
    have hnothing : w.NothingStored b t.1 ↔ _ :=
      nothingStored_iff haccepts.clean (sha256 bytes) fun key h1 h2 h3 =>
        (hothers key h1 h2 h3).trans (hs ▸ hget key h1)
    rw [hnothing, hstored', ← or_assoc]
    rw [hseen, hnumber] at hfailed
    split
    · next hkept =>
      rw [hseen, hnumber] at hkept
      rw [hs, hfinal]
      exact iff_of_true rfl ⟨fun h => absurd h hfailed, fun _ => Or.inl hkept⟩
    · next hcopied =>
      rw [hseen, hnumber] at hcopied
      constructor
      · intro hbytes
        exact ⟨fun h => absurd h hfailed, fun _ => Or.inr hbytes.symm⟩
      · intro h
        obtain ⟨-, h⟩ := h
        exact ((h hfailed).resolve_left hcopied).symm

/-- The writer of an accepted stream stages it. -/
theorem Accepts.stages_sent {first' : ShardChunk} {chunks : List ShardChunk}
    (h : w.Accepts faults (first' :: chunks)) (hstream : w.stream = .ok first :: stream) :
    Stages faults (sent first stream) := by
  obtain ⟨hfirst, hrest⟩ := List.cons.inj (hstream.symm.trans h.clean)
  obtain rfl := Except.ok.inj hfirst
  have hsame : ∀ chunk ∈ chunks,
      chunk.shardId = first.shardId ∧ chunk.checkpointId = first.checkpointId :=
    fun chunk hchunk => h.oneShard first rfl chunk (List.mem_cons_of_mem _ hchunk)
  unfold sent
  rw [hrest, forwardChunks_map_ok hsame]
  exact h.staged

/-- A call that is refused before its writer starts stores nothing. -/
theorem answer_of_not_started (sha256 : Bytes → String) (h : w.maxDepth ≤ w.depth ∨ ∀ first stream,
    w.stream ≠ .ok first :: stream) :
    ∃ status, w.answer sha256 faults b = (.error status, b) := by
  unfold answer writeShard
  split
  · exact ⟨_, rfl⟩
  · next hadmitted =>
    have hstream := h.resolve_left hadmitted
    split
    · exact ⟨_, rfl⟩
    · exact ⟨_, rfl⟩
    · next first stream hfirst => exact absurd hfirst (hstream first stream)

/-- **Acknowledged streams.**  The answers of a call are lawful exactly when an
accepted stream has the right marks, and a promotion that fails has not stored
anything new. -/
theorem lawful_iff (w : WriteShardCall) (sha256 : Bytes → String) (faults : Nat → Fault)
    (b : Bucket) : w.Lawful sha256 faults b ↔ w.RespectsMarks sha256 faults b := by
  by_cases hstarted : w.maxDepth ≤ w.depth ∨ ∀ first stream, w.stream ≠ .ok first :: stream
  · obtain ⟨status, hanswer⟩ := answer_of_not_started sha256 hstarted
    refine iff_of_true ⟨fun response h => ?_, fun _ _ first stream _ digest => ?_⟩ ?_
    · rw [hanswer] at h
      cases h
    · rw [hanswer]
    · intro first chunks haccepts
      rcases hstarted with hfull | hnone
      · exact absurd haccepts.admitted (Nat.not_lt_of_le hfull)
      · exact absurd haccepts.clean (hnone first _)
  · rw [not_or, Nat.not_le] at hstarted
    obtain ⟨hadmitted, hsome⟩ := hstarted
    obtain ⟨first, stream, hstream⟩ : ∃ first stream, w.stream = .ok first :: stream := by
      simpa only [not_forall, not_not] using hsome
    have hpattern : ∀ (n : Nat) (op : S3Call), op.cleansUp = false →
        (fun n _ => faults n : Nat → S3Call → Fault) n op = faults n := fun _ _ _ => rfl
    have hends : Ends (fun n _ => faults n)
        (writeShardStream sha256 (splitCompositeId first.checkpointId).1
          (splitCompositeId first.checkpointId).2 first.shardId w.uuid (sent first stream)) (b, [])
        (fun result _ => (∃ chunks, Intact sha256 w.stream chunks
            { shardId := result.shardId, totalBytes := result.totalBytes,
              sha256Checksum := result.sha256Checksum, success := true }) ↔
          w.RespectsMarks sha256 faults b)
        (fun t => w.NothingStored b t.1 ↔ w.RespectsMarks sha256 faults b) := by
      refine ends_writeShardStream hpattern (fun hstages => ?_) fun hnot t hunstaged => ?_
      · obtain ⟨chunks, rfl, hsent, haccepts⟩ := accepts_of_stages hadmitted hstream hstages
        rw [hsent, payload_map_ok]
        exact ends_promotion haccepts
      · refine iff_of_true (fun first' stream' hstream' digest => ?_) ?_
        · obtain ⟨hfirst, -⟩ := List.cons.inj (hstream.symm.trans hstream')
          obtain rfl := Except.ok.inj hfirst
          exact hunstaged.elsewhere _ (finalKey_ne_staging digest)
        · exact fun first' chunks haccepts => absurd (haccepts.stages_sent hstream) hnot
    have hanswer : w.answer sha256 faults b = _ := answer_eq hadmitted hstream
    cases hrun : w.write sha256 faults b first stream with
    | mk outcome t =>
        rw [hrun] at hanswer
        cases outcome with
        | ok result =>
            rw [← hends.ok hrun]
            constructor
            · intro h
              exact h.success _ (by rw [hanswer]; rfl)
            · intro h
              refine ⟨fun response hok => ?_, fun status herror => ?_⟩
              · rw [hanswer] at hok
                obtain rfl := Except.ok.inj hok
                exact h
              · rw [hanswer] at herror
                cases herror
        | error message =>
            rw [← hends.error hrun]
            constructor
            · intro h
              have hnothing := h.failure _ (by rw [hanswer]; rfl)
              rw [hanswer] at hnothing
              exact hnothing
            · intro h
              refine ⟨fun response hok => ?_, fun status herror => ?_⟩
              · rw [hanswer] at hok
                cases hok
              · rw [hanswer]
                exact h

/-- A chunk of one byte that is not the last one. -/
def firstOfMany : ShardChunk where
  shardId := "rank-0"
  checkpointId := "run/ckpt"
  offset := 0
  data := [7]
  isLast := false

theorem isUuid_truncated :
    CheckpointRuntime.isUuid "123e4567-e89b-42d3-a456-426614174001" = true := by
  decide

/-- The stream ends after its first chunk. -/
def truncated : WriteShardCall where
  stream := [.ok firstOfMany]
  depth := 0
  maxDepth := 8
  uuid := "123e4567-e89b-42d3-a456-426614174001"
  isUuid := isUuid_truncated

theorem truncated_stream_acknowledged :
    ¬ truncated.Lawful
      (fun _ => "ca358758f6d27e6cf45272937977a748fd88391db679ceda7dc7bf1f005ee879")
      (fun _ => .none) .empty := by
  intro h
  have hok : (truncated.answer
      (fun _ => "ca358758f6d27e6cf45272937977a748fd88391db679ceda7dc7bf1f005ee879")
      (fun _ => .none) .empty).1.isOk = true := by decide +kernel
  cases hanswer : (truncated.answer
      (fun _ => "ca358758f6d27e6cf45272937977a748fd88391db679ceda7dc7bf1f005ee879")
      (fun _ => .none) .empty).1 with
  | error status =>
      rw [hanswer] at hok
      cases hok
  | ok response =>
      obtain ⟨chunks, hintact⟩ := h.success response hanswer
      have hsame : [firstOfMany] = chunks :=
        List.map_injective_iff.mpr (fun _ _ => Except.ok.inj) hintact.clean
      have hmarked := hintact.marked
      rw [← hsame] at hmarked
      exact absurd ((hmarked 0 firstOfMany rfl).2.mpr rfl) (by decide)

end

end WriteShardCall

end CheckpointRuntime
