import CheckpointRuntime.WriterContract
import CheckpointRuntime.Library.Chunking

/-!
# Runs of the shard writer, call by call

What `write_shard_stream` does when it runs alone and its calls go wrong by a
given pattern.  Over the bucket a log of the calls is kept, so the pattern may
ask for the number of a call.

The loop invariant is `Sending`: the parts sent so far are the calls in the log.
A stream that is staged leaves the staged object and `stagingCalls`, and it is
staged exactly when `Stages` holds of it and of the faults.
-/

namespace CheckpointRuntime

open CallProgram Chunking

/-- A bucket, and the calls that it was asked for. -/
abbrev LoggedBucket := Bucket × List S3Call

section
variable {α β : Type} {pattern : Nat → S3Call → Fault} {s : LoggedBucket}

/-- Executed alone, a client function returns a value with `good`, or it fails
with `bad`. -/
def Ends (pattern : Nat → S3Call → Fault) (x : S3Client α) (s : LoggedBucket)
    (good : α → LoggedBucket → Prop) (bad : LoggedBucket → Prop) : Prop :=
  match x.run.run (bucketService.logged pattern) (fun _ => ()) s with
  | (.ok value, t) => good value t
  | (.error _, t) => bad t

variable {good : α → LoggedBucket → Prop} {bad : LoggedBucket → Prop}

theorem Ends.ok {x : S3Client α} (h : Ends pattern x s good bad) {value : α} {t : LoggedBucket}
    (hrun : x.run.run (bucketService.logged pattern) (fun _ => ()) s = (.ok value, t)) :
    good value t := by
  unfold Ends at h
  rw [hrun] at h
  exact h

theorem Ends.error {x : S3Client α} (h : Ends pattern x s good bad) {message : String}
    {t : LoggedBucket}
    (hrun : x.run.run (bucketService.logged pattern) (fun _ => ()) s = (.error message, t)) :
    bad t := by
  unfold Ends at h
  rw [hrun] at h
  exact h

theorem Ends.pure {value : α} (h : good value s) : Ends pattern (pure value) s good bad := h

theorem Ends.throw {message : String} (h : bad s) :
    Ends pattern (throw message : S3Client α) s good bad := h

theorem Ends.weaken {good' : α → LoggedBucket → Prop} {bad' : LoggedBucket → Prop}
    {x : S3Client α} (h : Ends pattern x s good bad)
    (hgood : ∀ value t, good value t → good' value t) (hbad : ∀ t, bad t → bad' t) :
    Ends pattern x s good' bad' := by
  unfold Ends at h ⊢
  split
  · next hrun =>
    rw [hrun] at h
    exact hgood _ _ h
  · next hrun =>
    rw [hrun] at h
    exact hbad _ h

/-- Sequential composition; a failure of the first function is one of the
whole. -/
theorem Ends.bind {good' : β → LoggedBucket → Prop} {x : S3Client α} {f : α → S3Client β}
    (h : Ends pattern x s (fun value t => Ends pattern (f value) t good' bad) bad) :
    Ends pattern (x >>= f) s good' bad := by
  have hbind : (x >>= f).run.run (bucketService.logged pattern) (fun _ => ()) s = _ :=
    Program.run_bind_const (bucketService.logged pattern) () x.run _ s
  unfold Ends at h ⊢
  rw [hbind]
  split at h
  · next hrun =>
    rw [hrun]
    exact h
  · next hrun =>
    rw [hrun]
    exact h

/-- The run of a single call. -/
theorem run_await_logged (op : S3Call) :
    (S3Client.await op).run.run (bucketService.logged pattern) (fun _ => ()) s =
      ((bucketService.answer (pattern s.2.length op) s.1 op).2.mapError S3Error.message,
        (bucketService.answer (pattern s.2.length op) s.1 op).1, s.2 ++ [op]) := rfl

/-- One call that the bucket can answer. -/
theorem Ends.await {op : S3Call} {good : op.Result → LoggedBucket → Prop} {b : Bucket}
    {result : op.Result} (heffect : s.1.effect op = .ok (b, result))
    (hnone : pattern s.2.length op = .none → good result (b, s.2 ++ [op]))
    (hrefused : pattern s.2.length op = .refused → bad (s.1, s.2 ++ [op]))
    (hlost : pattern s.2.length op = .lost → bad (b, s.2 ++ [op])) :
    Ends pattern (S3Client.await op) s good bad := by
  unfold Ends
  rw [run_await_logged]
  cases hfault : pattern s.2.length op with
  | none =>
      simp only [bucketService, heffect]
      exact hnone hfault
  | refused => exact hrefused hfault
  | lost =>
      simp only [bucketService, heffect]
      exact hlost hfault

/-- One call that the bucket rejects. -/
theorem Ends.await_rejected {op : S3Call} {good : op.Result → LoggedBucket → Prop} {e : S3Error}
    (heffect : s.1.effect op = .error e) (hbad : bad (s.1, s.2 ++ [op])) :
    Ends pattern (S3Client.await op) s good bad := by
  unfold Ends
  rw [run_await_logged]
  cases hfault : pattern s.2.length op with
  | none =>
      simp only [bucketService, heffect]
      exact hbad
  | refused => exact hbad
  | lost =>
      simp only [bucketService, heffect]
      exact hbad

theorem Ends.objectExists {key : String} {good : Bool → LoggedBucket → Prop}
    (hseen : s.1.get? key ≠ none ∧ pattern s.2.length (.headObject key) = .none →
      good true (s.1, s.2 ++ [.headObject key]))
    (hunseen : ¬ (s.1.get? key ≠ none ∧ pattern s.2.length (.headObject key) = .none) →
      good false (s.1, s.2 ++ [.headObject key])) :
    Ends pattern (S3Client.objectExists key) s good bad := by
  have hrun : (S3Client.objectExists key).run.run (bucketService.logged pattern)
      (fun _ => ()) s =
      (Except.ok (bucketService.answer (pattern s.2.length (.headObject key)) s.1
          (.headObject key)).2.isOk,
        (bucketService.answer (pattern s.2.length (.headObject key)) s.1 (.headObject key)).1,
        s.2 ++ [.headObject key]) := by
    simp only [S3Client.objectExists, Program.perform, Program.bind_call, Program.bind_done]
    cases hreply : (bucketService.answer (pattern s.2.length (.headObject key)) s.1
      (.headObject key)).2 <;>
      simp [ExceptT.run, ExceptT.mk, Program.run, Service.logged, hreply, Except.isOk,
        Except.toBool]
  unfold Ends
  rw [hrun]
  rcases answer_headObject (pattern s.2.length (.headObject key)) s.1 key with
    ⟨hpresent, hfault, hanswer⟩ | ⟨habsent, e, hanswer⟩
  · rw [hanswer]
    exact hseen ⟨hpresent, hfault⟩
  · rw [hanswer]
    exact hunseen habsent

/-- A function with a cleanup on failure, whatever comes of the cleanup. -/
theorem Ends.cleaningUp {x : S3Client α} {cleanup : S3Client Unit}
    (h : Ends pattern x s good fun t => Ends pattern cleanup t (fun _ => bad) bad) :
    Ends pattern (cleaningUp x cleanup) s good bad := by
  have hbind : (CheckpointRuntime.cleaningUp x cleanup).run.run (bucketService.logged pattern)
      (fun _ => ()) s = _ :=
    Program.run_bind_const (bucketService.logged pattern) () x.run _ s
  unfold Ends at h ⊢
  rw [hbind]
  split at h
  · next hrun =>
    rw [hrun]
    exact h
  · next message t hrun =>
    have hignoring : (S3Client.ignoring cleanup).run.run (bucketService.logged pattern)
        (fun _ => ()) t =
        (.ok (), (cleanup.run.run (bucketService.logged pattern) (fun _ => ()) t).2) :=
      Program.run_bind_const (bucketService.logged pattern) () cleanup.run _ t
    have hclean : ((S3Client.ignoring cleanup).run.bind fun _ =>
        Program.done (Except.error message : Except String α)).run
          (bucketService.logged pattern) (fun _ => ()) t =
        (.error message, (cleanup.run.run (bucketService.logged pattern) (fun _ => ()) t).2) := by
      rw [Program.run_bind_const, hignoring]
      rfl
    rw [hrun]
    dsimp only
    rw [hclean]
    split at h
    · next hcleanup =>
      rw [hcleanup]
      exact h
    · next hcleanup =>
      rw [hcleanup]
      exact h

end

/-! ## The upload loop -/

/-- The calls that upload parts, numbered from one. -/
def partCalls (key : String) (uploadId : Nat) (parts : List Bytes) : List S3Call :=
  parts.mapIdx fun i part => .uploadPart key uploadId (1 + i) part

theorem length_partCalls (key : String) (uploadId : Nat) (parts : List Bytes) :
    (partCalls key uploadId parts).length = parts.length := List.length_mapIdx

theorem Bucket.setUpload_setUpload (b : Bucket) (key : String) (uploadId : Nat)
    (parts parts' : Option Parts) :
    (b.setUpload key uploadId parts).setUpload key uploadId parts' =
      b.setUpload key uploadId parts' := by
  unfold Bucket.setUpload
  congr 1
  funext k u
  dsimp only
  split <;> rfl

/-- The upload is still open, and nothing else has changed. -/
def LeftOpen (key : String) (uploadId : Nat) (start s : LoggedBucket) : Prop :=
  ∃ parts, s.1 = start.1.setUpload key uploadId (some parts)

/-- The loop invariant of an upload: the log has the calls of the parts sent so
far, all of which went through, and these parts followed by the buffer are the
bytes hashed so far. -/
structure Sending (faults : Nat → Fault) (key : String) (uploadId : Nat) (start : LoggedBucket)
    (loop : UploadLoop) (sent : List Bytes) (s : LoggedBucket) : Prop where
  upload : ∃ parts, s.1 = start.1.setUpload key uploadId (some parts) ∧
    ∀ i (h : i < sent.length), parts.lookup (1 + i) = some sent[i]
  calls : s.2 = start.2 ++ partCalls key uploadId sent
  completed : loop.completedParts = List.range' 1 sent.length
  number : loop.partNumber = 1 + sent.length
  bytes : sent.flatten ++ loop.bufferedChunks.flatten = loop.hashed
  buffered : loop.bufferedBytes = loop.bufferedChunks.flatten.length
  answered : ∀ i < sent.length, faults (start.2.length + i) = .none

/-- Aborting an upload and deleting an object clean up. -/
def S3Call.cleansUp : S3Call → Bool
  | .abortMultipartUpload _ _ | .deleteObject _ => true
  | _ => false

section
variable {pattern : Nat → S3Call → Fault} {faults : Nat → Fault} {key : String} {uploadId : Nat}
  {start s : LoggedBucket} {loop : UploadLoop} {sent : List Bytes}

theorem Sending.leftOpen (h : Sending faults key uploadId start loop sent s) :
    LeftOpen key uploadId start s := by
  obtain ⟨parts, hbucket, _⟩ := h.upload
  exact ⟨parts, hbucket⟩

theorem Sending.length_log (h : Sending faults key uploadId start loop sent s) :
    s.2.length = start.2.length + sent.length := by
  rw [h.calls, List.length_append, length_partCalls]

/-- What is hashed and not yet sent is in the buffer. -/
theorem Sending.length_hashed (h : Sending faults key uploadId start loop sent s) :
    loop.hashed.length = sent.flatten.length + loop.bufferedBytes := by
  rw [← h.bytes, List.length_append, h.buffered]

/-- Taking a chunk into the buffer keeps the invariant. -/
theorem Sending.receive (h : Sending faults key uploadId start loop sent s) (chunk : Bytes) :
    Sending faults key uploadId start (loop.receive chunk) sent s where
  upload := h.upload
  calls := h.calls
  completed := h.completed
  number := h.number
  bytes := by
    rw [UploadLoop.receive, ← h.bytes]
    simp
  buffered := by
    rw [UploadLoop.receive, h.buffered]
    simp
  answered := h.answered

/-- A part is sent, or its call is the first one to go wrong. -/
theorem ends_uploadOnePart (hpattern : ∀ n op, op.cleansUp = false → pattern n op = faults n)
    (h : Sending faults key uploadId start loop sent s) {partSize : Nat}
    (hsize : partSize ≤ loop.bufferedBytes) :
    Ends pattern (uploadOnePart key uploadId partSize loop) s
      (fun loop' t => ∃ part, part.length = partSize ∧
        Sending faults key uploadId start loop' (sent ++ [part]) t ∧
        loop'.hashed = loop.hashed ∧ loop'.bufferedBytes = loop.bufferedBytes - partSize)
      (fun t => LeftOpen key uploadId start t ∧
        faults (start.2.length + sent.length) ≠ .none) := by
  rw [h.buffered] at hsize
  obtain ⟨part, rest, htake, hlen, hflat⟩ := takePart_eq_some hsize
  obtain ⟨parts, hbucket, hsent⟩ := h.upload
  have heffect : s.1.effect (.uploadPart key uploadId loop.partNumber part) =
      .ok (start.1.setUpload key uploadId (some (putPart loop.partNumber part parts)),
        loop.partNumber) := by
    simp only [Bucket.effect, hbucket, Bucket.uploads_setUpload, and_self, if_true,
      Bucket.setUpload_setUpload]
  have hfault : pattern s.2.length (.uploadPart key uploadId loop.partNumber part) =
      faults (start.2.length + sent.length) := by
    rw [hpattern _ _ rfl, h.length_log]
  unfold uploadOnePart
  rw [htake]
  refine Ends.bind (Ends.await heffect ?_ ?_ ?_)
  · intro hnone
    refine Ends.pure ⟨part, hlen, ⟨⟨_, rfl, ?_⟩, ?_, ?_, ?_, ?_, ?_, ?_⟩, rfl, rfl⟩
    · intro i hi
      rw [lookup_putPart, h.number]
      rw [List.length_append, List.length_singleton] at hi
      by_cases hlast : i = sent.length
      · simp [hlast]
      · have hi' : i < sent.length := by omega
        rw [if_neg (by omega), hsent i hi', List.getElem_append_left hi']
    · rw [h.calls, List.append_assoc, partCalls, partCalls, List.mapIdx_concat, h.number]
    · simp [h.completed, h.number, List.range'_concat]
    · simp [h.number, Nat.add_assoc]
    · rw [List.flatten_append, List.append_assoc, ← h.bytes, ← hflat]
      simp
    · have hsum := congrArg List.length hflat
      rw [List.length_append, hlen] at hsum
      show loop.bufferedBytes - partSize = rest.flatten.length
      rw [h.buffered]
      omega
    · intro i hi
      rw [List.length_append, List.length_singleton] at hi
      rcases Nat.lt_succ_iff_lt_or_eq.mp hi with hlt | rfl
      · exact h.answered i hlt
      · exact hfault.symm.trans hnone
  · intro hrefused
    refine ⟨h.leftOpen, ?_⟩
    rw [← hfault, hrefused]
    decide
  · intro hlost
    refine ⟨⟨_, rfl⟩, ?_⟩
    rw [← hfault, hlost]
    decide

/-- Some part of a stream of `total` bytes is not accepted. -/
def PartFails (faults : Nat → Fault) (first total : Nat) : Prop :=
  ∃ k, k * multipartPartSize < total ∧ faults (first + k) ≠ .none

/-- Full parts are sent until the buffer holds none. -/
theorem ends_uploadFullParts (hpattern : ∀ n op, op.cleansUp = false → pattern n op = faults n)
    {fuel : Nat} (hfuel : loop.bufferedBytes ≤ fuel)
    (h : Sending faults key uploadId start loop sent s)
    (hfull : ∀ part ∈ sent, part.length = multipartPartSize) :
    Ends pattern (uploadFullParts key uploadId fuel loop) s
      (fun loop' t => ∃ sent', Sending faults key uploadId start loop' sent' t ∧
        (∀ part ∈ sent', part.length = multipartPartSize) ∧
        loop'.hashed = loop.hashed ∧ loop'.bufferedBytes < multipartPartSize)
      (fun t => LeftOpen key uploadId start t ∧
        PartFails faults start.2.length loop.hashed.length) := by
  induction fuel generalizing loop sent s with
  | zero =>
      have hpos : 0 < multipartPartSize := by decide
      exact Ends.pure ⟨sent, h, hfull, rfl, by omega⟩
  | succ fuel ih =>
      unfold uploadFullParts
      split
      · next hpart =>
        refine Ends.bind ((ends_uploadOnePart hpattern h hpart).weaken ?_ ?_)
        · intro loop' t h
          obtain ⟨part, hlen, h', hhashed, hbuffered⟩ := h
          have hpos : 0 < multipartPartSize := by decide
          have hfull' : ∀ other ∈ sent ++ [part], other.length = multipartPartSize := by
            intro other hother
            rcases List.mem_append.mp hother with hold | hnew
            · exact hfull other hold
            · rw [List.mem_singleton.mp hnew, hlen]
          have hnext := ih (by omega) h' hfull'
          rw [hhashed] at hnext
          exact hnext
        · intro t h
          obtain ⟨hopen, hfault⟩ := h
          refine ⟨hopen, sent.length, ?_, hfault⟩
          have hlength := h.length_hashed
          rw [length_flatten_of_length hfull] at hlength
          have hpos : 0 < multipartPartSize := by decide
          omega
      · next hpart => exact Ends.pure ⟨sent, h, hfull, rfl, Nat.lt_of_not_le hpart⟩

theorem PartFails.mono {first total total' : Nat} (h : PartFails faults first total)
    (hle : total ≤ total') : PartFails faults first total' := by
  obtain ⟨k, hk, hfault⟩ := h
  exact ⟨k, Nat.lt_of_lt_of_le hk hle, hfault⟩

/-- No item of the stream is an error. -/
def EndsCleanly (data : List (Except String Bytes)) : Prop :=
  ∀ item ∈ data, item.isOk = true

theorem payload_map_ok (chunks : List Bytes) : payload (chunks.map .ok) = chunks.flatten := by
  induction chunks with
  | nil => rfl
  | cons chunk chunks ih => rw [List.map_cons, payload, ih, List.flatten_cons]

/-- The whole stream is taken in, unless it carries an error or a part fails. -/
theorem ends_receiveChunks (hpattern : ∀ n op, op.cleansUp = false → pattern n op = faults n)
    (data : List (Except String Bytes)) (h : Sending faults key uploadId start loop sent s)
    (hfull : ∀ part ∈ sent, part.length = multipartPartSize)
    (hbuffered : loop.bufferedBytes < multipartPartSize) :
    Ends pattern (receiveChunks key uploadId data loop) s
      (fun loop' t => EndsCleanly data ∧
        ∃ sent', Sending faults key uploadId start loop' sent' t ∧
          (∀ part ∈ sent', part.length = multipartPartSize) ∧
          loop'.hashed = loop.hashed ++ payload data ∧ loop'.bufferedBytes < multipartPartSize)
      (fun t => LeftOpen key uploadId start t ∧
        (EndsCleanly data →
          PartFails faults start.2.length (loop.hashed ++ payload data).length)) := by
  induction data generalizing loop sent s with
  | nil =>
      refine Ends.pure ⟨fun _ h => (by cases h), sent, h, hfull, ?_, hbuffered⟩
      rw [payload, List.append_nil]
  | cons item data ih =>
      cases item with
      | error message =>
          exact Ends.throw ⟨h.leftOpen, fun hclean =>
            absurd (hclean _ List.mem_cons_self) Bool.false_ne_true⟩
      | ok chunk =>
          have hhashed : (loop.receive chunk).hashed = loop.hashed ++ chunk := rfl
          unfold receiveChunks
          refine Ends.bind ((ends_uploadFullParts hpattern (Nat.le_refl _) (h.receive chunk)
            hfull).weaken ?_ ?_)
          · intro loop' t h
            obtain ⟨sent', h', hfull', hsame, hbuffered'⟩ := h
            have hall : loop'.hashed ++ payload data =
                loop.hashed ++ payload (.ok chunk :: data) := by
              rw [hsame, hhashed, payload, List.append_assoc]
            refine (ih h' hfull' hbuffered').weaken ?_ ?_
            · intro loop'' t' h
              obtain ⟨hclean, sent'', h'', hfull'', hhashed'', hbuffered''⟩ := h
              refine ⟨?_, sent'', h'', hfull'', hhashed''.trans hall, hbuffered''⟩
              intro item hitem
              rcases List.mem_cons.mp hitem with rfl | hrest
              · rfl
              · exact hclean item hrest
            · intro t' h
              obtain ⟨hopen, hfails⟩ := h
              refine ⟨hopen, fun hclean => ?_⟩
              rw [← hall]
              exact hfails fun item hitem => hclean item (List.mem_cons_of_mem _ hitem)
          · intro t h
            obtain ⟨hopen, hfails⟩ := h
            refine ⟨hopen, fun _ => hfails.mono ?_⟩
            rw [hhashed, payload, List.length_append, List.length_append, List.length_append]
            omega

/-- The last part: what was sent are the pieces of what was hashed. -/
theorem ends_uploadLastPart (hpattern : ∀ n op, op.cleansUp = false → pattern n op = faults n)
    (h : Sending faults key uploadId start loop sent s)
    (hfull : ∀ part ∈ sent, part.length = multipartPartSize)
    (hbuffered : loop.bufferedBytes < multipartPartSize) :
    Ends pattern (uploadLastPart key uploadId loop) s
      (fun loop' t => Sending faults key uploadId start loop'
          (pieces multipartPartSize loop.hashed) t ∧ loop'.hashed = loop.hashed)
      (fun t => LeftOpen key uploadId start t ∧
        PartFails faults start.2.length loop.hashed.length) := by
  have hlength := h.length_hashed
  rw [length_flatten_of_length hfull] at hlength
  unfold uploadLastPart
  split
  · next hsome =>
    refine (ends_uploadOnePart hpattern h (Nat.le_refl _)).weaken ?_ ?_
    · intro loop' t h
      obtain ⟨part, hlen, h', hhashed, hempty⟩ := h
      rw [Nat.sub_self] at hempty
      have hnil : loop'.bufferedChunks.flatten = [] :=
        List.length_eq_zero_iff.mp (h'.buffered.symm.trans hempty)
      have hflatten : (sent ++ [part]).flatten = loop.hashed := by
        have hbytes := h'.bytes
        rw [hnil, List.append_nil, hhashed] at hbytes
        exact hbytes
      have hpieces : sent ++ [part] = pieces multipartPartSize _ := eq_pieces (by decide)
        (fun other hother => hfull other (by simpa using hother))
        (fun other hother => by
          rw [List.getLast?_append, List.getLast?_singleton, Option.some_or] at hother
          obtain rfl := Option.some.inj hother
          omega)
      rw [← hflatten, ← hpieces]
      exact ⟨h', hhashed.trans hflatten.symm⟩
    · intro t h
      obtain ⟨hopen, hfault⟩ := h
      exact ⟨hopen, sent.length, by omega, hfault⟩
  · next hnone =>
    have hempty : loop.bufferedBytes = 0 := by omega
    have hnil : loop.bufferedChunks.flatten = [] :=
      List.length_eq_zero_iff.mp (h.buffered.symm.trans hempty)
    have hflatten : sent.flatten = loop.hashed := by
      rw [← h.bytes, hnil, List.append_nil]
    have hpieces : sent = pieces multipartPartSize _ := eq_pieces (by decide)
      (fun other hother => hfull other ((List.dropLast_sublist _).mem hother))
      (fun other hother => by
        rw [hfull other (List.mem_of_getLast? hother)]
        decide)
    refine Ends.pure ⟨?_, rfl⟩
    rw [← hflatten, ← hpieces]
    exact h

/-- The calls that stage a stream. -/
def stagingCalls (key : String) (uploadId : Nat) (bytes : Bytes) : List S3Call :=
  .createMultipartUpload key :: partCalls key uploadId (pieces multipartPartSize bytes) ++
    [.completeMultipartUpload key uploadId
      (List.range' 1 (pieces multipartPartSize bytes).length)]

theorem length_stagingCalls (key : String) (uploadId : Nat) (bytes : Bytes) :
    (stagingCalls key uploadId bytes).length = (pieces multipartPartSize bytes).length + 2 := by
  rw [stagingCalls, List.length_append, List.length_cons, length_partCalls, List.length_singleton]

/-- The stream has bytes and no error, and the upload is created, sent and
completed. -/
structure Stages (faults : Nat → Fault) (data : List (Except String Bytes)) : Prop where
  clean : EndsCleanly data
  nonempty : payload data ≠ []
  answered : ∀ i < (pieces multipartPartSize (payload data)).length + 2, faults i = .none

theorem PartFails.not_stages {data : List (Except String Bytes)}
    (h : PartFails faults 1 (payload data).length) : ¬ Stages faults data := by
  intro hstages
  obtain ⟨k, hk, hfault⟩ := h
  have hlt := (lt_length_pieces_iff (n := multipartPartSize) (by decide)).mpr hk
  exact hfault (hstages.answered (1 + k) (by omega))

/-- The bucket with a staged object. -/
def Bucket.staged (b : Bucket) (key : String) (uploadId : Nat) (bytes : Bytes) : Bucket :=
  (b.setUpload key uploadId none).store key (.bytes bytes)

/-- The upload of a stream. -/
theorem ends_uploadStream (hpattern : ∀ n op, op.cleansUp = false → pattern n op = faults n)
    {b : Bucket} {data : List (Except String Bytes)} (hcreated : faults 0 = .none) :
    let start : LoggedBucket := (b, [.createMultipartUpload key])
    Ends pattern (uploadStream key uploadId data) (b.setUpload key uploadId (some []), start.2)
      (fun hashed t => Stages faults data ∧ hashed = payload data ∧
        t = (b.staged key uploadId (payload data), stagingCalls key uploadId (payload data)))
      (fun t => ¬ Stages faults data ∧ (LeftOpen key uploadId start t ∨
        (∃ n op, pattern n op = .lost) ∧ t.1 = b.staged key uploadId (payload data))) := by
  intro start
  have hfirst : start.2.length = 1 := rfl
  have hstart : Sending faults key uploadId start {} []
      (b.setUpload key uploadId (some []), start.2) := by
    refine ⟨⟨[], rfl, fun i hi => absurd hi (Nat.not_lt_zero i)⟩, ?_, rfl, rfl, rfl, rfl,
      fun i hi => absurd hi (Nat.not_lt_zero i)⟩
    exact (List.append_nil _).symm
  unfold uploadStream
  refine Ends.bind ((ends_receiveChunks hpattern data hstart (fun _ h => (by cases h))
    (by decide)).weaken ?_ ?_)
  · intro received t h
    obtain ⟨hclean, sent, hsent, hfull, hhashed, hbuffered⟩ := h
    have hpayload : received.hashed = payload data := hhashed
    refine Ends.bind ((ends_uploadLastPart hpattern hsent hfull hbuffered).weaken ?_ ?_)
    · intro loop t h
      obtain ⟨h, hsame⟩ := h
      rw [hpayload] at h hsame
      split
      · next hnone =>
        refine Ends.throw ⟨fun hstages => ?_, Or.inl h.leftOpen⟩
        have hpos := List.length_pos_iff.mpr
          (pieces_ne_nil (n := multipartPartSize) (by decide) hstages.nonempty)
        rw [List.isEmpty_iff, h.completed, List.range'_eq_nil_iff] at hnone
        omega
      · next hsome =>
        obtain ⟨parts, hopen, hlookup⟩ := h.upload
        have hbucket : t.1 = b.setUpload key uploadId (some parts) := hopen
        have hflatten := flatten_pieces (n := multipartPartSize) (by decide) (payload data)
        have heffect : t.1.effect (.completeMultipartUpload key uploadId loop.completedParts) =
            .ok (b.staged key uploadId (payload data), ()) := by
          simp only [Bucket.effect, hbucket, Bucket.uploads_setUpload, and_self, if_true,
            Option.bind_some, h.completed, assemble_sent hlookup, hflatten,
            Bucket.setUpload_setUpload, Bucket.staged]
        have hlast : pattern t.2.length
            (.completeMultipartUpload key uploadId loop.completedParts) =
              faults ((pieces multipartPartSize (payload data)).length + 1) := by
          rw [hpattern _ _ rfl, h.length_log, hfirst, Nat.add_comm]
        refine Ends.bind (Ends.await heffect ?_ ?_ ?_)
        · intro hnone
          refine Ends.pure ⟨⟨hclean, ?_, ?_⟩, hsame, ?_⟩
          · intro hempty
            rw [hempty, pieces_nil] at h
            rw [h.completed] at hsome
            exact hsome rfl
          · intro i hi
            rcases Nat.eq_zero_or_pos i with rfl | hpos
            · exact hcreated
            · by_cases hcomplete : i = (pieces multipartPartSize (payload data)).length + 1
              · rw [hcomplete, ← hlast, hnone]
              · have hpart := h.answered (i - 1) (by omega)
                rw [hfirst, show 1 + (i - 1) = i by omega] at hpart
                exact hpart
          · rw [h.calls, h.completed]
            rfl
        · intro hrefused
          refine ⟨fun hstages => ?_, Or.inl h.leftOpen⟩
          rw [hlast, hstages.answered _ (Nat.lt_succ_self _)] at hrefused
          cases hrefused
        · intro hlost
          refine ⟨fun hstages => ?_, Or.inr ⟨⟨_, _, hlost⟩, rfl⟩⟩
          rw [hlast, hstages.answered _ (Nat.lt_succ_self _)] at hlost
          cases hlost
    · intro t h
      obtain ⟨hopen, hfails⟩ := h
      rw [hfirst, hpayload] at hfails
      exact ⟨hfails.not_stages, Or.inl hopen⟩
  · intro t h
    obtain ⟨hopen, hfails⟩ := h
    refine ⟨fun hstages => ?_, Or.inl hopen⟩
    have hpart := hfails hstages.clean
    rw [hfirst] at hpart
    exact PartFails.not_stages hpart hstages

/-! ## Staging and promotion -/

/-- No effect takes place without its reply, and the cleanup calls go through. -/
structure Reliable (pattern : Nat → S3Call → Fault) : Prop where
  effects : ∀ n op, pattern n op ≠ .lost
  cleanup : ∀ n op, op.cleansUp = true → pattern n op = .none

/-- What a write that was not staged leaves behind: at most its staging key has
changed, and nothing at all if its calls are reliable. -/
structure Unstaged (pattern : Nat → S3Call → Fault) (staging : String) (b b' : Bucket) :
    Prop where
  elsewhere : ∀ key, key ≠ staging → b'.get? key = b.get? key
  withdrawn : Reliable pattern → b.uploads staging b.nextUpload = none →
    b'.objects = b.objects ∧ b'.uploads = b.uploads

/-- A new upload of the bucket. -/
def Bucket.numbered (b : Bucket) : Bucket := { b with nextUpload := b.nextUpload + 1 }

theorem Bucket.uploads_setUpload_none {b : Bucket} {staging : String} {id : Nat}
    (h : b.uploads staging id = none) : (b.setUpload staging id none).uploads = b.uploads := by
  funext k u
  rw [Bucket.uploads_setUpload]
  split
  · next hsame => rw [hsame.1, hsame.2, h]
  · rfl

/-- An upload that is left open is aborted. -/
theorem ends_abort {b : Bucket} {staging : String} (hopen : LeftOpen staging b.nextUpload
      (b.numbered, [.createMultipartUpload staging]) s) :
    Ends pattern (S3Client.abortMultipartUpload staging b.nextUpload) s
      (fun _ t => Unstaged pattern staging b t.1) (fun t => Unstaged pattern staging b t.1) := by
  obtain ⟨parts, hbucket⟩ := hopen
  have heffect : s.1.effect (.abortMultipartUpload staging b.nextUpload) =
      .ok (b.numbered.setUpload staging b.nextUpload none, ()) := by
    simp only [Bucket.effect, hbucket, Bucket.uploads_setUpload, and_self, if_true,
      Bucket.setUpload_setUpload]
  have helsewhere : ∀ key, s.1.get? key = b.get? key := by
    intro key
    rw [hbucket]
    rfl
  have habort : Unstaged pattern staging b (b.numbered.setUpload staging b.nextUpload none) :=
    ⟨fun _ _ => rfl, fun _ hfresh => ⟨rfl, Bucket.uploads_setUpload_none (b := b.numbered) hfresh⟩⟩
  refine Ends.await heffect (fun _ => habort) ?_ (fun _ => habort)
  intro hrefused
  refine ⟨fun key _ => helsewhere key, fun hreliable _ => ?_⟩
  rw [hreliable.cleanup _ _ rfl] at hrefused
  cases hrefused

/-- **Staging.**  A stream that `Stages` is promoted from the staged bucket;
otherwise the write fails and is unstaged. -/
theorem ends_writeShardStream (hpattern : ∀ n op, op.cleansUp = false → pattern n op = faults n)
    {sha256 : Bytes → String} {runId checkpointId shardId uuid : String}
    {data : List (Except String Bytes)} {b : Bucket} {good : WriteResult → LoggedBucket → Prop}
    {bad : LoggedBucket → Prop}
    (hstaged : Stages faults data →
      Ends pattern (promoteShard runId checkpointId shardId uuid (sha256 (payload data))
          (payload data).length)
        (b.numbered.staged (stagingKey runId checkpointId shardId uuid) b.nextUpload
            (payload data),
          stagingCalls (stagingKey runId checkpointId shardId uuid) b.nextUpload (payload data))
        good bad)
    (hunstaged : ¬ Stages faults data → ∀ t : LoggedBucket,
      Unstaged pattern (stagingKey runId checkpointId shardId uuid) b t.1 → bad t) :
    Ends pattern (writeShardStream sha256 runId checkpointId shardId uuid data) (b, [])
      good bad := by
  have hfault : pattern 0 (.createMultipartUpload (stagingKey runId checkpointId shardId uuid)) =
      faults 0 := hpattern _ _ rfl
  unfold writeShardStream
  refine Ends.bind (Ends.await (b := b.numbered.setUpload
    (stagingKey runId checkpointId shardId uuid) b.nextUpload (some [])) rfl ?_ ?_ ?_)
  · intro hnone
    refine Ends.bind (Ends.cleaningUp ((ends_uploadStream (b := b.numbered) hpattern
      (hfault.symm.trans hnone)).weaken ?_ ?_))
    · intro hashed t h
      obtain ⟨hstages, rfl, rfl⟩ := h
      exact hstaged hstages
    · intro t h
      rcases h with ⟨hnot, hopen | ⟨⟨n, op, hlost⟩, hbucket⟩⟩
      · exact (ends_abort hopen).weaken (fun _ t h => hunstaged hnot t h)
          fun t h => hunstaged hnot t h
      · -- the completion took place, so there is no upload left to abort
        have hrejected : t.1.effect (.abortMultipartUpload
            (stagingKey runId checkpointId shardId uuid) b.nextUpload) = .error .service := by
          simp only [Bucket.effect, hbucket, Bucket.staged, Bucket.uploads_store,
            Bucket.uploads_setUpload, and_self, if_true]
        refine Ends.await_rejected hrejected (hunstaged hnot _ ⟨?_, ?_⟩)
        · intro key hkey
          rw [hbucket, Bucket.staged, Bucket.get?_store, if_neg hkey]
          rfl
        · intro hreliable _
          exact absurd hlost (hreliable.effects n op)
  · intro hrefused
    refine hunstaged (fun hstages => ?_) _ ⟨fun _ _ => rfl, fun _ _ => ⟨rfl, rfl⟩⟩
    have hnone := hfault.trans (hstages.answered 0 (by omega))
    cases hrefused.symm.trans hnone
  · intro hlost
    refine hunstaged (fun hstages => ?_) _ ⟨fun _ _ => rfl, fun hreliable _ => ?_⟩
    · have hnone := hfault.trans (hstages.answered 0 (by omega))
      cases hlost.symm.trans hnone
    · exact absurd hlost (hreliable.effects _ _)

/-- All these calls go through, the first of which has this number. -/
def Answered (pattern : Nat → S3Call → Fault) : Nat → List S3Call → Prop
  | _, [] => True
  | n, op :: calls => pattern n op = .none ∧ Answered pattern (n + 1) calls

/-- The calls that finish a write. -/
def finishingCalls (staging sidecar checksum : String) : List S3Call :=
  [.deleteObject staging, .putObject sidecar (.text checksum)]

/-- The staged object is deleted and the sidecar written. -/
theorem ends_finishing {staging sidecar checksum : String} (result : WriteResult) :
    Ends pattern (do
        S3Client.deleteObject staging
        S3Client.putObject sidecar (.text checksum)
        return result) s
      (fun result' t => result' = result ∧
        Answered pattern s.2.length (finishingCalls staging sidecar checksum) ∧
        t.2 = s.2 ++ finishingCalls staging sidecar checksum)
      (fun t => ¬ Answered pattern s.2.length (finishingCalls staging sidecar checksum) ∧
        (∀ key, key ≠ staging → key ≠ sidecar → t.1.get? key = s.1.get? key) ∧
        (Reliable pattern → t.1.uploads = s.1.uploads ∧
          ∀ key, t.1.get? key = if key = staging then none else s.1.get? key)) := by
  have hremoved : ∀ key, (s.1.remove staging).get? key =
      if key = staging then none else s.1.get? key := fun key => Bucket.get?_remove _ _ key
  refine Ends.bind (Ends.await (b := s.1.remove staging) rfl ?_ ?_ ?_)
  · intro hdelete
    refine Ends.bind (Ends.await (b := (s.1.remove staging).store sidecar (.text checksum)) rfl
      ?_ ?_ ?_)
    · intro hput
      rw [List.length_append, List.length_singleton] at hput
      exact Ends.pure ⟨rfl, ⟨hdelete, hput, trivial⟩, List.append_assoc _ _ _⟩
    · intro hput
      rw [List.length_append, List.length_singleton] at hput
      refine ⟨fun hall => ?_, fun key hstaging _ => ?_, fun _ => ⟨rfl, hremoved⟩⟩
      · cases hput.symm.trans hall.2.1
      · rw [hremoved, if_neg hstaging]
    · intro hput
      refine ⟨fun hall => ?_, fun key hstaging hsidecar => ?_, fun hreliable => ?_⟩
      · rw [List.length_append, List.length_singleton] at hput
        cases hput.symm.trans hall.2.1
      · rw [Bucket.get?_store, if_neg hsidecar, hremoved, if_neg hstaging]
      · exact absurd hput (hreliable.effects _ _)
  · intro hdelete
    refine ⟨fun hall => ?_, fun _ _ _ => rfl, fun hreliable => ?_⟩
    · cases hdelete.symm.trans hall.1
    · cases hdelete.symm.trans (hreliable.cleanup _ _ rfl)
  · intro hdelete
    refine ⟨fun hall => ?_, fun key hstaging _ => ?_, fun hreliable => ?_⟩
    · cases hdelete.symm.trans hall.1
    · rw [hremoved, if_neg hstaging]
    · exact absurd hdelete (hreliable.effects _ _)

/-- The staged object is copied to its final key before that: if this fails, the final
object is replaced unless the copy was refused. -/
theorem ends_copying {staging final sidecar checksum : String} (hfinal : final ≠ staging)
    (hsidecar : final ≠ sidecar) {bytes : Bytes}
    (hstaged : s.1.get? staging = some (.bytes bytes)) (result : WriteResult) :
    let calls := .copyObject staging final :: finishingCalls staging sidecar checksum
    let copied := pattern s.2.length (.copyObject staging final)
    Ends pattern (do
        S3Client.copyObject staging final
        S3Client.deleteObject staging
        S3Client.putObject sidecar (.text checksum)
        return result) s
      (fun result' t => result' = result ∧ Answered pattern s.2.length calls ∧
        t.2 = s.2 ++ calls)
      (fun t => ¬ Answered pattern s.2.length calls ∧
        t.1.get? final = (if copied = .refused then s.1.get? final else some (.bytes bytes)) ∧
        (∀ key, key ≠ staging → key ≠ final → key ≠ sidecar → t.1.get? key = s.1.get? key) ∧
        (Reliable pattern → t.1.uploads = s.1.uploads ∧
          t.1.get? staging = (if copied = .none then none else some (.bytes bytes)) ∧
          ∀ key, key ≠ staging → key ≠ final → t.1.get? key = s.1.get? key)) := by
  intro calls copied
  have heffect : s.1.effect (.copyObject staging final) =
      .ok (s.1.store final (.bytes bytes), ()) := by
    simp only [Bucket.effect, hstaged]
  have hstored : ∀ key, (s.1.store final (.bytes bytes)).get? key =
      if key = final then some (.bytes bytes) else s.1.get? key :=
    fun key => Bucket.get?_store _ _ _ key
  refine Ends.bind (Ends.await heffect ?_ ?_ ?_)
  · intro hnone
    have hcopied : copied = .none := hnone
    refine (ends_finishing result).weaken ?_ ?_
    · intro result' t h
      obtain ⟨rfl, hanswered, hlogged⟩ := h
      rw [List.length_append, List.length_singleton] at hanswered
      exact ⟨rfl, ⟨hnone, hanswered⟩, hlogged.trans (List.append_assoc _ _ _)⟩
    · intro t h
      obtain ⟨hnot, hget, hreliable⟩ := h
      rw [List.length_append, List.length_singleton] at hnot
      rw [hcopied, if_neg (by decide), if_pos rfl]
      refine ⟨fun hall => hnot hall.2, ?_, fun key h hother h' => ?_, fun h => ?_⟩
      · rw [hget final hfinal hsidecar, hstored, if_pos rfl]
      · rw [hget key h h', hstored, if_neg hother]
      · obtain ⟨huploads, hall⟩ := hreliable h
        refine ⟨huploads, ?_, fun key hkey hother => ?_⟩
        · rw [hall, if_pos rfl]
        · rw [hall, if_neg hkey, hstored, if_neg hother]
  · intro hrefused
    have hcopied : copied = .refused := hrefused
    rw [hcopied, if_pos rfl, if_neg (by decide)]
    refine ⟨fun hall => ?_, rfl, fun _ _ _ _ => rfl, fun _ => ⟨rfl, hstaged, fun _ _ _ => rfl⟩⟩
    cases hrefused.symm.trans hall.1
  · intro hlost
    have hcopied : copied = .lost := hlost
    rw [hcopied, if_neg (by decide)]
    refine ⟨fun hall => ?_, ?_, fun key _ hother _ => ?_,
      fun hreliable => absurd hlost (hreliable.effects _ _)⟩
    · cases hlost.symm.trans hall.1
    · rw [hstored, if_pos rfl]
    · rw [hstored, if_neg hother]

/-- The probe sees an object under the final key. -/
def Seen (faults : Nat → Fault) (final : String) (s : LoggedBucket) : Prop :=
  s.1.get? final ≠ none ∧ faults s.2.length = .none

instance (faults : Nat → Fault) (final : String) (s : LoggedBucket) :
    Decidable (Seen faults final s) :=
  inferInstanceAs (Decidable (_ ∧ _))

/-- The calls after the probe. -/
def promotionCalls (seen : Prop) [Decidable seen] (staging final sidecar checksum : String) :
    List S3Call :=
  if seen then finishingCalls staging sidecar checksum
  else .copyObject staging final :: finishingCalls staging sidecar checksum

/-- **Promotion.**  It succeeds when the calls after the probe go through;
otherwise the final object is at most replaced by the staged one. -/
theorem ends_promoteShard (hpattern : ∀ n op, op.cleansUp = false → pattern n op = faults n)
    {runId checkpointId shardId uuid : String} (huuid : isUuid uuid = true) {checksum : String}
    {totalBytes : Nat} {bytes : Bytes}
    (hstaged : s.1.get? (stagingKey runId checkpointId shardId uuid) = some (.bytes bytes)) :
    let staging := stagingKey runId checkpointId shardId uuid
    let final := contentAddressedKey runId checkpointId shardId checksum
    let sidecar := sidecarKey runId checkpointId shardId
    let calls := promotionCalls (Seen faults final s) staging final sidecar checksum
    Ends pattern (promoteShard runId checkpointId shardId uuid checksum totalBytes) s
      (fun result t => Answered pattern (s.2.length + 1) calls ∧
        result = { shardId := shardId, totalBytes := totalBytes, sha256Checksum := checksum,
                   storageKey := final } ∧
        t.2 = s.2 ++ .headObject final :: calls)
      (fun t => ¬ Answered pattern (s.2.length + 1) calls ∧
        t.1.get? final = (if Seen faults final s ∨ faults (s.2.length + 1) = .refused then
          s.1.get? final else some (.bytes bytes)) ∧
        (∀ key, key ≠ staging → key ≠ final → key ≠ sidecar → t.1.get? key = s.1.get? key) ∧
        (Reliable pattern → t.1.uploads = s.1.uploads ∧
          t.1.get? staging = (if Seen faults final s ∨ faults (s.2.length + 1) = .none then none
            else some (.bytes bytes)) ∧
          ∀ key, key ≠ staging → key ≠ final → t.1.get? key = s.1.get? key)) := by
  intro staging final sidecar calls
  have hfinal : final ≠ staging := contentAddressedKey_ne_stagingKey huuid
  have hsidecar : final ≠ sidecar := contentAddressedKey_ne_sidecarKey
  have hlog : ∀ op, (s.2 ++ [op]).length = s.2.length + 1 := by
    intro op
    rw [List.length_append, List.length_singleton]
  unfold promoteShard
  refine Ends.bind (Ends.objectExists ?_ ?_)
  · intro h
    obtain ⟨hpresent, hprobe⟩ := h
    have hseen : Seen faults final s := ⟨hpresent, (hpattern _ _ rfl).symm.trans hprobe⟩
    have hcalls : calls = finishingCalls staging sidecar checksum := if_pos hseen
    rw [if_pos rfl]
    refine (ends_finishing _).weaken ?_ ?_
    · intro result t h
      obtain ⟨rfl, hanswered, hlogged⟩ := h
      rw [hlog] at hanswered
      rw [hcalls]
      refine ⟨hanswered, rfl, ?_⟩
      rw [hlogged, List.append_assoc]
      rfl
    · intro t h
      obtain ⟨hnot, hget, hreliable⟩ := h
      rw [hlog] at hnot
      rw [hcalls, if_pos (Or.inl hseen), if_pos (Or.inl hseen)]
      refine ⟨hnot, hget final hfinal hsidecar, fun key h _ h' => hget key h h', fun h => ?_⟩
      obtain ⟨huploads, hall⟩ := hreliable h
      refine ⟨huploads, ?_, fun key hkey _ => ?_⟩
      · rw [hall, if_pos rfl]
      · rw [hall, if_neg hkey]
  · intro hunseen
    have hunseen' : ¬ Seen faults final s :=
      fun hseen => hunseen ⟨hseen.1, (hpattern _ _ rfl).trans hseen.2⟩
    have hcalls : calls = .copyObject staging final :: finishingCalls staging sidecar checksum :=
      if_neg hunseen'
    have hcopy : pattern (s.2.length + 1) (.copyObject staging final) =
        faults (s.2.length + 1) := hpattern _ _ rfl
    rw [if_neg Bool.false_ne_true]
    simp only [hcalls, hunseen', false_or]
    refine (ends_copying (s := (s.1, s.2 ++ [.headObject final])) hfinal hsidecar hstaged
      _).weaken ?_ ?_
    · intro result t h
      obtain ⟨rfl, hanswered, hlogged⟩ := h
      rw [hlog] at hanswered
      exact ⟨hanswered, rfl, hlogged.trans (List.append_assoc _ _ _)⟩
    · intro t h
      simp only [hlog, hcopy] at h
      exact h

end

end CheckpointRuntime
