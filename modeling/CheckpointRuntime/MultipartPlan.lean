import CheckpointRuntime.WriterRuns

/-!
# The multipart plan of the streaming writer

`write_shard_stream` and `take_part` of `checkpoint/writer.rs` as they compute:
the loops round by round, the byte counters as 64-bit words and the part number
as an `i32`, all of which wrap as in a release build.  Every S3 call succeeds
here; `ShardWriter` has the same writer over calls that may fail, with numbers
that do not wrap.

What carries the proofs is `Planned`: sent and buffered bytes are the received
ones, and the counter is the length of the buffer.
-/

namespace CheckpointRuntime

/-- `MULTIPART_PART_SIZE` as a word. -/
def partSizeWord : UInt64 := 5 * 1024 * 1024

theorem toNat_partSizeWord : partSizeWord.toNat = multipartPartSize := rfl

/-- How `take_part` can go wrong: it indexes an empty list, or its loop does not
end within the rounds that it is given. -/
inductive TakeFault
  | emptyList
  | stillLooping
deriving DecidableEq, Repr

/-- `buffered_chunks` and `buffered_bytes` -/
structure PartBuffer where
  chunks : List Bytes := []
  bytes : UInt64 := 0

/-- `while part.len() < part_size`: the first chunk is split, and removed when
nothing is left of it. -/
def fillPart (partSize : UInt64) : Nat → Bytes → List Bytes → Except TakeFault (Bytes × List Bytes)
  | 0, _, _ => .error .stillLooping
  | rounds + 1, part, chunks =>
      if part.length < partSize.toNat then
        match chunks with
        | [] => .error .emptyList
        | chunk :: chunks =>
            let remaining := partSize.toNat - part.length
            let take := min remaining chunk.length
            let fragment := chunk.take take
            let left := chunk.drop take
            fillPart partSize rounds (part ++ fragment)
              (if left.isEmpty then chunks else left :: chunks)
      else
        .ok (part, chunks)

namespace PartBuffer

/-- The slow path of `take_part`. -/
def fill (buffer : PartBuffer) (partSize : UInt64) : Except TakeFault (Bytes × PartBuffer) :=
  (fillPart partSize (buffer.chunks.length + 1) [] buffer.chunks).map fun (part, chunks) =>
    (part, { chunks := chunks, bytes := buffer.bytes - partSize })

/-- Remove up to `part_size` bytes from a list of reference-counted chunks. -/
def takePart (buffer : PartBuffer) (partSize : UInt64) : Except TakeFault (Bytes × PartBuffer) :=
  match buffer.chunks with
  | [chunk] =>
      if chunk.length = partSize.toNat then
        .ok (chunk, { chunks := [], bytes := buffer.bytes - partSize })
      else
        buffer.fill partSize
  | _ => buffer.fill partSize

/-- A chunk is pushed and counted. -/
def push (buffer : PartBuffer) (chunk : Bytes) : PartBuffer where
  chunks := buffer.chunks ++ [chunk]
  bytes := buffer.bytes + chunk.length.toUInt64

end PartBuffer

/-- The checksum worker on the chunks that it is sent: what the hasher consumes,
and `total_bytes`. -/
def checksumTask (sent : List Bytes) : Bytes × UInt64 :=
  sent.foldl (fun out chunk => (out.1 ++ chunk, out.2 + chunk.length.toUInt64)) ([], 0)

/-- How far `write_shard_stream` has come: it receives chunks, uploads the last
part, looks at what it has; in the end the upload is completed, or it is aborted
and the call fails. -/
inductive WriterPhase
  | receiving
  | flushing
  | closing
  | completed
  | aborted (message : String)
  | faulted (fault : TakeFault)
deriving DecidableEq, Repr

/-- The chunks still to come, those sent to the checksum worker, the variables
of the upload, and the parts that were uploaded. -/
structure StreamWriter where
  incoming : List Bytes
  checksumSent : List Bytes := []
  buffer : PartBuffer := {}
  completedParts : List Int32 := []
  partNumber : Int32 := 1
  uploaded : List (Int32 × Bytes) := []
  phase : WriterPhase := .receiving

namespace StreamWriter

/-- Take a part out of the buffer and upload it. -/
def uploadPart (s : StreamWriter) (partSize : UInt64) : Except TakeFault StreamWriter :=
  (s.buffer.takePart partSize).map fun (part, buffer) =>
    { s with
      buffer := buffer
      uploaded := s.uploaded ++ [(s.partNumber, part)]
      completedParts := s.completedParts ++ [s.partNumber] }

/-- A writer goes on with what it has uploaded, or its task has panicked. -/
def proceed (s : StreamWriter) (next : StreamWriter → StreamWriter) :
    Except TakeFault StreamWriter → StreamWriter
  | .ok uploaded => next uploaded
  | .error fault => { s with phase := .faulted fault }

/-- One round of the writer, unless the call is over. -/
def step (s : StreamWriter) : Option StreamWriter :=
  match s.phase with
  | .receiving =>
      if partSizeWord ≤ s.buffer.bytes then
        some (s.proceed (fun s => { s with partNumber := s.partNumber + 1 })
          (s.uploadPart partSizeWord))
      else
        match s.incoming with
        | [] => some { s with phase := .flushing }
        | chunk :: incoming =>
            some { s with
              incoming := incoming
              checksumSent := s.checksumSent ++ [chunk]
              buffer := s.buffer.push chunk }
  | .flushing =>
      if 0 < s.buffer.bytes then
        some (s.proceed (fun s => { s with phase := .closing }) (s.uploadPart s.buffer.bytes))
      else
        some { s with phase := .closing }
  | .closing =>
      if s.completedParts.isEmpty then
        some { s with phase := .aborted "cannot write an empty shard" }
      else
        some { s with phase := .completed }
  | .completed | .aborted _ | .faulted _ => none

/-- The writer after some rounds, or where it has ended before. -/
def after (s : StreamWriter) : Nat → StreamWriter
  | 0 => s
  | n + 1 => (s.after n).step.getD (s.after n)

end StreamWriter

/-! ## Taking a part -/

/-- The loop of `take_part` does what `takeFragments` says, in at most one round
more than there are chunks. -/
theorem fillPart_eq {partSize : UInt64} {chunks : List Bytes} {missing : Nat} {taken : Bytes}
    {rest : List Bytes} (h : takeFragments chunks missing = some (taken, rest)) {rounds : Nat}
    (hrounds : chunks.length < rounds) {part : Bytes}
    (hpart : part.length + missing = partSize.toNat) :
    fillPart partSize rounds part chunks = .ok (part ++ taken, rest) := by
  obtain ⟨rounds, rfl⟩ : ∃ n, rounds = n + 1 := ⟨rounds - 1, by omega⟩
  induction chunks generalizing missing rounds part taken with
  | nil =>
      cases missing with
      | succ missing => cases h
      | zero =>
          obtain ⟨rfl, rfl⟩ := Prod.mk.inj (Option.some.inj h)
          rw [fillPart, if_neg (by omega), List.append_nil]
  | cons chunk chunks ih =>
      cases missing with
      | zero =>
          obtain ⟨rfl, rfl⟩ := Prod.mk.inj (Option.some.inj h)
          rw [fillPart, if_neg (by omega), List.append_nil]
      | succ missing =>
          rw [List.length_cons] at hrounds
          have hremaining : partSize.toNat - part.length = missing + 1 := by omega
          rw [fillPart, if_pos (by omega)]
          dsimp only
          rw [hremaining]
          unfold takeFragments at h
          dsimp only at h
          split at h
          · next hempty =>
            -- the chunk is used up and removed
            obtain ⟨⟨next, rest'⟩, hnext, hsame⟩ := Option.map_eq_some_iff.mp h
            obtain ⟨rfl, rfl⟩ := Prod.mk.inj hsame
            obtain ⟨m, rfl⟩ : ∃ m, rounds = m + 1 := ⟨rounds - 1, by omega⟩
            have hpart' : (part ++ chunk.take (min (missing + 1) chunk.length)).length +
                (missing + 1 - min (missing + 1) chunk.length) = partSize.toNat := by
              rw [List.length_append, List.length_take]
              omega
            rw [if_pos hempty, ih hnext hpart' m (by omega), List.append_assoc]
          · next hleft =>
            -- something is left of it, so the part is full
            obtain ⟨rfl, rfl⟩ := Prod.mk.inj (Option.some.inj h)
            rw [if_neg hleft]
            rw [List.isEmpty_iff, ← ne_eq, ← List.length_pos_iff, List.length_drop] at hleft
            obtain ⟨m, rfl⟩ : ∃ m, rounds = m + 1 := ⟨rounds - 1, by omega⟩
            rw [fillPart, if_neg]
            rw [List.length_append, List.length_take]
            omega

/-- **`take_part`.**  From a buffer that holds a part it takes exactly that
part, and the counter goes on counting the buffer. -/
theorem PartBuffer.takePart_ok {buffer : PartBuffer} {partSize : UInt64}
    (hbytes : buffer.bytes.toNat = buffer.chunks.flatten.length) (hsize : partSize ≤ buffer.bytes) :
    ∃ part rest, buffer.takePart partSize = .ok (part, rest) ∧ part.length = partSize.toNat ∧
      part ++ rest.chunks.flatten = buffer.chunks.flatten ∧
      rest.bytes.toNat = rest.chunks.flatten.length := by
  have henough : partSize.toNat ≤ buffer.chunks.flatten.length := by
    rw [← hbytes]
    exact UInt64.le_iff_toNat_le.mp hsize
  obtain ⟨part, rest, htake, hlength, hflatten⟩ := takeFragments_eq_some henough
  have hcount : (buffer.bytes - partSize).toNat = rest.flatten.length := by
    rw [UInt64.toNat_sub_of_le _ _ hsize, hbytes, ← hflatten, List.length_append, hlength]
    omega
  have hfill : buffer.fill partSize =
      .ok (part, { chunks := rest, bytes := buffer.bytes - partSize }) := by
    unfold PartBuffer.fill
    rw [fillPart_eq htake (Nat.lt_succ_self _) (Nat.zero_add _)]
    rfl
  unfold PartBuffer.takePart
  split
  · next chunk hchunks =>
    split
    · next hwhole =>
      refine ⟨chunk, _, rfl, hwhole, ?_, ?_⟩
      · rw [hchunks]
        simp
      · rw [UInt64.toNat_sub_of_le _ _ hsize, hbytes, hchunks]
        simp [hwhole]
    · exact ⟨part, _, hfill, hlength, hflatten, hcount⟩
  · exact ⟨part, _, hfill, hlength, hflatten, hcount⟩

/-! ## The invariant -/

/-- The last part has at least one byte and at most five MiB, the others have
exactly five MiB. -/
structure WellSized (uploaded : List (Int32 × Bytes)) : Prop where
  full : ∀ part ∈ uploaded.dropLast, part.2.length = multipartPartSize
  last : ∀ part, uploaded.getLast? = some part →
    0 < part.2.length ∧ part.2.length ≤ multipartPartSize

/-- What a phase adds to the invariant. -/
def StreamWriter.PhaseFacts (s : StreamWriter) : Prop :=
  match s.phase with
  | .receiving => s.partNumber = Int32.ofNat (s.uploaded.length + 1) ∧
      ∀ part ∈ s.uploaded, part.2.length = multipartPartSize
  | .flushing => s.partNumber = Int32.ofNat (s.uploaded.length + 1) ∧
      (∀ part ∈ s.uploaded, part.2.length = multipartPartSize) ∧
      s.buffer.bytes.toNat < multipartPartSize ∧ s.incoming = []
  | .closing => WellSized s.uploaded ∧ s.buffer.bytes.toNat = 0 ∧ s.incoming = []
  | .completed => WellSized s.uploaded ∧ s.buffer.bytes.toNat = 0 ∧ s.incoming = [] ∧
      s.uploaded ≠ []
  | .aborted message => s.buffer.bytes.toNat = 0 ∧ s.incoming = [] ∧ s.uploaded = [] ∧
      message = "cannot write an empty shard"
  | .faulted _ => False

/-- What holds of a writer of some bytes between two rounds. -/
structure StreamWriter.Planned (bytes : Bytes) (s : StreamWriter) : Prop where
  buffered : s.buffer.bytes.toNat = s.buffer.chunks.flatten.length
  received : s.checksumSent.flatten ++ s.incoming.flatten = bytes
  moved : (s.uploaded.map (·.2)).flatten ++ s.buffer.chunks.flatten = s.checksumSent.flatten
  numbered : s.uploaded.map (·.1) = (List.range' 1 s.uploaded.length).map Int32.ofNat
  completed : s.completedParts = s.uploaded.map (·.1)
  facts : s.PhaseFacts

namespace StreamWriter

section
variable {bytes : Bytes} {s s' : StreamWriter}

theorem planned_start (chunks : List Bytes) :
    Planned chunks.flatten ({ incoming := chunks } : StreamWriter) where
  buffered := rfl
  received := rfl
  moved := rfl
  numbered := rfl
  completed := rfl
  facts := ⟨rfl, fun _ h => (by cases h)⟩

/-- A part is uploaded under the next number. -/
theorem Planned.uploadPart (h : Planned bytes s) {partSize : UInt64}
    (hsize : partSize ≤ s.buffer.bytes)
    (hnumber : s.partNumber = Int32.ofNat (s.uploaded.length + 1)) :
    ∃ part rest, part.length = partSize.toNat ∧
      rest.bytes.toNat = s.buffer.bytes.toNat - partSize.toNat ∧
      s.uploadPart partSize = .ok { s with
        buffer := rest
        uploaded := s.uploaded ++ [(s.partNumber, part)]
        completedParts := s.completedParts ++ [s.partNumber] } ∧
      rest.bytes.toNat = rest.chunks.flatten.length ∧
      ((s.uploaded ++ [(s.partNumber, part)]).map (·.2)).flatten ++ rest.chunks.flatten =
        s.checksumSent.flatten ∧
      (s.uploaded ++ [(s.partNumber, part)]).map (·.1) =
        (List.range' 1 (s.uploaded ++ [(s.partNumber, part)]).length).map Int32.ofNat ∧
      s.completedParts ++ [s.partNumber] = (s.uploaded ++ [(s.partNumber, part)]).map (·.1) := by
  obtain ⟨part, rest, htake, hlength, hflatten, hcount⟩ :=
    PartBuffer.takePart_ok h.buffered hsize
  refine ⟨part, rest, hlength, ?_, ?_, hcount, ?_, ?_, ?_⟩
  · rw [hcount, h.buffered, ← hflatten, List.length_append, hlength]
    omega
  · unfold StreamWriter.uploadPart
    rw [htake]
    rfl
  · rw [← h.moved, ← hflatten, List.map_append, List.flatten_append, List.append_assoc]
    simp
  · rw [List.map_append, h.numbered, List.length_append, List.length_singleton,
      List.range'_concat, List.map_append, hnumber, Nat.one_mul, Nat.add_comm 1]
    rfl
  · rw [h.completed, List.map_append]
    rfl

/-- A chunk is received; the counter does not overflow. -/
theorem Planned.push (h : Planned bytes s) (hbytes : bytes.length < 2 ^ 64) {chunk : Bytes}
    {incoming : List Bytes} (hincoming : s.incoming = chunk :: incoming) :
    (s.buffer.push chunk).bytes.toNat = (s.buffer.push chunk).chunks.flatten.length := by
  have htotal := congrArg List.length h.received
  have hmoved := congrArg List.length h.moved
  rw [hincoming, List.flatten_cons] at htotal
  simp only [List.length_append] at htotal hmoved
  show (s.buffer.bytes + UInt64.ofNat chunk.length).toNat =
    (s.buffer.chunks ++ [chunk]).flatten.length
  rw [UInt64.toNat_add, UInt64.toNat_ofNat', h.buffered, List.flatten_append, List.length_append]
  simp only [List.flatten_cons, List.flatten_nil, List.append_nil]
  rw [Nat.mod_eq_of_lt (show chunk.length < 2 ^ 64 by omega), Nat.mod_eq_of_lt (by omega)]

/-- A round that uploads a full part, takes in a chunk or finds the end of the stream. -/
theorem Planned.receive (h : Planned bytes s) (hbytes : bytes.length < 2 ^ 64)
    (hphase : s.phase = .receiving) (hstep : s.step = some s') : Planned bytes s' := by
  have hfacts := h.facts
  unfold PhaseFacts at hfacts
  unfold StreamWriter.step at hstep
  rw [hphase] at hfacts hstep
  obtain ⟨hnumber, hfull⟩ := hfacts
  dsimp only at hstep
  split at hstep
  · next hpart =>
    obtain ⟨part, rest, hlength, _, hupload, hcount, hmoved, hnumbered, hcompleted⟩ :=
      h.uploadPart hpart hnumber
    rw [hupload] at hstep
    obtain rfl := Option.some.inj hstep
    refine ⟨hcount, h.received, hmoved, hnumbered, hcompleted, ?_⟩
    unfold PhaseFacts
    dsimp only [proceed]
    rw [hphase]
    dsimp only
    constructor
    · rw [hnumber, List.length_append, List.length_singleton]
      exact (Int32.ofNat_add _ 1).symm
    · intro other hother
      rcases List.mem_append.mp hother with hold | hnew
      · exact hfull other hold
      · rw [List.mem_singleton.mp hnew]
        exact hlength
  · next hless =>
    have hless' : s.buffer.bytes.toNat < multipartPartSize := by
      rw [← toNat_partSizeWord]
      exact Nat.lt_of_not_le fun hle => hless (UInt64.le_iff_toNat_le.mpr hle)
    cases hincoming : s.incoming with
    | nil =>
        rw [hincoming] at hstep
        obtain rfl := Option.some.inj hstep
        exact ⟨h.buffered, by rw [← h.received, hincoming], h.moved, h.numbered, h.completed,
          hnumber, hfull, hless', rfl⟩
    | cons chunk incoming =>
        have hpush := h.push hbytes hincoming
        rw [hincoming] at hstep
        obtain rfl := Option.some.inj hstep
        refine ⟨hpush, ?_, ?_, h.numbered, h.completed, hnumber, hfull⟩
        · rw [← h.received, hincoming]
          simp
        · show _ ++ (s.buffer.chunks ++ [chunk]).flatten = (s.checksumSent ++ [chunk]).flatten
          rw [List.flatten_append, ← List.append_assoc, h.moved, List.flatten_append]

/-- The round that uploads what is left. -/
theorem Planned.flush (h : Planned bytes s)
    (hphase : s.phase = .flushing) (hstep : s.step = some s') : Planned bytes s' := by
  have hfacts := h.facts
  unfold PhaseFacts at hfacts
  unfold StreamWriter.step at hstep
  rw [hphase] at hfacts hstep
  obtain ⟨hnumber, hfull, hless, hincoming⟩ := hfacts
  dsimp only at hstep
  split at hstep
  · next hpositive =>
    have hpositive' : 0 < s.buffer.bytes.toNat := UInt64.lt_iff_toNat_lt.mp hpositive
    obtain ⟨part, rest, hlength, hleft, hupload, hcount, hmoved, hnumbered, hcompleted⟩ :=
      h.uploadPart (UInt64.le_refl _) hnumber
    rw [hupload] at hstep
    obtain rfl := Option.some.inj hstep
    refine ⟨hcount, h.received, hmoved, hnumbered, hcompleted, ⟨?_, ?_⟩, ?_, hincoming⟩
    · intro other hother
      rw [proceed, List.dropLast_concat] at hother
      exact hfull other hother
    · intro other hother
      rw [proceed, List.getLast?_concat] at hother
      rw [← Option.some.inj hother, hlength]
      exact ⟨hpositive', Nat.le_of_lt hless⟩
    · exact hleft.trans (Nat.sub_self _)
  · next hzero =>
    have hzero' : s.buffer.bytes.toNat = 0 :=
      Nat.eq_zero_of_not_pos fun hpos => hzero (UInt64.lt_iff_toNat_lt.mpr hpos)
    obtain rfl := Option.some.inj hstep
    refine ⟨h.buffered, h.received, h.moved, h.numbered, h.completed, ⟨?_, ?_⟩, hzero',
      hincoming⟩
    · exact fun part hpart => hfull part (s.uploaded.dropLast_subset hpart)
    · intro part hlast
      rw [hfull part (List.mem_of_getLast? hlast)]
      exact ⟨by decide, Nat.le_refl _⟩

/-- The round that completes or aborts the upload. -/
theorem Planned.close (h : Planned bytes s)
    (hphase : s.phase = .closing) (hstep : s.step = some s') : Planned bytes s' := by
  have hfacts := h.facts
  unfold PhaseFacts at hfacts
  unfold StreamWriter.step at hstep
  rw [hphase] at hfacts hstep
  obtain ⟨hsized, hzero, hincoming⟩ := hfacts
  dsimp only at hstep
  split at hstep
  · next hempty =>
    have huploaded : s.uploaded = [] := by
      rw [h.completed, List.isEmpty_iff, List.map_eq_nil_iff] at hempty
      exact hempty
    obtain rfl := Option.some.inj hstep
    exact ⟨h.buffered, h.received, h.moved, h.numbered, h.completed, hzero, hincoming,
      huploaded, rfl⟩
  · next hsome =>
    have huploaded : s.uploaded ≠ [] := by
      intro hnil
      rw [h.completed, hnil] at hsome
      exact hsome rfl
    obtain rfl := Option.some.inj hstep
    exact ⟨h.buffered, h.received, h.moved, h.numbered, h.completed, hsized, hzero, hincoming,
      huploaded⟩

/-- **One round** keeps the plan. -/
theorem Planned.step (h : Planned bytes s) (hbytes : bytes.length < 2 ^ 64)
    (hstep : s.step = some s') : Planned bytes s' := by
  cases hphase : s.phase with
  | receiving => exact h.receive hbytes hphase hstep
  | flushing => exact h.flush hphase hstep
  | closing => exact h.close hphase hstep
  | completed | aborted _ | faulted _ =>
      unfold StreamWriter.step at hstep
      rw [hphase] at hstep
      cases hstep

theorem Planned.after (h : Planned bytes s) (hbytes : bytes.length < 2 ^ 64) (n : Nat) :
    Planned bytes (s.after n) := by
  induction n with
  | zero => exact h
  | succ n ih =>
      rw [StreamWriter.after]
      cases hstep : (s.after n).step with
      | none => exact ih
      | some next => exact ih.step hbytes hstep

/-! ## The writer comes to its end -/

/-- The rounds that are left, at most. -/
def fuel (s : StreamWriter) : Nat :=
  match s.phase with
  | .receiving => 3 + s.incoming.length + s.incoming.flatten.length + s.buffer.bytes.toNat
  | .flushing => 2
  | .closing => 1
  | .completed | .aborted _ | .faulted _ => 0

/-- Every round uses some of them up: it takes a chunk out of the stream, a part
out of the buffer, or the call to its next phase. -/
theorem Planned.fuel_lt (h : Planned bytes s) (hbytes : bytes.length < 2 ^ 64)
    (hstep : s.step = some s') : s'.fuel < s.fuel := by
  have hfacts := h.facts
  unfold PhaseFacts at hfacts
  unfold StreamWriter.step at hstep
  unfold fuel
  cases hphase : s.phase with
  | receiving =>
      rw [hphase] at hfacts hstep
      dsimp only at hstep
      split at hstep
      · next hpart =>
        obtain ⟨part, rest, _, hleft, hupload, _⟩ := h.uploadPart hpart hfacts.1
        have hsize : partSizeWord.toNat ≤ s.buffer.bytes.toNat := UInt64.le_iff_toNat_le.mp hpart
        rw [hupload] at hstep
        obtain rfl := Option.some.inj hstep
        dsimp only [proceed]
        rw [hphase]
        dsimp only
        rw [hleft]
        have hpos : 0 < partSizeWord.toNat := by decide
        omega
      · cases hincoming : s.incoming with
        | nil =>
            rw [hincoming] at hstep
            obtain rfl := Option.some.inj hstep
            dsimp only
            omega
        | cons chunk incoming =>
            have hpush := h.push hbytes hincoming
            rw [hincoming] at hstep
            obtain rfl := Option.some.inj hstep
            dsimp only
            rw [hpush, h.buffered]
            simp only [PartBuffer.push, List.flatten_append, List.flatten_cons, List.flatten_nil,
              List.append_nil, List.length_append, List.length_cons]
            omega
  | flushing =>
      rw [hphase] at hfacts hstep
      dsimp only at hstep
      split at hstep
      · obtain ⟨part, rest, _, _, hupload, _⟩ := h.uploadPart (UInt64.le_refl _) hfacts.1
        rw [hupload] at hstep
        obtain rfl := Option.some.inj hstep
        exact Nat.lt_succ_self 1
      · obtain rfl := Option.some.inj hstep
        exact Nat.lt_succ_self 1
  | closing =>
      rw [hphase] at hstep
      dsimp only at hstep
      split at hstep <;>
        · obtain rfl := Option.some.inj hstep
          exact Nat.lt_succ_self 0
  | completed =>
      rw [hphase] at hstep
      cases hstep
  | aborted message =>
      rw [hphase] at hstep
      cases hstep
  | faulted fault =>
      rw [hphase] at hstep
      cases hstep

theorem Planned.ends (h : Planned bytes s) (hbytes : bytes.length < 2 ^ 64) :
    ∃ n, (s.after n).step = none := by
  suffices hleft : ∀ k n, (s.after n).fuel ≤ k → ∃ m, (s.after m).step = none from
    hleft _ 0 (Nat.le_refl _)
  intro k
  induction k with
  | zero =>
      intro n hfuel
      cases hstep : (s.after n).step with
      | none => exact ⟨n, hstep⟩
      | some next =>
          have hlt := (h.after hbytes n).fuel_lt hbytes hstep
          omega
  | succ k ih =>
      intro n hfuel
      cases hstep : (s.after n).step with
      | none => exact ⟨n, hstep⟩
      | some next =>
          have hlt := (h.after hbytes n).fuel_lt hbytes hstep
          apply ih (n + 1)
          rw [StreamWriter.after, hstep, Option.getD_some]
          omega

end

end StreamWriter

/-! ## The plan -/

/-- Of less than `k` parts the numbers are less than `k`. -/
theorem WellSized.length_le {uploaded : List (Int32 × Bytes)} (h : WellSized uploaded) {k : Nat}
    (hbytes : (uploaded.map (·.2)).flatten.length ≤ k * multipartPartSize) :
    uploaded.length ≤ k := by
  rcases List.eq_nil_or_concat uploaded with rfl | ⟨before, part, rfl⟩
  · exact Nat.zero_le k
  · obtain ⟨hpos, _⟩ := h.last part (by simp)
    have hfull : ∀ other ∈ before.map (·.2), other.length = multipartPartSize := by
      intro other hother
      obtain ⟨sent, hsent, rfl⟩ := List.mem_map.mp hother
      exact h.full sent (by simpa using hsent)
    rw [List.concat_eq_append, List.map_append, List.flatten_append, List.length_append,
      Chunking.length_flatten_of_length hfull, List.length_map] at hbytes
    simp only [List.map_cons, List.map_nil, List.flatten_cons, List.flatten_nil,
      List.append_nil] at hbytes
    have hlt : before.length * multipartPartSize < k * multipartPartSize := by omega
    rw [List.concat_eq_append, List.length_append, List.length_singleton]
    exact Nat.lt_of_mul_lt_mul_right hlt

/-- The checksum worker consumes what it is sent, and counts it. -/
theorem checksumTask_eq (sent : List Bytes) :
    checksumTask sent = (sent.flatten, UInt64.ofNat sent.flatten.length) := by
  have hfold : ∀ (sent : List Bytes) (hashed : Bytes) (total : UInt64),
      sent.foldl (fun out chunk => (out.1 ++ chunk, out.2 + chunk.length.toUInt64))
        (hashed, total) = (hashed ++ sent.flatten, total + UInt64.ofNat sent.flatten.length) := by
    intro sent
    induction sent with
    | nil => intro hashed total; simp
    | cons chunk sent ih =>
        intro hashed total
        rw [List.foldl_cons, ih, List.flatten_cons, List.append_assoc, List.length_append,
          UInt64.ofNat_add, UInt64.add_assoc]
  rw [checksumTask, hfold, List.nil_append, UInt64.zero_add]

/-- The parts of an upload: numbered from one, all of five MiB but a shorter last
one, and together the bytes. -/
structure MultipartPlan (uploaded : List (Int32 × Bytes)) (bytes : Bytes) : Prop where
  numbers : uploaded.map (·.1.toInt) = (List.range' 1 uploaded.length).map Int.ofNat
  sizes : WellSized uploaded
  content : (uploaded.map (·.2)).flatten = bytes

/-- The parts of a plan are the pieces of the bytes. -/
theorem MultipartPlan.map_snd {uploaded : List (Int32 × Bytes)} {bytes : Bytes}
    (h : MultipartPlan uploaded bytes) :
    uploaded.map (·.2) = Chunking.pieces multipartPartSize bytes := by
  rw [← h.content]
  refine Chunking.eq_pieces (by decide) (fun part hpart => ?_) (fun part hpart => ?_)
  · rw [← List.map_dropLast] at hpart
    obtain ⟨sent, hsent, rfl⟩ := List.mem_map.mp hpart
    exact h.sizes.full sent hsent
  · rw [List.getLast?_map] at hpart
    obtain ⟨sent, hsent, rfl⟩ := Option.map_eq_some_iff.mp hpart
    exact h.sizes.last sent hsent

/-- A plan has a part for each five MiB begun. -/
theorem MultipartPlan.lt_length_iff {uploaded : List (Int32 × Bytes)} {bytes : Bytes}
    (h : MultipartPlan uploaded bytes) {k : Nat} :
    k < uploaded.length ↔ k * multipartPartSize < bytes.length := by
  rw [← Chunking.lt_length_pieces_iff (by decide), ← h.map_snd, List.length_map]

/-- The writer has not panicked and is not stuck in `take_part`, and its counter
is the sum of the lengths of the buffered chunks. -/
structure StreamWriter.Steady (s : StreamWriter) : Prop where
  sound : ∀ fault, s.phase ≠ .faulted fault
  counted : s.buffer.bytes.toNat = (s.buffer.chunks.map List.length).sum

/-- How the call ends. -/
structure StreamWriter.Ended (s : StreamWriter) (bytes : Bytes) : Prop where
  stopped : s.step = none
  hashed : (checksumTask s.checksumSent).1 = bytes
  total : (checksumTask s.checksumSent).2.toNat = bytes.length
  uploaded : 0 < bytes.length → s.phase = .completed ∧ MultipartPlan s.uploaded bytes ∧
    s.completedParts = s.uploaded.map (·.1)
  empty : bytes.length = 0 → s.phase = .aborted "cannot write an empty shard" ∧ s.uploaded = []

namespace StreamWriter

section
variable {bytes : Bytes} {s : StreamWriter}

/-- The numbers of a plan that is not too long fit in an `i32`. -/
theorem Planned.numbers (h : Planned bytes s) (hlength : s.uploaded.length < 2 ^ 31) :
    s.uploaded.map (·.1.toInt) = (List.range' 1 s.uploaded.length).map Int.ofNat := by
  have hmap : s.uploaded.map (·.1.toInt) = (s.uploaded.map (·.1)).map Int32.toInt := by
    rw [List.map_map]
    rfl
  rw [hmap, h.numbered, List.map_map]
  apply List.map_congr_left
  intro n hn
  rw [List.mem_range'_1] at hn
  exact Int32.toInt_ofNat_of_lt (by omega)

/-- Sent and hashed are the bytes when nothing is left to come and to send. -/
theorem Planned.all_sent (h : Planned bytes s) (hzero : s.buffer.bytes.toNat = 0)
    (hincoming : s.incoming = []) :
    s.checksumSent.flatten = bytes ∧ (s.uploaded.map (·.2)).flatten = bytes := by
  have hreceived := h.received
  have hmoved := h.moved
  have hempty : s.buffer.chunks.flatten = [] :=
    List.eq_nil_of_length_eq_zero (h.buffered.symm.trans hzero)
  rw [hincoming, List.flatten_nil, List.append_nil] at hreceived
  rw [hempty, List.append_nil] at hmoved
  exact ⟨hreceived, hmoved.trans hreceived⟩

/-- A planned writer that has stopped has ended as it should. -/
theorem Planned.ended (h : Planned bytes s) (hstop : s.step = none)
    (hparts : bytes.length ≤ (2 ^ 31 - 1) * multipartPartSize) : s.Ended bytes := by
  have hbytes : bytes.length < 2 ^ 64 := Nat.lt_of_le_of_lt hparts (by decide)
  have hchecksum : s.checksumSent.flatten = bytes →
      (checksumTask s.checksumSent).1 = bytes ∧
        (checksumTask s.checksumSent).2.toNat = bytes.length := by
    intro hsent
    rw [checksumTask_eq, hsent]
    exact ⟨rfl, UInt64.toNat_ofNat_of_lt' hbytes⟩
  have hfacts := h.facts
  unfold PhaseFacts at hfacts
  have hrunning := hstop
  unfold StreamWriter.step at hrunning
  cases hphase : s.phase with
  | receiving =>
      rw [hphase] at hrunning
      dsimp only at hrunning
      split at hrunning
      · cases hrunning
      · split at hrunning <;> cases hrunning
  | flushing =>
      rw [hphase] at hrunning
      dsimp only at hrunning
      split at hrunning <;> cases hrunning
  | closing =>
      rw [hphase] at hrunning
      dsimp only at hrunning
      split at hrunning <;> cases hrunning
  | completed =>
      rw [hphase] at hfacts
      obtain ⟨hsized, hzero, hincoming, hne⟩ := hfacts
      obtain ⟨hsent, hcontent⟩ := h.all_sent hzero hincoming
      have hlength : s.uploaded.length ≤ 2 ^ 31 - 1 := hsized.length_le (by rwa [hcontent])
      refine ⟨hstop, (hchecksum hsent).1, (hchecksum hsent).2, fun _ => ⟨hphase,
        ⟨h.numbers (by omega), hsized, hcontent⟩, h.completed⟩, fun hempty => ?_⟩
      -- the last part of a completed upload has at least one byte
      have hlast := List.getLast?_eq_some_getLast hne
      have hmem : (s.uploaded.getLast hne).2 ∈ s.uploaded.map (·.2) :=
        List.mem_map_of_mem (List.getLast_mem hne)
      have hle := (List.sublist_flatten_of_mem hmem).length_le
      have hpos := (hsized.last _ hlast).1
      rw [hcontent] at hle
      omega
  | aborted message =>
      rw [hphase] at hfacts
      obtain ⟨hzero, hincoming, hnone, rfl⟩ := hfacts
      obtain ⟨hsent, hcontent⟩ := h.all_sent hzero hincoming
      refine ⟨hstop, (hchecksum hsent).1, (hchecksum hsent).2, fun hpos => ?_,
        fun _ => ⟨hphase, hnone⟩⟩
      rw [← hcontent, hnone] at hpos
      exact absurd hpos (Nat.lt_irrefl 0)
  | faulted fault =>
      rw [hphase] at hfacts
      exact hfacts.elim

end

/-- **The multipart plan.**  Whatever the chunks of a stream of less than `2 ^ 31`
parts, the writer stays steady and comes to an end: the upload is completed with
the parts of the plan, or it is aborted because the stream was empty. -/
theorem multipart_plan (chunks : List Bytes)
    (hparts : chunks.flatten.length ≤ (2 ^ 31 - 1) * multipartPartSize) :
    (∀ n, (({ incoming := chunks } : StreamWriter).after n).Steady) ∧
      ∃ n, (({ incoming := chunks } : StreamWriter).after n).Ended chunks.flatten := by
  have hbytes : chunks.flatten.length < 2 ^ 64 :=
    Nat.lt_of_le_of_lt hparts (by decide)
  have hplanned := planned_start chunks
  constructor
  · intro n
    have hn := hplanned.after hbytes n
    refine ⟨fun fault hfault => ?_, by rw [hn.buffered, List.length_flatten]⟩
    have hfacts := hn.facts
    rw [PhaseFacts, hfault] at hfacts
    exact hfacts
  · obtain ⟨n, hn⟩ := hplanned.ends hbytes
    exact ⟨n, (hplanned.after hbytes n).ended hn hparts⟩

/-- A stream of five MiB and three bytes, in four chunks. -/
def largeStream : List Bytes := [List.replicate 5242880 7, [1, 2], [], [3]]

theorem length_largeStream : largeStream.flatten.length = 5242883 := by
  simp only [largeStream, List.flatten_cons, List.flatten_nil, List.length_append,
    List.length_replicate, List.length_cons, List.length_nil]

/-- It is uploaded in two parts. -/
theorem multipart_plan_of_two_parts :
    ∃ n, (({ incoming := largeStream } : StreamWriter).after n).Ended largeStream.flatten ∧
      (({ incoming := largeStream } : StreamWriter).after n).uploaded.length = 2 := by
  obtain ⟨_, n, hended⟩ := multipart_plan largeStream (length_largeStream ▸ by decide)
  have hpos : 0 < largeStream.flatten.length := length_largeStream ▸ by decide
  obtain ⟨_, hplan, _⟩ := hended.uploaded hpos
  have hone := hplan.lt_length_iff (k := 1)
  have htwo := hplan.lt_length_iff (k := 2)
  rw [length_largeStream] at hone htwo
  refine ⟨n, hended, ?_⟩
  have hmore := hone.mpr (by decide)
  have hless := mt htwo.mp (by decide)
  omega

/-! ## The calls of the plan -/

section
open CallProgram Chunking

variable {bytes : Bytes} {s : StreamWriter}

/-- The calls of a plan upload the pieces of the bytes, numbered from one. -/
theorem uploads_eq_partCalls {uploaded : List (Int32 × Bytes)} (h : MultipartPlan uploaded bytes)
    (key : String) (uploadId : Nat) :
    uploaded.map (fun part => S3Call.uploadPart key uploadId part.1.toInt.toNat part.2) =
      partCalls key uploadId (pieces multipartPartSize bytes) := by
  rw [← h.map_snd, partCalls]
  apply List.ext_getElem (by simp)
  intro i hi hi'
  have hnumber : (uploaded.map (·.1.toInt))[i]? = some (Int.ofNat (1 + i)) := by
    rw [h.numbers]
    simp only [List.length_map] at hi
    simp [hi]
  simp only [List.length_map] at hi
  rw [List.getElem?_map, List.getElem?_eq_getElem hi, Option.map_some] at hnumber
  rw [List.getElem_map, List.getElem_mapIdx, List.getElem_map, Option.some.inj hnumber]
  rfl

theorem Ended.stagingCalls (h : s.Ended bytes) (hpos : 0 < bytes.length) (key : String)
    (uploadId : Nat) :
    .createMultipartUpload key ::
        s.uploaded.map (fun part => S3Call.uploadPart key uploadId part.1.toInt.toNat part.2) ++
        [.completeMultipartUpload key uploadId (s.completedParts.map (·.toInt.toNat))] =
      CheckpointRuntime.stagingCalls key uploadId bytes := by
  obtain ⟨_, hplan, hcompleted⟩ := h.uploaded hpos
  have huploads := uploads_eq_partCalls hplan key uploadId
  have hlength := congrArg List.length huploads
  rw [length_partCalls, List.length_map] at hlength
  have hnumbers : s.completedParts.map (·.toInt.toNat) =
      List.range' 1 (pieces multipartPartSize bytes).length := by
    have hmap : s.completedParts.map (·.toInt.toNat) =
        (s.uploaded.map (·.1.toInt)).map Int.toNat := by
      rw [hcompleted, List.map_map, List.map_map]
      rfl
    rw [hmap, hplan.numbers, List.map_map, ← hlength]
    exact List.map_id _
  rw [huploads, hnumbers]
  rfl

/-- **The calls of the plan.**  Over a bucket that fails none of its calls, the
writer of `ShardWriter` begins with the uploads of the plan, and its result has
what the checksum worker says. -/
theorem planned_calls (sha256 : Bytes → String) (runId checkpointId shardId uuid : String)
    (huuid : isUuid uuid = true) (chunks : List Bytes)
    (hparts : chunks.flatten.length ≤ (2 ^ 31 - 1) * multipartPartSize)
    (hpos : 0 < chunks.flatten.length) (b : Bucket) :
    ∃ n, (({ incoming := chunks } : StreamWriter).after n).step = none ∧
      Ends (fun _ _ => .none)
        (writeShardStream sha256 runId checkpointId shardId uuid (chunks.map .ok)) (b, [])
        (fun result t =>
          let s := ({ incoming := chunks } : StreamWriter).after n
          let staging := stagingKey runId checkpointId shardId uuid
          result.totalBytes = (checksumTask s.checksumSent).2.toNat ∧
          result.sha256Checksum = sha256 (checksumTask s.checksumSent).1 ∧
          .createMultipartUpload staging ::
            s.uploaded.map (fun part =>
              S3Call.uploadPart staging b.nextUpload part.1.toInt.toNat part.2) ++
            [.completeMultipartUpload staging b.nextUpload
              (s.completedParts.map (·.toInt.toNat))] <+: t.2)
        (fun _ => False) := by
  have hbytes : chunks.flatten.length < 2 ^ 64 := Nat.lt_of_le_of_lt hparts (by decide)
  obtain ⟨n, hstop⟩ := (planned_start chunks).ends hbytes
  have hended := ((planned_start chunks).after hbytes n).ended hstop hparts
  refine ⟨n, hstop, ?_⟩
  dsimp only
  rw [hended.stagingCalls hpos, hended.hashed, hended.total]
  have hpattern : ∀ (n : Nat) (op : S3Call), op.cleansUp = false →
      (fun _ _ => Fault.none : Nat → S3Call → Fault) n op = (fun _ => Fault.none) n :=
    fun _ _ _ => rfl
  have hstages : Stages (fun _ => .none) (chunks.map .ok) := by
    refine ⟨fun item hitem => ?_, ?_, fun _ _ => rfl⟩
    · obtain ⟨chunk, _, rfl⟩ := List.mem_map.mp hitem
      rfl
    · rw [payload_map_ok]
      exact List.length_pos_iff.mp hpos
  refine ends_writeShardStream hpattern (fun _ => ?_) fun hnot => absurd hstages hnot
  rw [payload_map_ok]
  have hstaged : (b.numbered.staged (stagingKey runId checkpointId shardId uuid) b.nextUpload
      chunks.flatten).get? (stagingKey runId checkpointId shardId uuid) =
        some (.bytes chunks.flatten) := by
    rw [Bucket.staged, Bucket.get?_store, if_pos rfl]
  refine (ends_promoteShard hpattern huuid hstaged).weaken ?_ ?_
  · intro result t h
    obtain ⟨_, rfl, hlog⟩ := h
    exact ⟨rfl, rfl, by rw [hlog]; exact List.prefix_append _ _⟩
  · intro t h
    obtain ⟨hnot, _⟩ := h
    apply hnot
    unfold promotionCalls
    split <;> exact ⟨rfl, rfl, by trivial⟩

end

end StreamWriter

end CheckpointRuntime
