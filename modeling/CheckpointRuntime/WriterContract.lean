import CheckpointRuntime.StorageKeys

/-!
# What a shard write does to the bucket

The contract of `write_shard_stream`, in the presence of other programs that
use the same bucket and with any of its calls failing.  `WriterRely` is what
the writer needs of the others between two of its calls, `WriterGuar` is all
that one of its calls may change, and `Written` is what holds once it has
returned a result: the object under the content-addressed key has exactly the
bytes of the stream, and the sidecar has their digest.

The loop invariant is `Uploading`: the parts uploaded so far, followed by the
buffer, are the bytes hashed so far.
-/

namespace CheckpointRuntime

open CallProgram

/-! ## Rules for client functions -/

section
variable {α β : Type} {rely guar : Bucket → Bucket → Prop} {b : Bucket}

/-- The contract of a client function: `good` holds of the value it returns,
and `bad` when it fails. -/
def ClientKeeps (rely guar : Bucket → Bucket → Prop) (good : α → Bucket → Prop)
    (bad : Bucket → Prop) (x : S3Client α) (b : Bucket) : Prop :=
  Keeps bucketService rely guar
    (fun outcome t => match outcome with
      | .ok value => good value t
      | .error _ => bad t) x.run b

variable {good : α → Bucket → Prop} {bad : Bucket → Prop}

theorem ClientKeeps.pure {value : α} (h : good value b) :
    ClientKeeps rely guar good bad (pure value) b := h

theorem ClientKeeps.throw {message : String} (h : bad b) :
    ClientKeeps rely guar good bad (throw message : S3Client α) b := h

/-- Sequential composition; a failure of the first function is one of the
whole. -/
theorem ClientKeeps.bind {good' : β → Bucket → Prop} {x : S3Client α} {f : α → S3Client β}
    (h : ClientKeeps rely guar (fun value t => ClientKeeps rely guar good' bad (f value) t)
      bad x b) : ClientKeeps rely guar good' bad (x >>= f) b := by
  refine Keeps.bind (Keeps.weaken (fun _ _ h => h) (fun _ _ h => h) ?_ h)
  intro outcome t ht
  cases outcome with
  | error message => exact ht
  | ok value => exact ht

theorem ClientKeeps.weaken {good' : α → Bucket → Prop} {bad' : Bucket → Prop}
    (hgood : ∀ value t, good value t → good' value t) (hbad : ∀ t, bad t → bad' t)
    {x : S3Client α} (h : ClientKeeps rely guar good bad x b) :
    ClientKeeps rely guar good' bad' x b := by
  refine Keeps.weaken (fun _ _ h => h) (fun _ _ h => h) ?_ h
  intro outcome t ht
  cases outcome with
  | error message => exact hbad t ht
  | ok value => exact hgood value t ht

/-- One call: whatever the others did before it, it either changes nothing and
fails, or it has its effect and may or may not report it. -/
theorem ClientKeeps.await {op : S3Call} {good : op.Result → Bucket → Prop}
    (hidle : ∀ t, rely b t → guar t t ∧ bad t)
    (heffect : ∀ t, rely b t → ∀ t' result, t.effect op = .ok (t', result) →
      guar t t' ∧ good result t' ∧ bad t') :
    ClientKeeps rely guar good bad (S3Client.await op) b := by
  intro t ht fault
  obtain ⟨hguar, hbad⟩ := hidle t ht
  rcases bucketService_cases fault t op with ⟨e, hanswer⟩ | ⟨t', result, hrun, hanswer⟩
  · rw [hanswer]
    exact ⟨hguar, hbad⟩
  · obtain ⟨hguar', hgood', hbad'⟩ := heffect t ht t' result hrun
    rcases hanswer with hanswer | ⟨e, hanswer⟩
    · rw [hanswer]
      exact ⟨hguar', hgood'⟩
    · rw [hanswer]
      exact ⟨hguar', hbad'⟩

/-- A probe changes nothing, and a positive answer is true at its time. -/
theorem ClientKeeps.objectExists {key : String} {good : Bool → Bucket → Prop}
    (hidle : ∀ t, rely b t → guar t t ∧ good false t)
    (hpresent : ∀ t, rely b t → t.get? key ≠ none → good true t) :
    ClientKeeps rely guar good bad (S3Client.objectExists key) b := by
  intro t ht fault
  obtain ⟨hguar, hfalse⟩ := hidle t ht
  rcases answer_headObject fault t key with ⟨hkey, _, hanswer⟩ | ⟨_, e, hanswer⟩
  · rw [hanswer]
    exact ⟨hguar, hpresent t ht hkey⟩
  · rw [hanswer]
    exact ⟨hguar, hfalse⟩

/-- A function whose outcome is dropped. -/
theorem ClientKeeps.ignoring {good : Unit → Bucket → Prop} {x : S3Client α}
    (h : ClientKeeps rely guar (fun _ t => good () t) (fun t => good () t) x b) :
    ClientKeeps rely guar good bad (S3Client.ignoring x) b := by
  refine Keeps.bind (Keeps.weaken (fun _ _ h => h) (fun _ _ h => h) ?_ h)
  intro outcome t ht
  cases outcome with
  | error message => exact ht
  | ok value => exact ht

/-- A function with a cleanup on failure. -/
theorem ClientKeeps.cleaningUp {x : S3Client α} {cleanup : S3Client Unit}
    (h : ClientKeeps rely guar good
      (fun t => ClientKeeps rely guar (fun _ s => bad s) bad (S3Client.ignoring cleanup) t) x b) :
    ClientKeeps rely guar good bad (cleaningUp x cleanup) b := by
  refine Keeps.bind (Keeps.weaken (fun _ _ h => h) (fun _ _ h => h) ?_ h)
  intro outcome t ht
  cases outcome with
  | ok value => exact ht
  | error message =>
      refine Keeps.bind (Keeps.weaken (fun _ _ h => h) (fun _ _ h => h) ?_ ht)
      intro cleaned s hs
      cases cleaned with
      | error _ => exact hs
      | ok _ => exact hs

end

/-! ## Taking a part out of the buffer -/

/-- Taking fragments cuts the bytes of the buffer at the given length. -/
theorem takeFragments_eq_some {chunks : List Bytes} {missing : Nat}
    (h : missing ≤ chunks.flatten.length) :
    ∃ part rest, takeFragments chunks missing = some (part, rest) ∧
      part.length = missing ∧ part ++ rest.flatten = chunks.flatten := by
  induction chunks generalizing missing with
  | nil =>
      obtain rfl : missing = 0 := by simpa using h
      exact ⟨[], [], rfl, rfl, rfl⟩
  | cons chunk chunks ih =>
      cases missing with
      | zero => exact ⟨[], chunk :: chunks, rfl, rfl, rfl⟩
      | succ missing =>
          simp only [List.flatten_cons, List.length_append] at h
          by_cases hfits : chunk.length ≤ missing + 1
          · have hmin : min (missing + 1) chunk.length = chunk.length := by omega
            have hleft : missing + 1 - chunk.length ≤ chunks.flatten.length := by omega
            obtain ⟨part, rest, htake, hlen, hflat⟩ := ih hleft
            refine ⟨chunk ++ part, rest, ?_, ?_, ?_⟩
            · simp [takeFragments, hmin, htake]
            · rw [List.length_append, hlen]
              omega
            · rw [List.append_assoc, hflat, List.flatten_cons]
          · have hmin : min (missing + 1) chunk.length = missing + 1 := by omega
            have hleft : (chunk.drop (missing + 1)).isEmpty = false := by
              rw [List.isEmpty_eq_false_iff, ← List.length_pos_iff, List.length_drop]
              omega
            refine ⟨chunk.take (missing + 1), chunk.drop (missing + 1) :: chunks, ?_, ?_, ?_⟩
            · simp [takeFragments, hmin, hleft]
            · rw [List.length_take]
              omega
            · rw [List.flatten_cons, ← List.append_assoc, List.take_append_drop,
                List.flatten_cons]

/-- A part that the buffer holds can be taken out of it. -/
theorem takePart_eq_some {chunks : List Bytes} {partSize : Nat}
    (h : partSize ≤ chunks.flatten.length) :
    ∃ part rest, takePart chunks partSize = some (part, rest) ∧
      part.length = partSize ∧ part ++ rest.flatten = chunks.flatten := by
  unfold takePart
  split
  · next chunk =>
    split
    · next hlen => exact ⟨chunk, [], rfl, hlen, by simp⟩
    · exact takeFragments_eq_some h
  · exact takeFragments_eq_some h

/-! ## The contract -/

/-- The bytes of the chunks of a stream, up to its first error. -/
def payload : List (Except String Bytes) → Bytes
  | [] => []
  | .error _ :: _ => []
  | .ok chunk :: data => chunk ++ payload data

/-- The keys that a shard write uses, and the bytes it stores. -/
structure ShardTarget where
  staging : String
  final : String
  sidecar : String
  bytes : Bytes
  checksum : String
  staging_ne_final : final ≠ staging
  staging_ne_sidecar : sidecar ≠ staging
  final_ne_sidecar : final ≠ sidecar

/-- What the writer needs of everyone else between two of its calls: its open
upload is left alone and its staged object is at most deleted.  If the object
under the final key matters (`kept`), nobody stores other bytes there or
deletes it; if the sidecar matters (`alone`), nobody touches it. -/
structure WriterRely (target : ShardTarget) (kept alone : Prop) (b b' : Bucket) : Prop where
  uploads : ∀ uploadId, b'.uploads target.staging uploadId = b.uploads target.staging uploadId
  staging : b'.get? target.staging = b.get? target.staging ∨ b'.get? target.staging = none
  content : kept → ∀ body, b'.get? target.final = some body → body = .bytes target.bytes
  present : kept → b.get? target.final ≠ none → b'.get? target.final ≠ none
  sidecar : alone → b'.get? target.sidecar = b.get? target.sidecar

/-- All that one call of the writer may change. -/
structure WriterGuar (target : ShardTarget) (b b' : Bucket) : Prop where
  uploads : ∀ key uploadId, key ≠ target.staging → b'.uploads key uploadId = b.uploads key uploadId
  final : b'.get? target.final = b.get? target.final ∨
    b'.get? target.final = some (.bytes target.bytes)
  sidecar : b'.get? target.sidecar = b.get? target.sidecar ∨
    b'.get? target.sidecar = some (.text target.checksum)
  others : ∀ key, key ≠ target.staging → key ≠ target.final → key ≠ target.sidecar →
    b'.get? key = b.get? key

/-- What holds once the writer has returned a result. -/
structure Written (target : ShardTarget) (kept alone : Prop) (b : Bucket) : Prop where
  final : kept → b.get? target.final = some (.bytes target.bytes)
  sidecar : alone → b.get? target.sidecar = some (.text target.checksum)

/-- The keys of a shard write, and what it stores. -/
def shardTarget (sha256 : Bytes → String) (runId checkpointId shardId uuid : String)
    (huuid : isUuid uuid = true) (bytes : Bytes) : ShardTarget where
  staging := stagingKey runId checkpointId shardId uuid
  final := contentAddressedKey runId checkpointId shardId (sha256 bytes)
  sidecar := sidecarKey runId checkpointId shardId
  bytes := bytes
  checksum := sha256 bytes
  staging_ne_final := contentAddressedKey_ne_stagingKey huuid
  staging_ne_sidecar := sidecarKey_ne_stagingKey huuid
  final_ne_sidecar := contentAddressedKey_ne_sidecarKey

section
variable {target : ShardTarget} {kept alone : Prop}

theorem WriterGuar.refl (b : Bucket) : WriterGuar target b b :=
  ⟨fun _ _ _ => rfl, Or.inl rfl, Or.inl rfl, fun _ _ _ _ => rfl⟩

/-- Calls of a writer one after another. -/
theorem WriterGuar.trans {b b' b'' : Bucket}
    (h : WriterGuar target b b') (h' : WriterGuar target b' b'') : WriterGuar target b b'' := by
  refine ⟨?_, ?_, ?_, ?_⟩
  · intro key uploadId hkey
    rw [h'.uploads key uploadId hkey, h.uploads key uploadId hkey]
  · rcases h'.final with hsame | hbytes
    · rw [hsame]
      exact h.final
    · exact Or.inr hbytes
  · rcases h'.sidecar with hsame | htext
    · rw [hsame]
      exact h.sidecar
    · exact Or.inr htext
  · intro key h1 h2 h3
    rw [h'.others key h1 h2 h3, h.others key h1 h2 h3]

/-- A call that only touches open uploads of the staging key, or its object. -/
theorem WriterGuar.of_staging {b b' : Bucket}
    (huploads : ∀ key uploadId, key ≠ target.staging →
      b'.uploads key uploadId = b.uploads key uploadId)
    (hget : ∀ key, key ≠ target.staging → b'.get? key = b.get? key) :
    WriterGuar target b b' :=
  ⟨huploads, Or.inl (hget _ target.staging_ne_final), Or.inl (hget _ target.staging_ne_sidecar),
    fun key hne _ _ => hget key hne⟩

/-- The loop invariant of an upload: the open upload has parts `1` to `n`, and
their bytes followed by those in the buffer are the ones hashed so far. -/
structure Uploading (target : ShardTarget) (uploadId : Nat) (loop : UploadLoop) (b : Bucket) :
    Prop where
  uploaded : ∃ parts, b.uploads target.staging uploadId = some parts ∧
    ∃ sent : List Bytes, loop.completedParts = List.range' 1 sent.length ∧
      loop.partNumber = 1 + sent.length ∧
      (∀ i (h : i < sent.length), parts.lookup (1 + i) = some sent[i]) ∧
      sent.flatten ++ loop.bufferedChunks.flatten = loop.hashed
  buffered : loop.bufferedBytes = loop.bufferedChunks.flatten.length

/-- The invariant speaks about the open upload only, which nobody else
touches. -/
theorem Uploading.of_rely {uploadId : Nat} {loop : UploadLoop} {b b' : Bucket}
    (h : Uploading target uploadId loop b) (hrely : WriterRely target kept alone b b') :
    Uploading target uploadId loop b' := by
  obtain ⟨⟨parts, hparts, hrest⟩, hbuffered⟩ := h
  exact ⟨⟨parts, by rw [hrely.uploads]; exact hparts, hrest⟩, hbuffered⟩

/-- Looking up consecutive numbers one after another. -/
theorem mapM_lookup_range' {parts : Parts} {sent : List Bytes} {first : Nat}
    (h : ∀ i (h : i < sent.length), parts.lookup (first + i) = some sent[i]) :
    (List.range' first sent.length).mapM (fun n => parts.lookup n) = some sent := by
  induction sent generalizing first with
  | nil => rfl
  | cons data sent ih =>
      have hfirst : parts.lookup first = some data := h 0 (by simp)
      have hrest : (List.range' (first + 1) sent.length).mapM (fun n => parts.lookup n) =
          some sent := by
        apply ih
        intro i hi
        have hnext := h (i + 1) (by simpa using hi)
        rw [show first + (i + 1) = first + 1 + i by omega] at hnext
        exact hnext
      rw [List.length_cons, List.range'_succ, List.mapM_cons, hfirst, hrest]
      rfl

/-- The parts in number order assemble to the bytes that were sent. -/
theorem assemble_sent {parts : Parts} {sent : List Bytes}
    (h : ∀ i (h : i < sent.length), parts.lookup (1 + i) = some sent[i]) :
    assemble (List.range' 1 sent.length) parts = some sent.flatten := by
  rw [assemble, if_pos List.pairwise_lt_range', mapM_lookup_range' h, Option.map_some]

/-- Adding a part replaces the one with its number and keeps the others. -/
theorem lookup_putPart (number : Nat) (data : Bytes) (parts : Parts) (other : Nat) :
    (putPart number data parts).lookup other =
      if other = number then some data else parts.lookup other := by
  have hfilter : (parts.filter (fun part => decide (part.1 ≠ number))).lookup other =
      if other = number then none else parts.lookup other := by
    induction parts with
    | nil => simp
    | cons part parts ih =>
        obtain ⟨n, bytes⟩ := part
        by_cases hn : n = number
        · rw [List.filter_cons_of_neg (by simp [hn]), ih, List.lookup_cons]
          by_cases ho : other = number
          · rw [if_pos ho, if_pos ho]
          · have hne : (other == n) = false := by simp [hn, ho]
            rw [if_neg ho, if_neg ho, hne]
        · rw [List.filter_cons_of_pos (by simp [hn]), List.lookup_cons, List.lookup_cons, ih]
          by_cases ho : other = number
          · have hne : (other == n) = false := by simp [ho, Ne.symm hn]
            rw [if_pos ho, if_pos ho, hne]
          · rw [if_neg ho, if_neg ho]
  rw [putPart, List.lookup_append, hfilter, List.lookup_cons, List.lookup_nil]
  by_cases ho : other = number
  · simp [ho]
  · have hne : (other == number) = false := by simp [ho]
    simp [ho, hne]

/-! ## The upload loop -/

variable {uploadId : Nat} {loop : UploadLoop} {b : Bucket}

/-- Uploading one part moves it from the buffer to the uploaded parts. -/
theorem keeps_uploadOnePart (h : Uploading target uploadId loop b) {partSize : Nat}
    (hsize : partSize ≤ loop.bufferedBytes) :
    ClientKeeps (WriterRely target kept alone) (WriterGuar target)
      (fun loop' t => Uploading target uploadId loop' t ∧ loop'.hashed = loop.hashed ∧
        loop'.bufferedBytes = loop.bufferedBytes - partSize)
      (fun _ => True) (uploadOnePart target.staging uploadId partSize loop) b := by
  rw [h.buffered] at hsize
  obtain ⟨part, rest, htake, hlen, hflat⟩ := takePart_eq_some hsize
  unfold uploadOnePart
  rw [htake]
  refine ClientKeeps.bind (ClientKeeps.await (fun t _ => ⟨.refl t, trivial⟩) ?_)
  intro t ht t' result hrun
  obtain ⟨⟨parts, hparts, sent, hcompleted, hnumber, hsent, hbytes⟩, hbuffered⟩ := h.of_rely ht
  simp only [Bucket.effect, hparts] at hrun
  obtain ⟨rfl, rfl⟩ := Prod.mk.inj (Except.ok.inj hrun)
  have hguar : WriterGuar target t
      (t.setUpload target.staging uploadId (some (putPart loop.partNumber part parts))) := by
    refine .of_staging ?_ fun _ _ => rfl
    intro key u hkey
    simp [hkey]
  refine ⟨hguar, .pure ⟨⟨⟨putPart loop.partNumber part parts, by simp, sent ++ [part],
    ?_, ?_, ?_, ?_⟩, ?_⟩, rfl, rfl⟩, trivial⟩
  · simp [hcompleted, hnumber, List.range'_concat]
  · simp [hnumber, Nat.add_assoc]
  · intro i hi
    rw [lookup_putPart, hnumber]
    rw [List.length_append, List.length_singleton] at hi
    by_cases hlast : i = sent.length
    · simp [hlast]
    · have hi' : i < sent.length := by omega
      rw [if_neg (by omega), hsent i hi', List.getElem_append_left hi']
  · rw [List.flatten_append, List.append_assoc, ← hbytes, ← hflat]
    simp
  · have hsum := congrArg List.length hflat
    rw [List.length_append, hlen] at hsum
    show loop.bufferedBytes - partSize = rest.flatten.length
    omega

/-- Uploading full parts keeps the invariant. -/
theorem keeps_uploadFullParts (fuel : Nat) (h : Uploading target uploadId loop b) :
    ClientKeeps (WriterRely target kept alone) (WriterGuar target)
      (fun loop' t => Uploading target uploadId loop' t ∧ loop'.hashed = loop.hashed)
      (fun _ => True) (uploadFullParts target.staging uploadId fuel loop) b := by
  induction fuel generalizing loop b with
  | zero => exact .pure ⟨h, rfl⟩
  | succ fuel ih =>
      unfold uploadFullParts
      split
      · next hfull =>
        refine ClientKeeps.bind ((keeps_uploadOnePart h hfull).weaken ?_ fun _ _ => trivial)
        intro loop' t hloop'
        obtain ⟨h', hhashed, _⟩ := hloop'
        refine (ih h').weaken ?_ fun _ _ => trivial
        intro loop'' t' hloop''
        exact ⟨hloop''.1, hloop''.2.trans hhashed⟩
      · exact .pure ⟨h, rfl⟩

/-- Taking a chunk into the buffer keeps the invariant. -/
theorem Uploading.receive (h : Uploading target uploadId loop b) (chunk : Bytes) :
    Uploading target uploadId (loop.receive chunk) b := by
  obtain ⟨⟨parts, hparts, sent, hcompleted, hnumber, hsent, hbytes⟩, hbuffered⟩ := h
  refine ⟨⟨parts, hparts, sent, hcompleted, hnumber, hsent, ?_⟩, ?_⟩
  · simp [UploadLoop.receive, ← hbytes]
  · simp [UploadLoop.receive, hbuffered]

/-- Consuming the stream hashes its payload. -/
theorem keeps_receiveChunks (data : List (Except String Bytes))
    (h : Uploading target uploadId loop b) :
    ClientKeeps (WriterRely target kept alone) (WriterGuar target)
      (fun loop' t => Uploading target uploadId loop' t ∧
        loop'.hashed = loop.hashed ++ payload data)
      (fun _ => True) (receiveChunks target.staging uploadId data loop) b := by
  induction data generalizing loop b with
  | nil => exact .pure ⟨h, by simp [payload]⟩
  | cons item data ih =>
      cases item with
      | error message => exact .throw trivial
      | ok chunk =>
          unfold receiveChunks
          refine ClientKeeps.bind
            ((keeps_uploadFullParts _ (h.receive chunk)).weaken ?_ fun _ _ => trivial)
          intro loop' t hloop'
          obtain ⟨h', hhashed⟩ := hloop'
          refine (ih h').weaken ?_ fun _ _ => trivial
          intro loop'' t' hloop''
          refine ⟨hloop''.1, ?_⟩
          rw [hloop''.2, hhashed, payload, ← List.append_assoc]
          rfl

/-- After the last part the buffer is empty. -/
theorem keeps_uploadLastPart (h : Uploading target uploadId loop b) :
    ClientKeeps (WriterRely target kept alone) (WriterGuar target)
      (fun loop' t => Uploading target uploadId loop' t ∧ loop'.hashed = loop.hashed ∧
        loop'.bufferedBytes = 0)
      (fun _ => True) (uploadLastPart target.staging uploadId loop) b := by
  unfold uploadLastPart
  split
  · refine (keeps_uploadOnePart h (Nat.le_refl _)).weaken ?_ fun _ _ => trivial
    intro loop' t hloop'
    exact ⟨hloop'.1, hloop'.2.1, by rw [hloop'.2.2, Nat.sub_self]⟩
  · next hempty => exact .pure ⟨h, rfl, by omega⟩

/-- The staged object has the bytes of the stream, or has been deleted. -/
def Staged (target : ShardTarget) (b : Bucket) : Prop :=
  b.get? target.staging = some (.bytes target.bytes) ∨ b.get? target.staging = none

theorem Staged.of_rely {b b' : Bucket} (h : Staged target b)
    (hrely : WriterRely target kept alone b b') : Staged target b' := by
  rcases hrely.staging with hsame | hgone
  · rw [Staged, hsame]
    exact h
  · exact Or.inr hgone

/-- The multipart upload of a stream stages its payload. -/
theorem keeps_uploadStream {data : List (Except String Bytes)}
    (hbytes : target.bytes = payload data)
    (hopen : b.uploads target.staging uploadId = some []) :
    ClientKeeps (WriterRely target kept alone) (WriterGuar target)
      (fun hashed t => hashed = target.bytes ∧ Staged target t)
      (fun _ => True) (uploadStream target.staging uploadId data) b := by
  have hstart : Uploading target uploadId {} b :=
    ⟨⟨[], hopen, [], rfl, rfl, fun i hi => absurd hi (Nat.not_lt_zero i), rfl⟩, rfl⟩
  unfold uploadStream
  refine ClientKeeps.bind ((keeps_receiveChunks data hstart).weaken ?_ fun _ _ => trivial)
  intro received t hreceived
  obtain ⟨h1, hhashed1⟩ := hreceived
  refine ClientKeeps.bind ((keeps_uploadLastPart h1).weaken ?_ fun _ _ => trivial)
  intro loop t2 hloop
  obtain ⟨h2, hhashed2, hempty⟩ := hloop
  have hhashed : loop.hashed = target.bytes := by
    rw [hhashed2, hhashed1, hbytes]
    rfl
  split
  · exact .throw trivial
  · refine ClientKeeps.bind (ClientKeeps.await (fun t _ => ⟨.refl t, trivial⟩) ?_)
    intro t3 ht t' result hrun
    obtain ⟨⟨parts, hparts, sent, hcompleted, _, hsent, hsum⟩, hbuffered⟩ := h2.of_rely ht
    have hassemble : assemble loop.completedParts parts = some target.bytes := by
      rw [hempty] at hbuffered
      have hnil : loop.bufferedChunks.flatten = [] := List.length_eq_zero_iff.mp hbuffered.symm
      rw [hcompleted, assemble_sent hsent, ← hhashed, ← hsum, hnil, List.append_nil]
    simp only [Bucket.effect, hparts, Option.bind_some, hassemble] at hrun
    obtain ⟨rfl, -⟩ := Prod.mk.inj (Except.ok.inj hrun)
    refine ⟨.of_staging ?_ ?_, .pure ⟨hhashed, Or.inl (by simp)⟩, trivial⟩
    · intro key u hkey
      simp [hkey]
    · intro key hkey
      simp [hkey]

/-! ## Promotion -/

/-- The object under the final key has the bytes of the stream. -/
def Promoted (target : ShardTarget) (kept : Prop) (b : Bucket) : Prop :=
  kept → b.get? target.final = some (.bytes target.bytes)

theorem Promoted.of_rely {b b' : Bucket} (h : Promoted target kept b)
    (hrely : WriterRely target kept alone b b') : Promoted target kept b' := by
  intro hkept
  cases hfinal : b'.get? target.final with
  | none => exact absurd hfinal (hrely.present hkept (by rw [h hkept]; simp))
  | some body => rw [hrely.content hkept body hfinal]

/-- A staged object is copied to its final key, unless an object is there
already; then the staged one goes, and the sidecar is written. -/
theorem keeps_promoteShard {sha256 : Bytes → String}
    {runId checkpointId shardId uuid : String} {huuid : isUuid uuid = true} {bytes : Bytes}
    (h : Staged (shardTarget sha256 runId checkpointId shardId uuid huuid bytes) b) :
    let target := shardTarget sha256 runId checkpointId shardId uuid huuid bytes
    ClientKeeps (WriterRely target kept alone) (WriterGuar target)
      (fun result t =>
        result = { shardId := shardId, totalBytes := bytes.length,
                   sha256Checksum := sha256 bytes, storageKey := target.final } ∧
        Written target kept alone t)
      (fun _ => True)
      (promoteShard runId checkpointId shardId uuid (sha256 bytes) bytes.length) b := by
  intro target
  let result : WriteResult :=
    { shardId := shardId, totalBytes := bytes.length, sha256Checksum := sha256 bytes,
      storageKey := target.final }
  -- the staged object goes and the sidecar is written, once the final object is in place
  have hrest : ∀ t, Promoted target kept t →
      ClientKeeps (WriterRely target kept alone) (WriterGuar target)
        (fun value t => value = result ∧ Written target kept alone t) (fun _ => True)
        (do
          S3Client.deleteObject target.staging
          S3Client.putObject target.sidecar (.text target.checksum)
          return result) t := by
    intro t hpromoted
    refine ClientKeeps.bind (ClientKeeps.await (fun t _ => ⟨.refl t, trivial⟩) ?_)
    intro t1 ht1 t2 _ hrun
    obtain ⟨rfl, -⟩ := Prod.mk.inj (Except.ok.inj hrun)
    have hpromoted1 := hpromoted.of_rely ht1
    have hpromoted2 : Promoted target kept (t1.remove target.staging) := by
      intro hkept
      rw [Bucket.get?_remove, if_neg target.staging_ne_final]
      exact hpromoted1 hkept
    refine ⟨.of_staging (fun _ _ _ => rfl) fun key hkey => by simp [hkey], ?_, trivial⟩
    refine ClientKeeps.bind (ClientKeeps.await (fun t _ => ⟨.refl t, trivial⟩) ?_)
    intro t3 ht3 t4 _ hrun
    obtain ⟨rfl, -⟩ := Prod.mk.inj (Except.ok.inj hrun)
    have hpromoted3 := hpromoted2.of_rely ht3
    refine ⟨⟨fun _ _ _ => rfl, Or.inl ?_, Or.inr (by simp), ?_⟩,
      .pure ⟨rfl, ⟨?_, by simp⟩⟩, trivial⟩
    · simp [target.final_ne_sidecar]
    · intro key _ _ hkey
      simp [hkey]
    · intro hkept
      rw [Bucket.get?_store, if_neg target.final_ne_sidecar]
      exact hpromoted3 hkept
  refine ClientKeeps.bind (ClientKeeps.objectExists ?_ ?_)
  · intro t ht
    have hstaged := h.of_rely ht
    refine ⟨.refl t, ClientKeeps.bind (ClientKeeps.await (fun t _ => ⟨.refl t, trivial⟩) ?_)⟩
    intro t1 ht1 t2 _ hrun
    rcases hstaged.of_rely ht1 with hbytes | hgone
    · have hbytes' : t1.get? (stagingKey runId checkpointId shardId uuid) =
        some (.bytes target.bytes) := hbytes
      simp only [Bucket.effect, hbytes'] at hrun
      obtain ⟨rfl, -⟩ := Prod.mk.inj (Except.ok.inj hrun)
      refine ⟨⟨fun _ _ _ => rfl, Or.inr ?_, Or.inl ?_, ?_⟩, hrest _ ?_, trivial⟩
      · rw [Bucket.get?_store]
        exact if_pos rfl
      · rw [Bucket.get?_store]
        exact if_neg (Ne.symm target.final_ne_sidecar)
      · intro key _ hkey _
        rw [Bucket.get?_store]
        exact if_neg hkey
      · intro _
        rw [Bucket.get?_store]
        exact if_pos rfl
    · have hgone' : t1.get? (stagingKey runId checkpointId shardId uuid) = none := hgone
      simp only [Bucket.effect, hgone'] at hrun
      cases hrun
  · intro t ht hpresent
    apply hrest t
    intro hkept
    obtain ⟨body, hbody⟩ := Option.ne_none_iff_exists'.mp hpresent
    have hbody' : t.get? target.final = some body := hbody
    rw [hbody', ht.content hkept body hbody']

end

/-! ## The whole write -/

/-- **The contract of a shard write.**  Under `WriterRely`, each of its calls
keeps to `WriterGuar`, and a returned result names the payload of the stream
and finds it written. -/
theorem keeps_writeShardStream (sha256 : Bytes → String)
    (runId checkpointId shardId uuid : String) (huuid : isUuid uuid = true)
    (data : List (Except String Bytes)) (kept alone : Prop) (b : Bucket) :
    let target := shardTarget sha256 runId checkpointId shardId uuid huuid (payload data)
    ClientKeeps (WriterRely target kept alone) (WriterGuar target)
      (fun result t =>
        result = { shardId := shardId, totalBytes := (payload data).length,
                   sha256Checksum := sha256 (payload data), storageKey := target.final } ∧
        Written target kept alone t)
      (fun _ => True) (writeShardStream sha256 runId checkpointId shardId uuid data) b := by
  intro target
  unfold writeShardStream
  refine ClientKeeps.bind (ClientKeeps.await (fun t _ => ⟨.refl t, trivial⟩) ?_)
  intro t _ t' uploadId hrun
  simp only [Bucket.effect] at hrun
  obtain ⟨rfl, rfl⟩ := Prod.mk.inj (Except.ok.inj hrun)
  have hopen : WriterGuar target t
      { t.setUpload target.staging t.nextUpload (some []) with
        nextUpload := t.nextUpload + 1 } := by
    refine .of_staging ?_ fun _ _ => rfl
    intro key u hkey
    show (t.setUpload target.staging t.nextUpload (some [])).uploads key u = _
    simp [hkey]
  refine ⟨hopen, ClientKeeps.bind (ClientKeeps.cleaningUp ?_), trivial⟩
  have hpart : ({ t.setUpload target.staging t.nextUpload (some []) with
      nextUpload := t.nextUpload + 1 } : Bucket).uploads target.staging t.nextUpload = some [] := by
    show (t.setUpload target.staging t.nextUpload (some [])).uploads _ _ = _
    simp
  have hbytes : target.bytes = payload data := rfl
  have hstream := @keeps_uploadStream target kept alone _ _ data hbytes hpart
  refine hstream.weaken ?_ ?_
  · intro hashed t1 hhashed
    obtain ⟨rfl, hstaged⟩ := hhashed
    exact keeps_promoteShard hstaged
  · -- the cleanup at most closes the upload
    intro t1 _
    refine ClientKeeps.ignoring (ClientKeeps.await (fun t _ => ⟨.refl t, trivial⟩) ?_)
    intro t2 _ t3 _ hrun
    refine ⟨?_, trivial, trivial⟩
    simp only [Bucket.effect] at hrun
    split at hrun
    · obtain ⟨rfl, -⟩ := Prod.mk.inj (Except.ok.inj hrun)
      refine .of_staging ?_ fun _ _ => rfl
      intro key u hkey
      have hkey' : key ≠ stagingKey runId checkpointId shardId uuid := hkey
      simp [hkey']
    · cases hrun

end CheckpointRuntime
