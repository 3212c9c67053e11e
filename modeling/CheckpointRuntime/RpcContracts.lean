import CheckpointRuntime.SystemPools
import CheckpointRuntime.UploadPath
import CheckpointRuntime.ServiceContracts

/-!
# RPCs in flight keep their contracts

Every `WriteShard`, `CommitCheckpoint` and `AbortCheckpoint` starts under the
contract that was proved for it alone.  What one of them guarantees is what the
others rely on, so in every reachable state all of them are still under
contract (`contracted_step`), and a step changes the bucket only as the
contract of one RPC allows (`step_bucket`).
-/

namespace CheckpointRuntime

open Coordinator ControlPlane CallProgram PartialRun Pools

/-! ## Three contracts -/

/-- The keys of a `WriteShard`, and what it stores. -/
def WriteRpc.target (sha256 : Bytes → String) (write : WriteRpc) : ShardTarget :=
  shardTarget sha256 write.call.runId write.call.checkpointId write.call.shardId write.uuid
    write.uuid_valid write.call.body

/-- What a `WriteShard` in flight still promises.  With `kept`, its object is
there once it has succeeded, as long as nobody else deletes it. -/
def WriteRpc.Contract (sha256 : Bytes → String) (kept : Prop) (write : WriteRpc) (b : Bucket) :
    Prop :=
  Keeps bucketService (WriterRely (write.target sha256) kept False)
    (WriterGuar (write.target sha256))
    (fun reply t => ∀ response, reply = .ok response →
      response = { shardId := write.call.shardId, totalBytes := write.call.body.length,
                   sha256Checksum := sha256 write.call.body, success := true } ∧
      Written (write.target sha256) kept False t)
    write.program b

/-- What a `CommitCheckpoint` in flight still promises. -/
def CommitRpc.Contract (commit : CommitRpc) (b : Bucket) : Prop :=
  Keeps bucketService (CommitRely (commit.request.manifest commit.startedAt))
    (CommitGuar (commit.request.manifest commit.startedAt))
    (fun response t => response.success = true →
      t.get? (manifestKey commit.request.runId commit.request.checkpointId) ≠ none)
    commit.program b

/-- What an `AbortCheckpoint` in flight still promises. -/
def AbortRpc.Contract (abort : AbortRpc) (b : Bucket) : Prop :=
  Keeps bucketService AbortRely (AbortGuar abort.request) (fun _ _ => True) abort.program b

theorem WriteRpc.contract_start (sha256 : Bytes → String) (kept : Prop) (call : UploadCall)
    (uuid : String) (huuid : isUuid uuid = true) (depth maxDepth : Nat) (b : Bucket) :
    Contract sha256 kept
      { call := call, uuid := uuid, uuid_valid := huuid,
        program := writeShard sha256 depth maxDepth uuid (call.chunks.map .ok) } b := by
  have hkeeps := keeps_writeShard sha256 depth maxDepth call uuid huuid (fromCall_chunks call)
    kept False b
  rw [uploadTarget, streamPayload_chunks] at hkeeps
  exact hkeeps

/-! ## What one RPC does is what the others expect -/

section
variable {sha256 : Bytes → String} {kept : Prop} {b b' : Bucket}

theorem WriteRpc.Contract.of_rely {write : WriteRpc} (h : write.Contract sha256 kept b)
    (hrely : WriterRely (write.target sha256) kept False b b') :
    write.Contract sha256 kept b' := by
  refine Keeps.of_rely ?_ ?_ h hrely
  · intro t1 t2 t3 h12 h23
    refine ⟨fun u => (h23.uploads u).trans (h12.uploads u), ?_, h23.content, ?_, False.elim⟩
    · rcases h23.staging with hsame | hgone
      · rw [hsame]
        exact h12.staging
      · exact Or.inr hgone
    · exact fun hkept hpresent => h23.present hkept (h12.present hkept hpresent)
  · intro reply t1 t2 h12 hpost response hresponse
    obtain ⟨hresult, hwritten⟩ := hpost response hresponse
    refine ⟨hresult, ?_, False.elim⟩
    intro hkept
    have hthere : t1.get? (write.target sha256).final ≠ none := by
      rw [hwritten.final hkept]
      simp
    obtain ⟨body, hbody⟩ := Option.ne_none_iff_exists'.mp (h12.present hkept hthere)
    rw [hbody, h12.content hkept body hbody]

theorem CommitRpc.Contract.of_present {commit : CommitRpc} (h : commit.Contract b)
    (hpresent : b.get? (manifestKey commit.request.runId commit.request.checkpointId) ≠ none →
      b'.get? (manifestKey commit.request.runId commit.request.checkpointId) ≠ none) :
    commit.Contract b' := by
  refine Keeps.of_rely ?_ ?_ h hpresent
  · exact fun _ _ _ h12 h23 hthere => h23 (h12 hthere)
  · exact fun _ _ _ h12 hpost hsuccess => h12 (hpost hsuccess)

theorem AbortRpc.Contract.of_any {abort : AbortRpc} (h : abort.Contract b) : abort.Contract b' :=
  Keeps.of_rely (fun _ _ _ _ _ => trivial) (fun _ _ _ _ _ => trivial) h trivial

/-- A shard write deletes its staged object only. -/
theorem WriterGuar.present {target : ShardTarget} (h : WriterGuar target b b') {key : String}
    (hkey : key ≠ target.staging) (hthere : b.get? key ≠ none) : b'.get? key ≠ none := by
  by_cases hfinal : key = target.final
  · rw [hfinal] at hthere ⊢
    rcases h.final with hsame | hbytes
    · rwa [hsame]
    · simp [hbytes]
  · by_cases hsidecar : key = target.sidecar
    · rw [hsidecar] at hthere ⊢
      rcases h.sidecar with hsame | htext
      · rwa [hsame]
      · simp [htext]
    · rwa [h.others key hkey hfinal hsidecar]

/-- A shard write touches no manifest. -/
theorem WriterGuar.get?_manifestKey {write : WriteRpc}
    (h : WriterGuar (write.target sha256) b b') (runId checkpointId : String) :
    b'.get? (manifestKey runId checkpointId) = b.get? (manifestKey runId checkpointId) := by
  apply h.others
  · exact manifestKey_ne_stagingKey write.uuid_valid
  · exact Ne.symm contentAddressedKey_ne_manifestKey
  · exact Ne.symm sidecarKey_ne_manifestKey

/-- A commit deletes nothing. -/
theorem CommitGuar.present {manifest : Manifest} (h : CommitGuar manifest b b') {key : String}
    (hthere : b.get? key ≠ none) : b'.get? key ≠ none := by
  by_cases hkey : key = manifestKey manifest.runId manifest.checkpointId
  · rw [hkey] at hthere ⊢
    rcases h.written with hsame | hmanifest
    · rwa [hsame]
    · simp [hmanifest]
  · rwa [h.others key hkey]

/-- The keys of manifests are manifest keys to an abort, whatever the ids. -/
theorem isManifestKey_manifestKey (runId checkpointId : String) :
    isManifestKey (manifestKey runId checkpointId) = true := by
  rw [isManifestKey, List.isSuffixOf_iff_suffix]
  exact manifestKey_suffix runId checkpointId

/-- An abort touches no manifest. -/
theorem AbortGuar.get?_manifestKey {request : AbortRequest} (h : AbortGuar request b b')
    (runId checkpointId : String) :
    b'.get? (manifestKey runId checkpointId) = b.get? (manifestKey runId checkpointId) := by
  rcases h.objects (manifestKey runId checkpointId) with hsame | ⟨_, hno, _⟩
  · exact hsame
  · rw [isManifestKey_manifestKey] at hno
    cases hno

/-- Two shard writes with different UUIDs do not disturb each other. -/
theorem writerRely_of_writerGuar {write other : WriteRpc} (huuid : write.uuid ≠ other.uuid)
    (h : WriterGuar (write.target sha256) b b') :
    WriterRely (other.target sha256) False False b b' where
  uploads := by
    intro uploadId
    apply h.uploads
    exact stagingKey_ne other.uuid_valid write.uuid_valid (Ne.symm huuid)
  staging := by
    refine Or.inl (h.others _ ?_ ?_ ?_)
    · exact stagingKey_ne other.uuid_valid write.uuid_valid (Ne.symm huuid)
    · exact Ne.symm (contentAddressedKey_ne_stagingKey other.uuid_valid)
    · exact Ne.symm (sidecarKey_ne_stagingKey other.uuid_valid)
  content := False.elim
  present := False.elim
  sidecar := False.elim

/-- A commit does not disturb a shard write. -/
theorem writerRely_of_commitGuar {manifest : Manifest} {other : WriteRpc}
    (h : CommitGuar manifest b b') :
    WriterRely (other.target sha256) False False b b' where
  uploads := fun uploadId => by rw [h.uploads]
  staging := Or.inl (h.others _ (Ne.symm (manifestKey_ne_stagingKey other.uuid_valid)))
  content := False.elim
  present := False.elim
  sidecar := False.elim

/-- An abort does not disturb a shard write, as long as nothing is kept. -/
theorem writerRely_of_abortGuar {request : AbortRequest} {other : WriteRpc}
    (h : AbortGuar request b b') :
    WriterRely (other.target sha256) False False b b' where
  uploads := fun uploadId => by rw [h.uploads]
  staging := by
    rcases h.objects (other.target sha256).staging with hsame | ⟨hgone, _⟩
    · exact Or.inl hsame
    · exact Or.inr hgone
  content := False.elim
  present := False.elim
  sidecar := False.elim

end

namespace System

/-! ## All RPCs together -/

/-- All RPCs are under contract, and shard writes have UUIDs of their own. -/
structure Contracted (sha256 : Bytes → String) (s : System) : Prop where
  uuids : ∀ (i j : Nat) (write other : WriteRpc), s.writes[i]? = some write →
    s.writes[j]? = some other → write.uuid = other.uuid → i = j
  writes : ∀ (i : Nat) (write : WriteRpc), s.writes[i]? = some write →
    write.Contract sha256 False s.bucket
  commits : ∀ commit ∈ s.commits, commit.Contract s.bucket
  aborts : ∀ abort ∈ s.aborts, abort.Contract s.bucket

theorem contracted_init (sha256 : Bytes → String) (store : KVStore)
    (autoRecover hasSupervisor : Bool) :
    (init store autoRecover hasSupervisor).Contracted sha256 where
  uuids := by
    intro i j write other h
    simp [init] at h
  writes := by
    intro i write h
    simp [init] at h
  commits := fun _ h => by cases h
  aborts := fun _ h => by cases h

/-- What all RPCs together rely on: shard writes are under contract and have UUIDs
of their own, and commits and aborts change only what is theirs. -/
structure Bounded (sha256 : Bytes → String) (s : System) : Prop where
  uuids : ∀ (i j : Nat) (write other : WriteRpc), s.writes[i]? = some write →
    s.writes[j]? = some other → write.uuid = other.uuid → i = j
  writes : ∀ (i : Nat) (write : WriteRpc), s.writes[i]? = some write →
    write.Contract sha256 False s.bucket
  commits : ∀ commit ∈ s.commits, ∀ fault program b,
    commit.program.step bucketService fault s.bucket = some (program, b) →
    CommitGuar (commit.request.manifest commit.startedAt) s.bucket b
  aborts : ∀ abort ∈ s.aborts, ∀ fault program b,
    abort.program.step bucketService fault s.bucket = some (program, b) →
    AbortGuar abort.request s.bucket b

theorem Contracted.bounded {sha256 : Bytes → String} {s : System} (hs : s.Contracted sha256) :
    s.Bounded sha256 where
  uuids := hs.uuids
  writes := hs.writes
  commits commit hmem _ _ _ hcall := (Keeps.step (hs.commits commit hmem) (fun h => h) hcall).1
  aborts abort hmem _ _ _ hcall := (Keeps.step (hs.aborts abort hmem) trivial hcall).1

/-- What a step does to the bucket. -/
inductive BucketMove (sha256 : Bytes → String) (s : System) (event : Event × Nat) (b : Bucket) :
    Prop
  | same (h : b = s.bucket)
  | write (rpc : Nat) (write : WriteRpc) (hwrite : s.writes[rpc]? = some write)
      (h : WriterGuar (write.target sha256) s.bucket b)
  | commit (commit : CommitRpc) (hcommit : commit ∈ s.commits)
      (hopen : commit.program.value? = none)
      (h : CommitGuar (commit.request.manifest commit.startedAt) s.bucket b)
  | abort (rpc : Nat) (fault : Fault) (abort : AbortRpc)
      (program : S3Program (Except Status AbortResponse))
      (hevent : event.1 = .abortCall rpc fault) (habort : s.aborts[rpc]? = some abort)
      (hcall : abort.program.step bucketService fault s.bucket = some (program, b))
      (h : AbortGuar abort.request s.bucket b)

section
variable {sha256 : Bytes → String} {s s' : System} {event : Event × Nat}

/-- With nothing kept, a shard write relies on nothing that it does itself. -/
theorem writerRely_self {target : ShardTarget} {kept : Prop} {b : Bucket}
    (hcontent : kept → ∀ body, b.get? target.final = some body → body = .bytes target.bytes) :
    WriterRely target kept False b b :=
  ⟨fun _ => rfl, Or.inl rfl, hcontent, fun _ h => h, False.elim⟩

theorem Bounded.step_bucket (hs : s.Bounded sha256) (h : s.step sha256 event = some s') :
    BucketMove sha256 s event s'.bucket := by
  cases step_pools h with
  | writeCall rpc fault write program bucket hwrite hcall hs' =>
      subst hs'
      have hstep := Keeps.step (hs.writes rpc write hwrite) (writerRely_self False.elim) hcall
      exact .write rpc write hwrite hstep.1
  | commitCall rpc fault commit program bucket hcommit hcall hs' =>
      subst hs'
      have hmem := List.mem_of_getElem? hcommit
      have hopen : commit.program.value? = none := Program.value?_of_step hcall
      exact .commit commit hmem hopen (hs.commits commit hmem _ _ _ hcall)
  | abortCall rpc fault abort program bucket hevent habort hcall hs' =>
      subst hs'
      exact .abort rpc fault abort program hevent habort hcall
        (hs.aborts abort (List.mem_of_getElem? habort) _ _ _ hcall)
  | beginWrite _ _ _ _ _ _ _ _ _ _ hs' => exact .same (by rw [hs'])
  | beginCommit _ _ _ _ _ hs' => exact .same (by rw [hs'])
  | handler _ _ _ _ _ hs' => exact .same (by rw [hs'])

/-- What a step does to a shard write: it makes its call, or the others leave it
undisturbed, or it has just started. -/
inductive WriteMove (sha256 : Bytes → String) (s : System) (b : Bucket) (i : Nat) :
    WriteRpc → Prop
  | called (write : WriteRpc) (fault : Fault)
      (program : S3Program (Except Status WriteShardResponse))
      (hwrite : s.writes[i]? = some write)
      (hcall : write.program.step bucketService fault s.bucket = some (program, b)) :
      WriteMove sha256 s b i { write with program := program }
  | undisturbed (write : WriteRpc) (hwrite : s.writes[i]? = some write)
      (h : WriterRely (write.target sha256) False False s.bucket b) :
      WriteMove sha256 s b i write
  | started (call : UploadCall) (uuid : String) (huuid : isUuid uuid = true)
      (depth maxDepth : Nat) (hi : i = s.writes.length) :
      WriteMove sha256 s b i
        { call := call, uuid := uuid, uuid_valid := huuid,
          program := writeShard sha256 depth maxDepth uuid (call.chunks.map .ok) }

theorem Bounded.write_move (hs : s.Bounded sha256) (h : s.step sha256 event = some s') {i : Nat}
    {write : WriteRpc} (hwrite : s'.writes[i]? = some write) :
    WriteMove sha256 s s'.bucket i write := by
  cases step_pools h with
  | writeCall rpc fault moving program bucket hmoving hcall hs' =>
      subst hs'
      rcases getElem?_set_cases hwrite with ⟨rfl, rfl⟩ | ⟨hne, hold⟩
      · exact .called moving fault program hmoving hcall
      · have hguar := (Keeps.step (hs.writes rpc moving hmoving)
          (writerRely_self False.elim) hcall).1
        refine .undisturbed write hold (writerRely_of_writerGuar ?_ hguar)
        intro huuid
        exact hne (hs.uuids rpc i moving write hmoving hold huuid).symm
  | commitCall rpc fault commit program bucket hcommit hcall hs' =>
      subst hs'
      have hguar := hs.commits commit (List.mem_of_getElem? hcommit) _ _ _ hcall
      exact .undisturbed write hwrite (writerRely_of_commitGuar hguar)
  | abortCall rpc fault abort program bucket hevent habort hcall hs' =>
      subst hs'
      have hguar := hs.aborts abort (List.mem_of_getElem? habort) _ _ _ hcall
      exact .undisturbed write hwrite (writerRely_of_abortGuar hguar)
  | beginWrite task call header uuid huuid depth maxDepth hevent htask hfresh hs' =>
      subst hs'
      rcases getElem?_concat_cases hwrite with hold | ⟨hi, rfl⟩
      · exact .undisturbed write hold (writerRely_self False.elim)
      · exact .started call uuid huuid depth maxDepth hi
  | beginCommit _ _ _ _ _ hs' | handler _ _ _ _ _ hs' =>
      subst hs'
      exact .undisturbed write hwrite (writerRely_self False.elim)

/-- Shard writes stay under a contract that is undisturbed: if objects are
kept, then they hold the right bytes before and after the step, and the step
deletes none of them.  A write that starts is under contract in any case. -/
theorem Bounded.contract_step {kept : Prop} {among : Nat → Prop} (hs : s.Bounded sha256)
    (h : s.step sha256 event = some s')
    (hcontract : ∀ i write, among i → s.writes[i]? = some write →
      write.Contract sha256 kept s.bucket)
    (hcontent : kept → ∀ (i : Nat) (write : WriteRpc), s.writes[i]? = some write →
      ∀ body, s.bucket.get? (write.target sha256).final = some body →
        body = .bytes write.call.body)
    (hcontent' : kept → ∀ (i : Nat) (write : WriteRpc), s.writes[i]? = some write →
      ∀ body, s'.bucket.get? (write.target sha256).final = some body →
        body = .bytes write.call.body)
    (hpresent : kept → ∀ i write, among i → s.writes[i]? = some write →
      s.bucket.get? (write.target sha256).final ≠ none →
        s'.bucket.get? (write.target sha256).final ≠ none)
    (i : Nat) (write : WriteRpc) (hi : i < s.writes.length → among i)
    (hwrite : s'.writes[i]? = some write) : write.Contract sha256 kept s'.bucket := by
  have hamong : ∀ {other}, s.writes[i]? = some other → among i :=
    fun hother => hi (List.getElem?_eq_some_iff.mp hother).1
  cases hs.write_move h hwrite with
  | called moving fault program hmoving hcall =>
      exact (Keeps.step (hcontract i moving (hamong hmoving) hmoving)
        (writerRely_self fun hk => hcontent hk i moving hmoving) hcall).2
  | undisturbed _ hold hrely =>
      exact (hcontract i write (hamong hold) hold).of_rely
        ⟨hrely.uploads, hrely.staging, fun hk => hcontent' hk i write hold,
          fun hk => hpresent hk i write (hamong hold) hold, False.elim⟩
  | started call uuid huuid depth maxDepth _ =>
      exact WriteRpc.contract_start sha256 kept call uuid huuid depth maxDepth _

/-- A step deletes no manifest. -/
theorem BucketMove.manifest_present {b : Bucket} (h : BucketMove sha256 s event b)
    {runId checkpointId : String}
    (hthere : s.bucket.get? (manifestKey runId checkpointId) ≠ none) :
    b.get? (manifestKey runId checkpointId) ≠ none := by
  cases h with
  | same hsame => rwa [hsame]
  | write rpc write _ hguar => rwa [hguar.get?_manifestKey]
  | commit commit _ _ hguar => exact hguar.present hthere
  | abort _ _ _ _ _ _ _ hguar => rwa [hguar.get?_manifestKey]

/-- What is under the key of a manifest was there before, or is the manifest of
a commit in progress. -/
theorem BucketMove.manifest_origin {b : Bucket} (h : BucketMove sha256 s event b)
    {runId checkpointId : String} {body : ObjectBody}
    (hbody : b.get? (manifestKey runId checkpointId) = some body) :
    s.bucket.get? (manifestKey runId checkpointId) = some body ∨
    ∃ commit ∈ s.commits, commit.program.value? = none ∧
      manifestKey runId checkpointId =
        manifestKey commit.request.runId commit.request.checkpointId ∧
      body = .manifest (commit.request.manifest commit.startedAt) := by
  cases h with
  | same hsame => exact Or.inl (hsame ▸ hbody)
  | write rpc write _ hguar => exact Or.inl (by rw [← hguar.get?_manifestKey, hbody])
  | abort _ _ _ _ _ _ _ hguar => exact Or.inl (by rw [← hguar.get?_manifestKey, hbody])
  | commit commit hcommit hopen hguar =>
      by_cases hkey : manifestKey runId checkpointId =
          manifestKey commit.request.runId commit.request.checkpointId
      · rw [hkey] at hbody ⊢
        rcases hguar.written with hsame | hnew
        · exact Or.inl (hsame.symm.trans hbody)
        · exact Or.inr ⟨commit, hcommit, hopen, rfl, Option.some.inj (hbody.symm.trans hnew)⟩
      · exact Or.inl (by rw [← hguar.others _ hkey, hbody])

/-- Shard writes go on having UUIDs of their own. -/
theorem Bounded.uuids_step (hs : s.Bounded sha256) (h : s.step sha256 event = some s')
    (i j : Nat) (write other : WriteRpc) (hi : s'.writes[i]? = some write)
    (hj : s'.writes[j]? = some other) (heq : write.uuid = other.uuid) : i = j := by
  cases step_pools h with
  | writeCall rpc fault moving program bucket hmoving hcall hs' =>
      subst hs'
      -- a call changes no UUID
      have hbefore : ∀ {k : Nat} {found : WriteRpc},
          (s.writes.set rpc { moving with program := program })[k]? = some found →
          ∃ old, s.writes[k]? = some old ∧ old.uuid = found.uuid := by
        intro k found hk
        rcases getElem?_set_cases hk with ⟨rfl, rfl⟩ | ⟨_, hold⟩
        · exact ⟨moving, hmoving, rfl⟩
        · exact ⟨found, hold, rfl⟩
      obtain ⟨write', hi', hw⟩ := hbefore hi
      obtain ⟨other', hj', ho⟩ := hbefore hj
      exact hs.uuids i j write' other' hi' hj' (by rw [hw, ho, heq])
  | beginWrite task call header uuid huuid depth maxDepth hevent htask hfresh hs' =>
      subst hs'
      have hnew : ∀ {k : Nat} {old : WriteRpc}, s.writes[k]? = some old → old.uuid ≠ uuid := by
        intro k old hold heq
        exact hfresh (List.mem_map.mpr ⟨old, List.mem_of_getElem? hold, heq⟩)
      rcases getElem?_concat_cases hi with hold | ⟨hi', rfl⟩
      · rcases getElem?_concat_cases hj with hold' | ⟨_, rfl⟩
        · exact hs.uuids i j write other hold hold' heq
        · exact absurd heq (hnew hold)
      · rcases getElem?_concat_cases hj with hold | ⟨hj', rfl⟩
        · exact absurd heq.symm (hnew hold)
        · rw [hi', hj']
  | commitCall _ _ _ _ _ _ _ hs' | abortCall _ _ _ _ _ _ _ _ hs' | beginCommit _ _ _ _ _ hs'
  | handler _ _ _ _ _ hs' =>
      subst hs'
      exact hs.uuids i j write other hi hj heq

/-- Shard writes stay under the contract in which nothing is kept. -/
theorem Bounded.writes_step (hs : s.Bounded sha256) (h : s.step sha256 event = some s')
    (i : Nat) (write : WriteRpc) (hwrite : s'.writes[i]? = some write) :
    write.Contract sha256 False s'.bucket := by
  have hall : ∀ i write, (fun _ : Nat => True) i → s.writes[i]? = some write →
      write.Contract sha256 False s.bucket := fun i write _ => hs.writes i write
  exact hs.contract_step h hall False.elim False.elim False.elim i write (fun _ => trivial) hwrite

/-- Aborts stay under contract whatever the others do. -/
theorem aborts_step (haborts : ∀ abort ∈ s.aborts, abort.Contract s.bucket)
    (h : s.step sha256 event = some s') (abort : AbortRpc) (hmem : abort ∈ s'.aborts) :
    abort.Contract s'.bucket := by
  have hold : ∀ abort ∈ s.aborts, abort.Contract s'.bucket := fun abort hmem =>
    (haborts abort hmem).of_any
  cases step_pools h with
  | abortCall rpc fault moving program bucket hevent hmoving hcall hs' =>
      subst hs'
      rcases List.mem_or_eq_of_mem_set hmem with hbefore | rfl
      · exact hold abort hbefore
      · exact (Keeps.step (haborts moving (List.mem_of_getElem? hmoving)) trivial hcall).2
  | handler server tasks aborts htasks hstarted hs' =>
      subst hs'
      rcases hstarted abort hmem with hbefore | hstart
      · exact hold abort hbefore
      · unfold AbortRpc.Contract
        rw [hstart]
        exact keeps_abortCheckpoint abort.request _
  | writeCall _ _ _ _ _ _ _ hs' | commitCall _ _ _ _ _ _ _ hs'
  | beginWrite _ _ _ _ _ _ _ _ _ _ hs' | beginCommit _ _ _ _ _ hs' =>
      subst hs'
      exact hold abort hmem

/-- **All RPCs stay under contract.** -/
theorem contracted_step (hs : s.Contracted sha256) (h : s.step sha256 event = some s') :
    s'.Contracted sha256 where
  uuids := hs.bounded.uuids_step h
  writes := hs.bounded.writes_step h
  aborts := aborts_step hs.aborts h
  commits := by
    have hold : ∀ commit ∈ s.commits, commit.Contract s'.bucket := fun commit hmem =>
      (hs.commits commit hmem).of_present (hs.bounded.step_bucket h).manifest_present
    intro other hother
    cases commit_origin h hother with
    | before _ hbefore => exact hold other hbefore
    | called commit fault program hbefore hcall =>
        exact (Keeps.step (hs.commits commit hbefore) (fun h => h) hcall).2
    | begun runId call request hbegin hrequest => exact keeps_commitCheckpoint request event.2 _

end

end System

end CheckpointRuntime
