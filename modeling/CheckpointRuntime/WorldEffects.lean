import CheckpointRuntime.CheckpointWorld
import CheckpointRuntime.UploadPath
import CheckpointRuntime.ServiceContracts
import CheckpointRuntime.RunCheckpointCoupling

/-!
# What successful requests leave behind

An upload that is answered with 200 appends one entry to the shards of its
checkpoint and changes the bucket only under its own three keys; a commit that
is answered with 200 has stored the manifest of exactly those entries, unless
a manifest was there before.
-/

namespace CheckpointRuntime

open Coordinator ControlPlane CallProgram

/-- A `WriteShard` of a whole body that runs alone.  If the final key holds
that body or nothing, an accepted write is there afterwards. -/
theorem writeShard_run (sha256 : Bytes → String) (depth maxDepth : Nat) (call : UploadCall)
    (uuid : String) (huuid : isUuid uuid = true) (faults : Nat → Fault) (b : Bucket)
    (kept : Prop)
    (hcontent : kept → ∀ body, b.get? (contentAddressedKey call.runId call.checkpointId
      call.shardId (sha256 call.body)) = some body → body = .bytes call.body) :
    let target := shardTarget sha256 call.runId call.checkpointId call.shardId uuid huuid call.body
    let out := (writeShard sha256 depth maxDepth uuid (call.chunks.map .ok)).run bucketService
      faults b
    WriterGuar target b out.2 ∧ ∀ response, out.1 = .ok response →
      response = { shardId := call.shardId, totalBytes := call.body.length,
                   sha256Checksum := sha256 call.body, success := true } ∧
      Written target kept True out.2 := by
  intro target out
  have hkeeps := keeps_writeShard sha256 depth maxDepth call uuid huuid (fromCall_chunks call)
    kept True b
  rw [uploadTarget, streamPayload_chunks] at hkeeps
  let inv (t : Bucket) : Prop := kept → ∀ body, t.get? target.final = some body →
    body = .bytes target.bytes
  have hself : ∀ t, inv t → WriterRely target kept True t t :=
    fun t ht => ⟨fun _ => rfl, Or.inl rfl, ht, fun _ h => h, fun _ => rfl⟩
  have hinv : ∀ t t', inv t → WriterGuar target t t' → inv t' := by
    intro t t' ht hguar hkept body hbody
    rcases hguar.final with hsame | hbytes
    · rw [hsame] at hbody
      exact ht hkept body hbody
    · rw [hbytes] at hbody
      exact (Option.some.inj hbody).symm
  obtain ⟨hpost, _, hguar⟩ := Keeps.run inv hself hinv (fun t => .refl t)
    (fun _ _ _ h h' => h.trans h') hkeeps hcontent faults
  exact ⟨hguar, hpost⟩

/-! ## Uploads -/

/-- The entry that an acknowledged upload adds to its checkpoint. -/
def uploadedShardInfo (sha256 : Bytes → String) (call : UploadCall) : ShardInfo where
  shardId := call.shardId
  rank := call.rank
  sizeBytes := call.body.length
  sha256 := sha256 call.body
  storageKey :=
    contentAddressedKey call.runId call.checkpointId call.shardId (sha256 call.body)

/-- What an upload that answers 200 leaves behind. -/
structure Uploaded (sha256 : Bytes → String) (w w' : World) (call : UploadCall)
    (conditions : WriteConditions) : Prop where
  body : call.body ≠ []
  shards : w'.cp.checkpointShards = (w.cp.setShards call.checkpointId
    (some (w.cp.shardsOf call.checkpointId ++ [uploadedShardInfo sha256 call]))).checkpointShards
  dpConnected : w'.cp.dpConnected = w.cp.dpConnected
  guar : WriterGuar (shardTarget sha256 call.runId call.checkpointId call.shardId
    conditions.uuid conditions.uuid_valid call.body) w.bucket w'.bucket
  sidecar : w'.bucket.get? (sidecarKey call.runId call.checkpointId call.shardId) =
    some (.text (sha256 call.body))
  object : (∀ body, w.bucket.get? (uploadedShardInfo sha256 call).storageKey = some body →
      body = .bytes call.body) →
    w'.bucket.get? (uploadedShardInfo sha256 call).storageKey = some (.bytes call.body)

namespace World

/-- **A successful upload.** -/
theorem uploadShard_eq_ok {sha256 : Bytes → String} {w w' : World}
    {runId checkpointId shardId : String} {body : Bytes} {header : RankHeader}
    {conditions : WriteConditions} {now : Nat} {result : WriteShardResult}
    (h : w.uploadShard sha256 runId checkpointId shardId body header conditions now =
      (w', .ok result)) :
    Uploaded sha256 w w'
      { runId := runId, checkpointId := checkpointId, shardId := shardId, rank := header.rank,
        body := body } conditions := by
  unfold uploadShard at h
  cases hbegin : w.cp.uploadShardBegin runId checkpointId shardId body header with
  | error e => simp [hbegin] at h
  | ok call =>
      obtain ⟨_, hne, hcall⟩ := uploadShardBegin_eq_ok hbegin
      rw [← hcall]
      simp only [hbegin] at h
      let rpc := (writeShard sha256 conditions.depth conditions.maxDepth conditions.uuid
        (call.chunks.map .ok)).run bucketService conditions.faults w.bucket
      change settle (w.cp.uploadShardFinish call (clientWriteShard rpc.1) now) rpc.2
        conditions.abortFaults = (w', .ok result) at h
      have hwritten := fun kept hcontent => writeShard_run sha256 conditions.depth
        conditions.maxDepth call conditions.uuid conditions.uuid_valid conditions.faults w.bucket
        kept hcontent
      obtain ⟨hguar, hresponse⟩ := hwritten False (fun h => h.elim)
      cases hrpc : rpc.1 with
      | error status =>
          obtain ⟨failureMessage, exception, hout⟩ := uploadShardFinish_rejected w.cp call
            (show uploadAccepted (clientWriteShard (.error status)) = false from rfl) now
          rw [hrpc, hout] at h
          have hanswer := settle_failCheckpoint (α := WriteShardResult) w.cp call.runId
            call.checkpointId failureMessage exception now rpc.2 conditions.abortFaults
          rw [h] at hanswer
          cases hanswer
      | ok response =>
          obtain ⟨rfl, -⟩ := hresponse response hrpc
          rw [hrpc] at h
          simp only [clientWriteShard, if_true] at h
          have hsuccess : (⟨call.shardId, call.body.length, sha256 call.body, true⟩ :
              WriteShardResult).success = true := rfl
          obtain ⟨⟨answer, hanswer⟩, hshards, hconnected⟩ :=
            uploadShardFinish_answers w.cp call hsuccess now
          rw [settle_answer hanswer] at h
          obtain ⟨rfl, -⟩ := Prod.mk.inj h
          refine ⟨by rw [hcall]; exact hne, hshards, hconnected, hguar, ?_, ?_⟩
          · exact (hresponse _ hrpc).2.sidecar trivial
          · intro hcontent
            exact ((hwritten True fun _ => hcontent).2 _ hrpc).2.final trivial

end World

/-- The arguments of an upload besides its run and its checkpoint. -/
structure ShardUpload where
  shardId : String
  body : Bytes
  header : RankHeader := .absent
  conditions : WriteConditions
  now : Nat

/-- The upload that a request makes once its body has been received. -/
def ShardUpload.call (u : ShardUpload) (runId checkpointId : String) : UploadCall where
  runId := runId
  checkpointId := checkpointId
  shardId := u.shardId
  rank := u.header.rank
  body := u.body

/-- Take an upload that is answered with 200. -/
def World.acknowledge (sha256 : Bytes → String) (runId checkpointId : String) (w : World)
    (u : ShardUpload) : Option World :=
  match w.uploadShard sha256 runId checkpointId u.shardId u.body u.header u.conditions u.now with
  | (w', .ok _) => some w'
  | (_, .error _) => none

theorem World.acknowledge_eq_some {sha256 : Bytes → String} {runId checkpointId : String}
    {w w' : World} {u : ShardUpload} (h : w.acknowledge sha256 runId checkpointId u = some w') :
    Uploaded sha256 w w' (u.call runId checkpointId) u.conditions := by
  unfold acknowledge at h
  split at h
  · next w'' result hupload =>
    obtain rfl := Option.some.inj h
    exact uploadShard_eq_ok hupload
  · cases h

/-- An upload touches no manifest. -/
theorem Uploaded.get?_manifestKey {sha256 : Bytes → String} {w w' : World} {call : UploadCall}
    {conditions : WriteConditions} (h : Uploaded sha256 w w' call conditions)
    (runId checkpointId : String) :
    w'.bucket.get? (manifestKey runId checkpointId) =
      w.bucket.get? (manifestKey runId checkpointId) := by
  apply h.guar.others
  · exact manifestKey_ne_stagingKey conditions.uuid_valid
  · exact Ne.symm contentAddressedKey_ne_manifestKey
  · exact Ne.symm sidecarKey_ne_manifestKey

/-- An upload appends to the shards of its checkpoint. -/
theorem Uploaded.shardsOf {sha256 : Bytes → String} {w w' : World} {call : UploadCall}
    {conditions : WriteConditions} (h : Uploaded sha256 w w' call conditions)
    (checkpointId : String) :
    w'.cp.shardsOf checkpointId =
      if checkpointId = call.checkpointId then
        w.cp.shardsOf checkpointId ++ [uploadedShardInfo sha256 call]
      else w.cp.shardsOf checkpointId := by
  rw [ControlPlane.shardsOf, h.shards]
  by_cases hid : checkpointId = call.checkpointId
  · simp [setShards, hid]
  · simp [setShards, hid, ControlPlane.shardsOf]

/-! ## Commits -/

/-- The manifest that a commit asks for. -/
def manifestOf (call : CommitCall) (now : Nat) : Manifest where
  checkpointId := call.checkpointId
  runId := call.runId
  step := call.step.toNat
  createdAt := now
  numShards := call.shards.length
  totalBytes := (call.shards.map (·.sizeBytes)).sum
  shards := call.shards.map manifestShardOf
  metadata := []

/-- The manifest of a commit request is the one that its call asks for. -/
theorem manifest_of_request {call : CommitCall} {request : CommitRequest}
    (h : call.request = .ok request) (now : Nat) :
    request.manifest now = manifestOf call now := by
  rw [CommitCall.request_eq_ok h]
  simp only [CommitRequest.manifest, manifestOf, List.length_map, List.map_map]
  rfl

namespace World

/-- **A successful commit** finds a manifest of its checkpoint and leaves it as
it is, or it stores the manifest of the shards that the control plane
remembers. -/
theorem commitRun_eq_ok {w w' : World} {runId : String} {fate : CommitFate}
    {abortFaults : Nat → Fault} {now : Nat} {status : RunStatus}
    (h : w.commitRun runId fate abortFaults now = (w', .ok status)) :
    ∃ call, w.cp.commitRunBegin runId = .ok call ∧ call.runId = runId ∧
      w'.cp.dpConnected = w.cp.dpConnected ∧
      (w.bucket.get? (manifestKey runId call.checkpointId) ≠ none ∧ w'.bucket = w.bucket ∨
        w'.bucket = w.bucket.store (manifestKey runId call.checkpointId)
          (.manifest (manifestOf call now))) := by
  unfold commitRun at h
  cases hbegin : w.cp.commitRunBegin runId with
  | error e => simp [hbegin] at h
  | ok call =>
      obtain ⟨_, active, _, _, _, hcall⟩ := commitRunBegin_eq_ok.mp hbegin
      have hrun : call.runId = runId := by rw [hcall]
      refine ⟨call, rfl, hrun, ?_⟩
      simp only [hbegin] at h
      -- a rejected commit answers an error
      have haccepted : commitAccepted (commitRpc w.bucket call fate now).1 = true := by
        by_contra hnot
        obtain ⟨failureMessage, exception, hout⟩ :=
          commitRunFinish_rejected w.cp call (Bool.eq_false_iff.mpr hnot) now
        have hanswer := settle_failCheckpoint (α := RunStatus) w.cp call.runId call.checkpointId
          failureMessage exception now (commitRpc w.bucket call fate now).2 abortFaults
        rw [← hout, h] at hanswer
        cases hanswer
      cases hreply : (commitRpc w.bucket call fate now).1 with
      | error e =>
          rw [hreply] at haccepted
          cases haccepted
      | ok response =>
          rw [hreply] at haccepted h
          obtain ⟨⟨answer, hanswer⟩, _, hconnected⟩ :=
            commitRunFinish_answers w.cp call haccepted now
          rw [settle_answer hanswer] at h
          obtain ⟨rfl, -⟩ := Prod.mk.inj h
          refine ⟨hconnected, ?_⟩
          show _ ∧ (commitRpc w.bucket call fate now).2 = w.bucket ∨
            (commitRpc w.bucket call fate now).2 = _
          unfold commitRpc at hreply ⊢
          cases hrequest : call.request with
          | error e => simp [hrequest] at hreply
          | ok request =>
              cases fate with
              | raised message => simp [hrequest] at hreply
              | answered faults =>
                  have hids : request.runId = runId ∧ request.checkpointId = call.checkpointId := by
                    rw [CommitCall.request_eq_ok hrequest]
                    exact ⟨hrun, rfl⟩
                  have hcases := commitCheckpoint_run request now faults w.bucket
                  simp only [hrequest, Except.ok.injEq] at hreply ⊢
                  dsimp only at hcases
                  rw [hreply, hids.1, hids.2, manifest_of_request hrequest] at hcases
                  rcases hcases with ⟨_, hkey, hsame⟩ | ⟨_, hstored⟩ | ⟨hfailed, _⟩
                  · exact Or.inl ⟨hkey, hsame⟩
                  · exact Or.inr hstored
                  · rw [show response.success = true from haccepted] at hfailed
                    cases hfailed

/-- A successful commit of a checkpoint without a manifest stores it. -/
theorem commitRun_isOk {w : World} {runId checkpointId : String} {fate : CommitFate}
    {abortFaults : Nat → Fault} {now : Nat}
    (hactive : (w.cp.activeCheckpoint runId).map (·.checkpointId) = some checkpointId)
    (habsent : w.bucket.get? (manifestKey runId checkpointId) = none)
    (h : (w.commitRun runId fate abortFaults now).2.isOk = true) :
    let w' := (w.commitRun runId fate abortFaults now).1
    ∃ call : CommitCall, call.runId = runId ∧ call.checkpointId = checkpointId ∧
      call.shards = w.cp.shardsOf checkpointId ∧ w'.cp.dpConnected = true ∧
      w'.bucket = w.bucket.store (manifestKey runId checkpointId)
        (.manifest (manifestOf call now)) := by
  intro w'
  cases hanswer : (w.commitRun runId fate abortFaults now).2 with
  | error e =>
      rw [hanswer] at h
      cases h
  | ok status =>
      have hout : w.commitRun runId fate abortFaults now = (w', .ok status) := by
        rw [← hanswer]
      obtain ⟨call, hbegin, hrun, hconnected, hbucket⟩ := commitRun_eq_ok hout
      obtain ⟨_, active, hfound, hup, _, hcall⟩ := commitRunBegin_eq_ok.mp hbegin
      have hid : call.checkpointId = checkpointId := by
        rw [hfound, Option.map_some] at hactive
        rw [hcall]
        exact Option.some.inj hactive
      have hshards : call.shards = w.cp.shardsOf checkpointId := by
        rw [← hid, hcall]
      rw [hid] at hbucket
      refine ⟨call, hrun, hid, hshards, hconnected.trans hup, ?_⟩
      exact hbucket.resolve_left fun hpresent => hpresent.1 habsent

end World

end CheckpointRuntime
