import CheckpointRuntime.UploadHistory

/-!
# Does a commit list every acknowledged shard?

The shards of a checkpoint are remembered by the control-plane process only,
while its record survives the process.  So a manifest lists what has been
acknowledged since the last restart, and it is complete exactly when every
shard that a restart has made the process forget is uploaded again.
-/

namespace CheckpointRuntime

open ControlPlane PartialRun

/-- What happens to a checkpoint before its commit: an upload that is answered
with 200, or a restart of the control-plane process. -/
inductive UploadEvent
  | upload (runId checkpointId : String) (upload : ShardUpload)
  | restart

namespace UploadEvent

/-- The shard that an event acknowledges for a checkpoint. -/
def shardFor (checkpointId : String) : UploadEvent → Option String
  | .upload _ c u => if c = checkpointId then some u.shardId else none
  | .restart => none

/-- The shards that have been acknowledged for a checkpoint. -/
def acknowledged (checkpointId : String) (events : List UploadEvent) : List String :=
  events.filterMap (shardFor checkpointId)

/-- Every shard that a restart makes the process forget is acknowledged again
afterwards. -/
def ReuploadedAfterRestarts (checkpointId : String) (events : List UploadEvent) : Prop :=
  ∀ before after, events = before ++ .restart :: after →
    ∀ shardId ∈ acknowledged checkpointId before, shardId ∈ acknowledged checkpointId after

/-- The shards that the process remembers, if it remembered some before. -/
def remembered (checkpointId : String) : List String → List UploadEvent → List String
  | known, [] => known
  | known, event@(.upload _ _ _) :: events =>
      remembered checkpointId (known ++ (shardFor checkpointId event).toList) events
  | _, .restart :: events => remembered checkpointId [] events

theorem acknowledged_cons (checkpointId : String) (event : UploadEvent)
    (events : List UploadEvent) :
    acknowledged checkpointId (event :: events) =
      (event.shardFor checkpointId).toList ++ acknowledged checkpointId events := by
  rw [acknowledged, List.filterMap_cons]
  cases event.shardFor checkpointId <;> rfl

theorem remembered_subset {checkpointId shardId : String} {known : List String}
    {events : List UploadEvent} (h : shardId ∈ remembered checkpointId known events) :
    shardId ∈ known ++ acknowledged checkpointId events := by
  induction events generalizing known with
  | nil => exact List.mem_append_left _ h
  | cons event events ih =>
      rw [acknowledged_cons]
      cases event with
      | upload r c u =>
          rw [← List.append_assoc]
          exact ih h
      | restart => exact List.mem_append_right _ (ih h)

theorem remembered_append_restart (checkpointId : String) (known : List String)
    (before after : List UploadEvent) :
    remembered checkpointId known (before ++ .restart :: after) =
      remembered checkpointId [] after := by
  induction before generalizing known with
  | nil => rfl
  | cons event before ih =>
      cases event with
      | upload r c u => exact ih _
      | restart => exact ih _

/-- The process remembers every acknowledged shard exactly when what restarts
have made it forget has been uploaded again. -/
theorem all_remembered_iff (checkpointId : String) (events : List UploadEvent) :
    (∀ shardId ∈ acknowledged checkpointId events,
      shardId ∈ remembered checkpointId [] events) ↔
    ReuploadedAfterRestarts checkpointId events := by
  constructor
  · intro h before after hsplit shardId hbefore
    have hmem : shardId ∈ acknowledged checkpointId events := by
      rw [acknowledged, hsplit, List.filterMap_append]
      exact List.mem_append_left _ hbefore
    have hknown := h shardId hmem
    rw [hsplit, remembered_append_restart] at hknown
    exact remembered_subset hknown
  · -- with the shards known so far, which the next restart forgets
    suffices hgeneral : ∀ known, (∀ before after, events = before ++ .restart :: after →
        ∀ shardId ∈ known ++ acknowledged checkpointId before,
          shardId ∈ acknowledged checkpointId after) →
        ∀ shardId ∈ known ++ acknowledged checkpointId events,
          shardId ∈ remembered checkpointId known events from hgeneral []
    induction events with
    | nil =>
        intro known _ shardId hmem
        exact (List.append_nil known) ▸ hmem
    | cons event events ih =>
        intro known h shardId hmem
        rw [acknowledged_cons] at hmem
        cases event with
        | upload r c u =>
            rw [← List.append_assoc] at hmem
            apply ih _ _ shardId hmem
            intro before after hsplit other hother
            apply h (.upload r c u :: before) after (by rw [hsplit]; rfl)
            rw [acknowledged_cons, ← List.append_assoc]
            exact hother
        | restart =>
            apply ih
            · intro before after hsplit other hother
              apply h (.restart :: before) after (by rw [hsplit]; rfl)
              exact List.mem_append_right _ hother
            · rcases List.mem_append.mp hmem with hknown | hrest
              · exact h [] events rfl shardId (List.mem_append_left _ hknown)
              · exact hrest

end UploadEvent

namespace World

open UploadEvent

/-- Take an event; an upload that is not answered with 200 is none. -/
def takeUploadEvent (sha256 : Bytes → String) (w : World) : UploadEvent → Option World
  | .upload runId checkpointId u => w.acknowledge sha256 runId checkpointId u
  | .restart => some w.restart

/-- What one event does to the shards that are remembered, and to manifests. -/
theorem takeUploadEvent_effect {sha256 : Bytes → String} {w w' : World} {event : UploadEvent}
    (h : w.takeUploadEvent sha256 event = some w') (checkpointId : String) :
    (w'.cp.shardsOf checkpointId).map (·.shardId) =
      remembered checkpointId ((w.cp.shardsOf checkpointId).map (·.shardId)) [event] ∧
    ∀ r c, w'.bucket.get? (manifestKey r c) = w.bucket.get? (manifestKey r c) := by
  cases event with
  | upload r c u =>
      have hup := acknowledge_eq_some h
      refine ⟨?_, hup.get?_manifestKey⟩
      rw [hup.shardsOf]
      by_cases hid : checkpointId = c
      · simp [remembered, shardFor, ShardUpload.call, uploadedShardInfo, hid]
      · have hid' : c ≠ checkpointId := Ne.symm hid
        simp [remembered, shardFor, ShardUpload.call, hid, hid']
  | restart =>
      obtain rfl := Option.some.inj h
      exact ⟨rfl, fun _ _ => rfl⟩

/-- What a run of events does to them. -/
theorem run_takeUploadEvent {sha256 : Bytes → String} {w w' : World} {events : List UploadEvent}
    (h : run (takeUploadEvent sha256) w events = some w') (checkpointId : String) :
    (w'.cp.shardsOf checkpointId).map (·.shardId) =
      remembered checkpointId ((w.cp.shardsOf checkpointId).map (·.shardId)) events ∧
    ∀ r c, w'.bucket.get? (manifestKey r c) = w.bucket.get? (manifestKey r c) := by
  induction events generalizing w with
  | nil =>
      obtain rfl := Option.some.inj h
      exact ⟨rfl, fun _ _ => rfl⟩
  | cons event events ih =>
      obtain ⟨mid, hmid, hrest⟩ := run_cons_some _ h
      obtain ⟨hknown, hmanifests⟩ := takeUploadEvent_effect hmid checkpointId
      obtain ⟨hknown', hmanifests'⟩ := ih hrest
      refine ⟨?_, fun r c => (hmanifests' r c).trans (hmanifests r c)⟩
      rw [hknown', hknown]
      cases event <;> rfl

/-- The manifest of a checkpoint exists and lists the given shards. -/
def ManifestLists (w : World) (runId checkpointId : String) (shardIds : List String) : Prop :=
  ∃ manifest, w.bucket.get? (manifestKey runId checkpointId) = some (.manifest manifest) ∧
    ∀ shardId ∈ shardIds, ∃ shard ∈ manifest.shards, shard.shardId = shardId

/-- **Completeness of a commit.**  Take a checkpoint without uploads and
without a manifest, any successful uploads and restarts, and then a successful
commit of it.  The manifest lists every acknowledged shard exactly when every
shard that a restart has made the process forget was uploaded again. -/
theorem manifest_lists_acknowledged_iff {sha256 : Bytes → String} {w w' : World}
    {runId checkpointId : String} {events : List UploadEvent} {fate : CommitFate}
    {abortFaults : Nat → Fault} {now : Nat}
    (hnone : w.cp.shardsOf checkpointId = [])
    (habsent : w.bucket.get? (manifestKey runId checkpointId) = none)
    (hrun : run (takeUploadEvent sha256) w events = some w')
    (hactive : (w'.cp.activeCheckpoint runId).map (·.checkpointId) = some checkpointId)
    (hcommit : (w'.commitRun runId fate abortFaults now).2.isOk = true) :
    ManifestLists (w'.commitRun runId fate abortFaults now).1 runId checkpointId
        (acknowledged checkpointId events) ↔
      ReuploadedAfterRestarts checkpointId events := by
  obtain ⟨hknown, hmanifests⟩ := run_takeUploadEvent hrun checkpointId
  rw [hnone, List.map_nil] at hknown
  obtain ⟨call, hcallRun, hcallId, hshards, _, hbucket⟩ :=
    commitRun_isOk hactive ((hmanifests runId checkpointId).trans habsent) hcommit
  have hstored : (w'.commitRun runId fate abortFaults now).1.bucket.get?
      (manifestKey runId checkpointId) = some (.manifest (manifestOf call now)) := by
    rw [hbucket, Bucket.get?_store, if_pos rfl]
  have hlisted : ∀ shardId, (∃ shard ∈ (manifestOf call now).shards, shard.shardId = shardId) ↔
      shardId ∈ remembered checkpointId [] events := by
    intro shardId
    rw [← hknown, ← hshards]
    simp [manifestOf, manifestShardOf]
  rw [← all_remembered_iff]
  constructor
  · intro h shardId hshard
    obtain ⟨manifest, hmanifest, hall⟩ := h
    rw [hstored, Option.some.injEq, ObjectBody.manifest.injEq] at hmanifest
    rw [← hlisted, hmanifest]
    exact hall shardId hshard
  · intro h
    exact ⟨_, hstored, fun shardId hshard => (hlisted shardId).mpr (h shardId hshard)⟩

/-- One shard uploaded before a restart, and one after it. -/
def uploadsAroundRestart (second : String) : List UploadEvent :=
  [.upload "00000000000000a1" "00000000000000c1"
    { shardId := "rank-0", body := [97], now := 4, conditions := firstWrite },
   .restart,
   .upload "00000000000000a1" "00000000000000c1"
    { shardId := second, body := [97], now := 5, conditions := secondWrite }]

/-- The state after these uploads. -/
def afterRestart (second : String) : World :=
  (run (takeUploadEvent digestOfBody) beforeUploads (uploadsAroundRestart second)).getD
    beforeUploads

theorem run_uploadsAroundRestart {second : String}
    (h : (run (takeUploadEvent digestOfBody) beforeUploads
      (uploadsAroundRestart second)).isSome = true) :
    run (takeUploadEvent digestOfBody) beforeUploads (uploadsAroundRestart second) =
      some (afterRestart second) := by
  obtain ⟨w, hw⟩ := Option.isSome_iff_exists.mp h
  rw [afterRestart, hw, Option.getD_some]

theorem mem_listedShards {w : World} {shardId : String} {shardIds : List String}
    (h : ManifestLists w "00000000000000a1" "00000000000000c1" shardIds)
    (hmem : shardId ∈ shardIds) : shardId ∈ listedShards w := by
  obtain ⟨manifest, hmanifest, hall⟩ := h
  obtain ⟨shard, hshard, hid⟩ := hall shardId hmem
  rw [listedShards_eq hmanifest]
  exact List.mem_map.mpr ⟨shard, hshard, hid⟩

/-- A shard that is uploaded again after the restart is listed. -/
theorem manifest_lists_reuploaded_shard :
    ManifestLists (commitUploads (afterRestart "rank-0")).1 "00000000000000a1"
      "00000000000000c1" (acknowledged "00000000000000c1" (uploadsAroundRestart "rank-0")) := by
  have hfacts : (run (takeUploadEvent digestOfBody) beforeUploads
        (uploadsAroundRestart "rank-0")).isSome = true ∧
      ((afterRestart "rank-0").cp.activeCheckpoint "00000000000000a1").map (·.checkpointId) =
        some "00000000000000c1" ∧
      (commitUploads (afterRestart "rank-0")).2.isOk = true := by decide +kernel
  obtain ⟨hsome, hactive, hcommit⟩ := hfacts
  have hnone : beforeUploads.cp.shardsOf "00000000000000c1" = [] := rfl
  have habsent : beforeUploads.bucket.get? (manifestKey "00000000000000a1" "00000000000000c1") =
      none := rfl
  have hiff := manifest_lists_acknowledged_iff hnone habsent (run_uploadsAroundRestart hsome)
    hactive hcommit
  rw [commitUploads, hiff, ← all_remembered_iff]
  decide

/-- The manifest misses a shard that was acknowledged before the restart. -/
theorem restart_loses_acknowledged_shard :
    run (takeUploadEvent digestOfBody) beforeUploads (uploadsAroundRestart "rank-1") =
        some (afterRestart "rank-1") ∧
      (commitUploads (afterRestart "rank-1")).2.isOk = true ∧
      ¬ ManifestLists (commitUploads (afterRestart "rank-1")).1 "00000000000000a1"
        "00000000000000c1" (acknowledged "00000000000000c1" (uploadsAroundRestart "rank-1")) := by
  have hfacts : (run (takeUploadEvent digestOfBody) beforeUploads
        (uploadsAroundRestart "rank-1")).isSome = true ∧
      (commitUploads (afterRestart "rank-1")).2.isOk = true ∧
      listedShards (commitUploads (afterRestart "rank-1")).1 = ["rank-1"] := by decide +kernel
  obtain ⟨hsome, hcommit, hlisted⟩ := hfacts
  refine ⟨run_uploadsAroundRestart hsome, hcommit, ?_⟩
  intro h
  have hmem : "rank-0" ∈ listedShards (commitUploads (afterRestart "rank-1")).1 :=
    mem_listedShards h (by decide)
  rw [hlisted] at hmem
  exact absurd hmem (by decide)

end World

end CheckpointRuntime
