import CheckpointRuntime.AccountedShards

/-!
# Does retention race a checkpoint?

A pass decides on what it has listed and deletes it later.  What it has listed
together it deletes together, so a manifest that was there when it began never
loses its shards: they are all in the listing, under one prefix.  What goes wrong
is a commit in between, and `KeepsOut` says when it does not.
-/

namespace CheckpointRuntime

open Coordinator ControlPlane CallProgram StableListing PartialRun

namespace System

section
variable {sha256 : Bytes → String} {removed : List String} {s s' : System} {event : Event × Nat}

/-! ## What a step stores -/

theorem bucket_resume {α : Type} (s : System) (task : Nat) (out : ControlPlane × Outcome α) :
    (s.resume task out).bucket = s.bucket := by
  unfold resume
  split <;> rfl

/-- Only calls of RPCs reach the bucket. -/
theorem bucket_of_handler (h : s.step sha256 event = some s')
    (hwrite : ∀ rpc fault, event.1 ≠ .writeCall rpc fault)
    (hcommit : ∀ rpc fault, event.1 ≠ .commitCall rpc fault)
    (habort : ∀ rpc fault, event.1 ≠ .abortCall rpc fault) : s'.bucket = s.bucket := by
  obtain ⟨e, now⟩ := event
  cases e with
  | request request =>
      obtain ⟨server, _, rfl⟩ := Option.map_eq_some_iff.mp h
      rfl
  | deleteCheckpoint id =>
      obtain rfl := Option.some.inj h
      rfl
  | uploadBegin runId checkpointId shardId =>
      simp only [System.step] at h
      split at h <;> obtain rfl := Option.some.inj h <;> rfl
  | uploadBody task body header uuid depth maxDepth =>
      simp only [System.step] at h
      split at h
      · simp only [beginWrite] at h
        split at h
        · obtain rfl := Option.some.inj h
          rfl
        · split at h
          · obtain rfl := Option.some.inj h
            rfl
          · cases h
      · cases h
  | uploadReply task | uploadRaise task message =>
      obtain ⟨answer, _, rfl⟩ := Option.map_eq_some_iff.mp h
      exact bucket_resume ..
  | commitBegin runId =>
      obtain rfl := Option.some.inj h
      unfold beginCommit
      split
      · rfl
      · split
        · exact bucket_resume ..
        · rfl
  | commitReply task | commitRaise task message =>
      obtain ⟨answer, _, rfl⟩ := Option.map_eq_some_iff.mp h
      exact bucket_resume ..
  | abortEnd task =>
      simp only [System.step] at h
      split at h
      · obtain rfl := Option.some.inj h
        rfl
      · cases h
  | writeCall rpc fault => exact absurd rfl (hwrite rpc fault)
  | commitCall rpc fault => exact absurd rfl (hcommit rpc fault)
  | abortCall rpc fault => exact absurd rfl (habort rpc fault)

/-- A manifest was there before, or the event stores it. -/
theorem Founded.manifest_step (hs : s.Founded sha256 removed) (h : s.step sha256 event = some s')
    (hevent : ∀ rpc fault, event.1 ≠ .abortCall rpc fault) {r c : String} {manifest : Manifest}
    (hmanifest : s'.bucket.get? (manifestKey r c) = some (.manifest manifest)) :
    s.bucket.get? (manifestKey r c) = some (.manifest manifest) ∨
      s.manifestPut? event.1 = some (manifestKey r c, manifest) ∧
        s.stores? event.1 = some (manifestKey r c) := by
  obtain ⟨e, now⟩ := event
  cases e with
  | commitCall rpc fault =>
      obtain ⟨commit, hcommit, h⟩ := Option.bind_eq_some_iff.mp h
      obtain ⟨⟨program, bucket⟩, hcall, h⟩ := Option.bind_eq_some_iff.mp h
      obtain rfl := Option.some.inj h
      obtain ⟨_, hsame | hput, _⟩ := (hs.stages commit (List.mem_of_getElem? hcommit)).step hcall
      · exact Or.inl (hsame ▸ hmanifest)
      · have hbucket : bucket.get? (manifestKey r c) = some (.manifest manifest) := hmanifest
        rw [hput.stored, Bucket.get?_store] at hbucket
        split at hbucket
        · next hkey =>
          obtain rfl := ObjectBody.manifest.inj (Option.some.inj hbucket)
          right
          simp [manifestPut?, System.stores?, storesNext?, hcommit, hput.op, hput.fault, hkey,
            Bucket.effect, S3Call.stores?, Except.toOption]
        · exact Or.inl hbucket
  | writeCall rpc fault =>
      obtain ⟨write, hwrite, h⟩ := Option.bind_eq_some_iff.mp h
      obtain ⟨⟨program, bucket⟩, hcall, h⟩ := Option.bind_eq_some_iff.mp h
      obtain rfl := Option.some.inj h
      have hguar := (Keeps.step (hs.writes rpc write hwrite) (writerRely_self False.elim) hcall).1
      left
      rw [← hguar.get?_manifestKey]
      exact hmanifest
  | abortCall rpc fault => exact absurd rfl (hevent rpc fault)
  | _ =>
      left
      rw [← bucket_of_handler h (fun _ _ hsame => by cases hsame) (fun _ _ hsame => by cases hsame)
        (fun _ _ hsame => by cases hsame)]
      exact hmanifest

/-- The objects of a commit whose record is set are there, unless a pass has
removed them. -/
theorem Founded.committed_accounted (hs : s.Founded sha256 removed) {e : Event} {call : CommitCall}
    (hcall : s.committed? e = some call) {key : String} (hkey : key ∈ call.objectKeys) :
    Durable key ∧ s.Accounted removed key := by
  obtain ⟨⟨answered, reply⟩, hanswer, h⟩ := Option.bind_eq_some_iff.mp hcall
  obtain ⟨⟨haccepted, _⟩, hsome⟩ := Option.ite_none_right_eq_some.mp h
  obtain rfl := Option.some.inj hsome
  rcases commitAnswer_eq_some hanswer with ⟨message, rfl⟩ | ⟨rpc, commit, response, htask, rfl,
    hcommit, hvalue⟩
  · cases haccepted
  · obtain ⟨found, hfound, hrequest⟩ := hs.linked.awaitCommit answered rpc htask
    obtain rfl := Option.some.inj (hcommit.symm.trans hfound)
    have hmem := List.mem_of_getElem? hcommit
    have hids := CommitCall.request_eq_ok hrequest
    rcases List.mem_cons.mp hkey with rfl | hshard
    · refine ⟨⟨_, _, Or.inl rfl⟩, ?_⟩
      have hthere := hs.succeeded commit hmem response hvalue haccepted
      rw [hids] at hthere
      exact hthere
    · obtain ⟨info, hinfo, rfl⟩ := List.mem_map.mp hshard
      have hrequested : manifestShardOf info ∈ commit.request.shards := by
        rw [hids]
        exact List.mem_map_of_mem hinfo
      obtain ⟨hof, haccounted⟩ := hs.requested commit hmem _ hrequested
      exact ⟨hof.durable, haccounted⟩

end

end System

/-! ## What the pass has seen -/

/-- If the listing has come as far as a key, the key is in it. -/
def Pass.Seen (key : String) : Pass → Prop
  | .listing objects => (∃ item ∈ objects, key ≤ item.key) → key ∈ objects.map (·.key)
  | .readingRuns objects | .deciding objects _ => key ∈ objects.map (·.key)
  | _ => True

namespace Pass

@[simp] theorem pending_prune (doomed : List ListedPrefix) : (prune doomed).pending = [] := by
  cases doomed <;> rfl

theorem pending_delete (plan : Snapshot) (batches : List (List ListedObject)) :
    (delete plan batches).pending = batches.flatten.map (·.key) := by
  cases batches with
  | nil => exact pending_prune plan.toDelete
  | cons batch batches => rfl

theorem batch_subset (pass : Pass) : ∀ key ∈ pass.batch, key ∈ pass.pending := by
  intro key hkey
  cases pass with
  | deleting plan batches =>
      cases batches with
      | nil => cases hkey
      | cons batch batches =>
          obtain ⟨item, hitem, rfl⟩ := List.mem_map.mp hkey
          exact List.mem_map_of_mem (List.mem_append_left _ hitem)
  | _ => cases hkey

theorem seen_prune (key : String) (doomed : List ListedPrefix) : (prune doomed).Seen key := by
  cases doomed <;> trivial

theorem seen_delete (key : String) (plan : Snapshot) (batches : List (List ListedObject)) :
    (delete plan batches).Seen key := by
  cases batches with
  | nil => exact seen_prune key plan.toDelete
  | cons batch batches => trivial

end Pass

namespace Upkeep

section
variable {s : Upkeep} {objects : List ListedObject} {key : String}

theorem mem_keys_unlisted : key ∈ (s.unlisted objects).map (·.key) ↔
    s.get? key ≠ none ∧ ∀ item ∈ objects, item.key < key := by
  have hrow : s.get? key ≠ none ↔ ∃ row ∈ s.system.bucket.objects.rows, row.key = key := by
    rw [get?, Bucket.get?, ne_eq, Option.map_eq_none_iff]
    constructor
    · intro h
      obtain ⟨row, hrow⟩ := Option.ne_none_iff_exists'.mp h
      exact ⟨row, s.system.bucket.objects.mem_of_find hrow,
        s.system.bucket.objects.key_of_find hrow⟩
    · intro h hnone
      obtain ⟨row, hmem, rfl⟩ := h
      rw [s.system.bucket.objects.find_of_mem hmem] at hnone
      cases hnone
  simp only [unlisted, List.map_map, List.mem_map, mem_byKey, List.mem_filter, decide_eq_true_eq,
    Function.comp_apply, hrow]
  constructor
  · intro h
    obtain ⟨row, ⟨hmem, hafter⟩, rfl⟩ := h
    exact ⟨⟨row, hmem, rfl⟩, hafter⟩
  · intro h
    obtain ⟨⟨row, hmem, rfl⟩, hafter⟩ := h
    exact ⟨row, ⟨hmem, hafter⟩, rfl⟩

theorem pairwise_unlisted : (s.unlisted objects).Pairwise fun a b => a.key ≤ b.key := by
  rw [unlisted, List.pairwise_map]
  exact pairwise_byKey _ _

/-- The next page misses no object that is there. -/
theorem seen_listPage (hthere : s.get? key ≠ none) (hseen : (Pass.listing objects).Seen key) :
    (s.listPage objects).Seen key := by
  have hrest : (¬ ∃ item ∈ objects, key ≤ item.key) → key ∈ (s.unlisted objects).map (·.key) := by
    intro hno
    exact mem_keys_unlisted.mpr ⟨hthere, fun item hitem =>
      not_le.mp fun hle => hno ⟨item, hitem, hle⟩⟩
  unfold listPage
  dsimp only
  split
  · next hlast =>
    rw [List.take_of_length_le hlast]
    show key ∈ (objects ++ s.unlisted objects).map (·.key)
    rw [List.map_append, List.mem_append]
    by_cases hbefore : ∃ item ∈ objects, key ≤ item.key
    · exact Or.inl (hseen hbefore)
    · exact Or.inr (hrest hbefore)
  · intro hcovered
    rw [List.map_append, List.mem_append]
    by_cases hbefore : ∃ item ∈ objects, key ≤ item.key
    · exact Or.inl (hseen hbefore)
    · right
      obtain ⟨item, hitem, hle⟩ := hcovered
      rcases List.mem_append.mp hitem with hold | hpage
      · exact absurd ⟨item, hold, hle⟩ hbefore
      · obtain ⟨found, hfound, rfl⟩ := List.mem_map.mp (hrest hbefore)
        rw [← List.take_append_drop 1000 (s.unlisted objects)] at hfound
        rcases List.mem_append.mp hfound with htake | hdrop
        · exact List.mem_map_of_mem htake
        · -- the page ends before the object, so nothing in it comes after it
          have hsorted := @pairwise_unlisted s objects
          rw [← List.take_append_drop 1000 (s.unlisted objects)] at hsorted
          have hge := (List.pairwise_append.mp hsorted).2.2 item hpage found hdrop
          rw [le_antisymm hle hge]
          exact List.mem_map_of_mem hpage

/-- What is listed under one prefix is deleted together. -/
theorem mem_batches_of_prefix {plan : Snapshot} {key key' : String}
    (hkey : key ∈ plan.batches.flatten.map (·.key)) (hlisted : key' ∈ plan.objects.map (·.key))
    (hsame : prefixOf key' = prefixOf key) : key' ∈ plan.batches.flatten.map (·.key) := by
  rw [Snapshot.flatten_batches] at hkey ⊢
  obtain ⟨item, hitem, rfl⟩ := List.mem_map.mp hkey
  obtain ⟨other, hother, rfl⟩ := List.mem_map.mp hlisted
  obtain ⟨_, p, hp, hexpired⟩ := Snapshot.mem_deleteItems.mp hitem
  refine List.mem_map_of_mem (Snapshot.mem_deleteItems.mpr ⟨hother, p, ?_, hexpired⟩)
  rw [hsame]
  exact hp

end

/-! ## The invariant -/

/-- Every shard that a manifest lists is there, or the manifest is still going to be
deleted.  A manifest that was stored before the pass began is seen with its shards,
and deleted with them. -/
structure Held (sha256 : Bytes → String) (s : Upkeep) : Prop where
  founded : s.system.Founded sha256 s.removed
  standing : ∀ r c manifest, s.get? (manifestKey r c) = some (.manifest manifest) →
    ∀ shard ∈ manifest.shards,
      s.get? shard.storageKey ≠ none ∨ manifestKey r c ∈ s.pass.pending
  seen : ∀ r c manifest, s.get? (manifestKey r c) = some (.manifest manifest) →
    manifestKey r c ∉ s.stored → s.pass.Seen (manifestKey r c) ∧
      ∀ shard ∈ manifest.shards, s.pass.Seen shard.storageKey
  together : ∀ r c manifest, s.get? (manifestKey r c) = some (.manifest manifest) →
    manifestKey r c ∉ s.stored → ∀ shard ∈ manifest.shards,
      shard.storageKey ∈ s.pass.pending → manifestKey r c ∈ s.pass.pending
  committed : ∀ call ∈ s.committed, ∀ key ∈ call.objectKeys, Durable key ∧ s.get? key ≠ none

section
variable {sha256 : Bytes → String} {s s' : Upkeep}

theorem held_init (store : KVStore) (autoRecover hasSupervisor : Bool)
    (config : RetentionConfig) : (init store autoRecover hasSupervisor config).Held sha256 where
  founded := System.founded_init store autoRecover hasSupervisor
  standing := fun _ _ _ h => by cases h
  seen := fun _ _ _ h => by cases h
  together := fun _ _ _ h => by cases h
  committed := fun _ h => by cases h

theorem mem_manifestAt {key : String} {manifest : Manifest} :
    manifest ∈ s.manifestAt key ↔ s.get? key = some (.manifest manifest) := by
  unfold manifestAt
  split
  · next found hfound => simp [hfound]
  · next hno =>
    constructor
    · intro h
      cases h
    · exact fun h => absurd h (hno manifest)

theorem Held.unharmed (hs : s.Held sha256) : s.Unharmed := by
  intro hover
  refine ⟨?_, fun call hcall key hkey => (hs.committed call hcall key hkey).2⟩
  intro r c manifest hmanifest shard hshard
  have hstanding := hs.standing r c manifest (mem_manifestAt.mp hmanifest) shard hshard
  rw [hover] at hstanding
  exact hstanding.resolve_right fun hmem => by cases hmem

/-- A shard of a stored manifest has a key that uploads and commits leave alone. -/
theorem Held.durable (hs : s.Held sha256) {r c : String} {manifest : Manifest}
    (hmanifest : s.get? (manifestKey r c) = some (.manifest manifest)) {shard : ManifestShard}
    (hshard : shard ∈ manifest.shards) : Durable shard.storageKey := by
  obtain ⟨_, _, _, _, _, hshards⟩ := hs.founded.listed r c manifest hmanifest
  exact (hshards shard hshard).1.durable

theorem serve_eq_some {e : Event} {now : Nat} (h : s.serve sha256 e now = some s') :
    (∀ rpc fault, e ≠ .abortCall rpc fault) ∧ ∃ system,
      s.system.step sha256 (e, now) = some system ∧
      s' = { s with
        system := system
        lastModified := fun key =>
          if s.system.stores? e = some key then now else s.lastModified key
        stored := (s.system.stores? e).toList ++ s.stored
        committed := (s.system.committed? e).toList ++ s.committed } := by
  unfold Upkeep.serve at h
  split at h
  · cases h
  · next hno =>
    obtain ⟨system, hstep, rfl⟩ := Option.map_eq_some_iff.mp h
    exact ⟨hno, system, hstep, rfl⟩

/-- An upload or a commit goes on. -/
theorem Held.serve (hs : s.Held sha256) {e : Event} {now : Nat}
    (hguard : s.KeepsOut (.system e, now)) (h : s.serve sha256 e now = some s') :
    s'.Held sha256 := by
  obtain ⟨hevent, system, hstep, rfl⟩ := serve_eq_some h
  have hfounded := hs.founded.step hstep hevent
  have hkept : ∀ {key : String}, Durable key → s.get? key ≠ none →
      system.bucket.get? key ≠ none := fun hkey hthere =>
    hs.founded.bounded.durable_step hstep hevent hkey hthere
  -- a manifest that has not been stored since the pass began was there before
  have hbefore : ∀ {r c : String} {manifest : Manifest},
      system.bucket.get? (manifestKey r c) = some (.manifest manifest) →
      manifestKey r c ∉ (s.system.stores? e).toList ++ s.stored →
      s.get? (manifestKey r c) = some (.manifest manifest) ∧ manifestKey r c ∉ s.stored := by
    intro r c manifest hmanifest hstored
    rw [List.mem_append, not_or] at hstored
    rcases hs.founded.manifest_step hstep hevent hmanifest with hold | ⟨_, hstores⟩
    · exact ⟨hold, hstored.2⟩
    · exact absurd (by rw [hstores]; exact List.mem_singleton.mpr rfl) hstored.1
  refine ⟨hfounded, ?_, ?_, ?_, ?_⟩
  · intro r c manifest hmanifest shard hshard
    rcases hs.founded.manifest_step hstep hevent hmanifest with hold | ⟨hput, _⟩
    · exact (hs.standing r c manifest hold shard hshard).imp_left
        (hkept (hs.durable hold hshard))
    · rcases hguard.1 _ hput with hpending | huntouched
      · exact Or.inr hpending
      · obtain ⟨_, _, _, _, _, hshards⟩ := hfounded.listed r c manifest hmanifest
        obtain ⟨hof, hthere | hremoved⟩ := hshards shard hshard
        · exact Or.inl hthere
        · exact Or.inl (hkept hof.durable (huntouched shard hshard hremoved))
  · intro r c manifest hmanifest hstored
    obtain ⟨hold, hnot⟩ := hbefore hmanifest hstored
    exact hs.seen r c manifest hold hnot
  · intro r c manifest hmanifest hstored
    obtain ⟨hold, hnot⟩ := hbefore hmanifest hstored
    exact hs.together r c manifest hold hnot
  · intro call hcall key hkey
    rcases List.mem_append.mp hcall with hnew | hold
    · have hset := Option.mem_toList.mp hnew
      obtain ⟨hdurable, hthere | hremoved⟩ := hs.founded.committed_accounted hset hkey
      · exact ⟨hdurable, hkept hdurable hthere⟩
      · exact ⟨hdurable, hkept hdurable (hguard.2 call hset key hkey hremoved)⟩
    · obtain ⟨hdurable, hthere⟩ := hs.committed call hold key hkey
      exact ⟨hdurable, hkept hdurable hthere⟩

/-- A pass goes on that has nothing to delete yet, or any more. -/
theorem Held.goOn (hs : s.Held sha256) (hnone : s.pass.pending = []) {pass : Pass}
    (hseen : ∀ key, s.get? key ≠ none → s.pass.Seen key → pass.Seen key)
    (htogether : ∀ r c manifest, s.get? (manifestKey r c) = some (.manifest manifest) →
      manifestKey r c ∉ s.stored → ∀ shard ∈ manifest.shards,
        shard.storageKey ∈ pass.pending → manifestKey r c ∈ pass.pending) :
    Held sha256 { s with pass := pass } := by
  have hthere : ∀ r c manifest, s.get? (manifestKey r c) = some (.manifest manifest) →
      ∀ shard ∈ manifest.shards, s.get? shard.storageKey ≠ none := by
    intro r c manifest hmanifest shard hshard
    have hstanding := hs.standing r c manifest hmanifest shard hshard
    rw [hnone] at hstanding
    exact hstanding.resolve_right fun hmem => by cases hmem
  refine ⟨hs.founded, ?_, ?_, htogether, hs.committed⟩
  · intro r c manifest hmanifest shard hshard
    exact Or.inl (hthere r c manifest hmanifest shard hshard)
  · intro r c manifest hmanifest hstored
    obtain ⟨hkey, hshards⟩ := hs.seen r c manifest hmanifest hstored
    refine ⟨hseen _ ?_ hkey, fun shard hshard => hseen _ ?_ (hshards shard hshard)⟩
    · have hfound : s.get? (manifestKey r c) = some (.manifest manifest) := hmanifest
      rw [hfound]
      exact Option.some_ne_none _
    · exact hthere r c manifest hmanifest shard hshard

theorem get?_clear (keys : List String) (key : String) :
    (s.clear keys).get? key = if key ∈ keys then none else s.get? key :=
  Bucket.get?_removeAll s.system.bucket keys key

/-- The store deletes objects: a manifest that it leaves keeps its shards, or is still
going to be deleted. -/
theorem Held.clear (hs : s.Held sha256) {keys : List String} {pass : Pass}
    (hseen : ∀ key, pass.Seen key) (hcommitted : s.SparesCommitted keys)
    (hstanding : ∀ r c manifest, s.get? (manifestKey r c) = some (.manifest manifest) →
      manifestKey r c ∉ keys → ∀ shard ∈ manifest.shards,
        s.get? shard.storageKey ≠ none ∧ shard.storageKey ∉ keys ∨
          manifestKey r c ∈ pass.pending)
    (htogether : ∀ r c manifest, s.get? (manifestKey r c) = some (.manifest manifest) →
      manifestKey r c ∉ keys → manifestKey r c ∉ s.stored → ∀ shard ∈ manifest.shards,
        shard.storageKey ∈ pass.pending → manifestKey r c ∈ pass.pending) :
    Held sha256 { s.clear keys with pass := pass } := by
  have hbefore : ∀ {r c : String} {manifest : Manifest},
      (s.clear keys).get? (manifestKey r c) = some (.manifest manifest) →
      s.get? (manifestKey r c) = some (.manifest manifest) ∧ manifestKey r c ∉ keys := by
    intro r c manifest hmanifest
    rw [get?_clear] at hmanifest
    split at hmanifest
    · cases hmanifest
    · next hno => exact ⟨hmanifest, hno⟩
  refine ⟨hs.founded.removeAll keys, ?_, fun _ _ _ _ _ => ⟨hseen _, fun _ _ => hseen _⟩, ?_, ?_⟩
  · intro r c manifest hmanifest shard hshard
    obtain ⟨hold, hno⟩ := hbefore hmanifest
    apply (hstanding r c manifest hold hno shard hshard).imp_left
    intro hthere
    show (s.clear keys).get? _ ≠ none
    rw [get?_clear, if_neg hthere.2]
    exact hthere.1
  · intro r c manifest hmanifest hstored
    obtain ⟨hold, hno⟩ := hbefore hmanifest
    exact htogether r c manifest hold hno hstored
  · intro call hcall key hkey
    obtain ⟨hdurable, hthere⟩ := hs.committed call hcall key hkey
    refine ⟨hdurable, ?_⟩
    show (s.clear keys).get? _ ≠ none
    rw [get?_clear, if_neg (hcommitted call hcall key hkey)]
    exact hthere

/-- A batch is deleted. -/
theorem Held.deleteBatch (hs : s.Held sha256) {plan : Snapshot} {batch : List ListedObject}
    {batches : List (List ListedObject)} (hpass : s.pass = .deleting plan (batch :: batches))
    (hstored : s.SparesStored s.pass.batch) (hcommitted : s.SparesCommitted s.pass.batch) :
    Held sha256 { s.clear (batch.map (·.key)) with pass := .delete plan batches } := by
  have hbatch : s.pass.batch = batch.map (·.key) := by
    rw [hpass]
    rfl
  have hpending : s.pass.pending = batch.map (·.key) ++ (Pass.delete plan batches).pending := by
    rw [hpass, Pass.pending_delete]
    simp [Pass.pending]
  rw [hbatch] at hstored hcommitted
  -- a manifest that this batch leaves is deleted later, if it is deleted at all
  have hlater : ∀ {key : String}, key ∉ batch.map (·.key) → key ∈ s.pass.pending →
      key ∈ (Pass.delete plan batches).pending := by
    intro key hno hmem
    rw [hpending] at hmem
    exact (List.mem_append.mp hmem).resolve_left hno
  refine hs.clear (fun key => Pass.seen_delete key plan batches) hcommitted ?_ ?_
  · intro r c manifest hmanifest hno shard hshard
    rcases hs.standing r c manifest hmanifest shard hshard with hthere | hmem
    · by_cases hgone : shard.storageKey ∈ batch.map (·.key)
      · right
        by_cases hnew : manifestKey r c ∈ s.stored
        · rcases hstored _ hnew manifest (mem_manifestAt.mpr hmanifest) with hmem | hspared
          · exact hlater hno hmem
          · exact absurd hgone (hspared shard hshard)
        · refine hlater hno (hs.together r c manifest hmanifest hnew shard hshard ?_)
          rw [hpending]
          exact List.mem_append_left _ hgone
      · exact Or.inl ⟨hthere, hgone⟩
    · exact Or.inr (hlater hno hmem)
  · intro r c manifest hmanifest hno hnew shard hshard hmem
    refine hlater hno (hs.together r c manifest hmanifest hnew shard hshard ?_)
    rw [hpending]
    exact List.mem_append_right _ hmem

/-- A call of the pass raises. -/
theorem Held.fail (hs : s.Held sha256) {gone : List String} {now : Nat}
    (hguard : s.KeepsOut (.fail gone, now)) (h : s.fail gone = some s') : s'.Held sha256 := by
  have hs' : s' = { s.clear (s.pass.batch.filter (· ∈ gone)) with pass := .over } := by
    unfold Upkeep.fail at h
    split at h
    · cases h
    · exact (Option.some.inj h).symm
  subst hs'
  rcases hguard with hnone | ⟨hleft, hcommitted⟩
  · have hempty : s.pass.batch.filter (· ∈ gone) = [] := by
      rw [List.filter_eq_nil_iff]
      intro key hkey
      have hmem := s.pass.batch_subset key hkey
      rw [hnone] at hmem
      cases hmem
    rw [hempty]
    refine hs.clear (fun _ => trivial) (fun _ _ _ _ h => by cases h) ?_ ?_
    · intro r c manifest hmanifest _ shard hshard
      refine Or.inl ⟨(hs.standing r c manifest hmanifest shard hshard).resolve_right ?_, by simp⟩
      rw [hnone]
      exact fun h => by cases h
    · exact fun _ _ _ _ _ _ _ _ h => by cases h
  · refine hs.clear (fun _ => trivial) hcommitted ?_ (fun _ _ _ _ _ _ _ _ h => by cases h)
    intro r c manifest hmanifest hno shard hshard
    left
    have hrow : ∃ object ∈ s.system.bucket.objects.rows, object.key = manifestKey r c := by
      obtain ⟨row, hrow, _⟩ := Option.map_eq_some_iff.mp hmanifest
      exact ⟨row, s.system.bucket.objects.mem_of_find hrow,
        s.system.bucket.objects.key_of_find hrow⟩
    obtain ⟨object, hobject, hkey⟩ := hrow
    rcases hleft object hobject manifest (hkey ▸ mem_manifestAt.mpr hmanifest) with
      hgone | hspared
    · exact absurd (hkey ▸ hgone) hno
    · obtain ⟨hkept, huntouched⟩ := hspared shard hshard
      obtain ⟨_, _, _, _, _, hshards⟩ := hs.founded.listed r c manifest hmanifest
      obtain ⟨_, hthere | hremoved⟩ := hshards shard hshard
      · exact ⟨hthere, hkept⟩
      · exact ⟨huntouched hremoved, hkept⟩

/-- The next call of the pass goes through. -/
theorem Held.next (hs : s.Held sha256) {within : Option Coordinator} {now : Nat}
    (hguard : s.KeepsOut (.next within, now)) (h : s.next within now = some s') :
    s'.Held sha256 := by
  obtain ⟨hstored, hcommitted⟩ := hguard
  -- the pass has nothing to delete before and after the call
  have hquiet : ∀ pass : Pass, s.pass.pending = [] → pass.pending = [] →
      (∀ key, s.get? key ≠ none → s.pass.Seen key → pass.Seen key) →
      Held sha256 { s with pass := pass } := by
    intro pass hnone hnone' hseen
    apply hs.goOn hnone hseen
    intro r c manifest _ _ shard _ hmem
    rw [hnone'] at hmem
    cases hmem
  unfold Upkeep.next at h
  dsimp only at h
  split at h
  · cases h
  · next objects hpass =>
    obtain rfl := Option.some.inj h
    refine hquiet _ (by rw [hpass]; rfl) ?_ ?_
    · unfold listPage
      dsimp only
      split <;> rfl
    · intro key hthere hseen
      rw [hpass] at hseen
      exact seen_listPage hthere hseen
  · next objects hpass =>
    obtain rfl := Option.some.inj h
    apply hquiet _ (by rw [hpass]; rfl) rfl
    intro key _ hseen
    rw [hpass] at hseen
    exact hseen
  · next objects runs hpass =>
    obtain rfl := Option.some.inj h
    split
    · apply hs.goOn (by rw [hpass]; rfl) (fun key _ _ => Pass.seen_delete ..)
      intro r c manifest hmanifest hold shard hshard hmem
      obtain ⟨runId, checkpointId, hkey, hrun, hcheckpoint, hshards⟩ :=
        hs.founded.listed r c manifest hmanifest
      have hlisted := (hs.seen r c manifest hmanifest hold).1
      rw [hpass] at hlisted
      rw [Pass.pending_delete] at hmem ⊢
      apply mem_batches_of_prefix hmem hlisted
      rw [hkey, prefixOf_manifestKey hrun hcheckpoint,
        (hshards shard hshard).1.prefixOf hrun hcheckpoint]
    · -- the cutoff has raised
      exact hquiet .over (by rw [hpass]; rfl) rfl fun _ _ _ => trivial
  · next plan batch batches hpass =>
    obtain rfl := Option.some.inj h
    exact hs.deleteBatch hpass hstored hcommitted
  · next doomed rest hpass =>
    have hpruning : ∀ pass : Pass, pass.pending = [] → (∀ key, pass.Seen key) →
        Held sha256 { s with pass := pass } := fun pass hnone hseen =>
      hquiet pass (by rw [hpass]; rfl) hnone fun key _ _ => hseen key
    split at h
    · obtain rfl := Option.some.inj h
      split
      · exact hpruning _ rfl fun _ => trivial
      · exact hpruning _ (Pass.pending_prune rest) fun key => Pass.seen_prune key rest
    · obtain rfl := Option.some.inj h
      exact hpruning _ (Pass.pending_prune rest) fun key => Pass.seen_prune key rest
  · next doomed rest hpass =>
    obtain rfl := Option.some.inj h
    have hpruned := hquiet (.prune rest) (by rw [hpass]; rfl) (Pass.pending_prune rest)
      fun key _ _ => Pass.seen_prune key rest
    cases within with
    | some records => exact hpruned
    | none =>
        -- the record goes as a deletion by somebody else would take it
        have hstep : s.system.step sha256 (.deleteCheckpoint doomed.checkpointId, now) = some _ :=
          rfl
        exact ⟨hs.founded.step hstep nofun, hpruned.standing, hpruned.seen, hpruned.together,
          hpruned.committed⟩
  · cases h
  · cases h

theorem Held.begin (hs : s.Held sha256) (hover : s.pass = .over) :
    Held sha256 { s with pass := .listing [], stored := [], committed := [] } where
  founded := hs.founded
  standing r c manifest hmanifest shard hshard := by
    have hstanding := hs.standing r c manifest hmanifest shard hshard
    rw [hover] at hstanding
    exact hstanding
  seen _ _ _ _ _ := by
    have hfirst : ∀ key, (Pass.listing []).Seen key := by
      intro key h
      obtain ⟨_, hmem, _⟩ := h
      cases hmem
    exact ⟨hfirst _, fun _ _ => hfirst _⟩
  together _ _ _ _ _ _ _ h := by cases h
  committed _ h := by cases h

theorem Held.step (hs : s.Held sha256) {event : UpkeepEvent × Nat} (hguard : s.KeepsOut event)
    (h : Upkeep.step sha256 s event = some s') : s'.Held sha256 := by
  obtain ⟨e, now⟩ := event
  cases e with
  | system e => exact hs.serve hguard h
  | next within => exact hs.next hguard h
  | fail gone => exact hs.fail hguard h
  | begin =>
      simp only [Upkeep.step] at h
      split at h
      · next hover =>
        obtain rfl := Option.some.inj h
        exact hs.begin hover
      · cases h

end

/-- **No race.**  In every run of uploads, commits and retention passes that keep
out of each other's way, after a pass no manifest dangles and no checkpoint whose
record was set to `COMMITTED` meanwhile has lost objects. -/
theorem retention_never_races (sha256 : Bytes → String) (store : KVStore)
    (autoRecover hasSupervisor : Bool) (config : RetentionConfig)
    (events : List (UpkeepEvent × Nat))
    (h : Guarded (step sha256) KeepsOut (init store autoRecover hasSupervisor config) events) :
    Throughout (step sha256) Unharmed (init store autoRecover hasSupervisor config) events :=
  throughout_of_guarded (step sha256) (fun _ _ _ hs hguard hstep => hs.step hguard hstep)
    (fun _ hs => hs.unharmed) (held_init store autoRecover hasSupervisor config) h

/-! ## A commit on old shards -/

/-- What happens in the system, after a delay. -/
def after (delay : Nat) (events : List (Event × Nat)) : List (UpkeepEvent × Nat) :=
  events.map fun event => (.system event.1, delay + event.2)

/-- A shard is uploaded and acknowledged. -/
def uploadOne : List (Event × Nat) :=
  System.openEvents ++
    System.writeEvents 0 0 "rank-0" [97] "123e4567-e89b-42d3-a456-426614174000" ++
    [(.uploadReply 0, 5)]

def commitOne : List (Event × Nat) :=
  (.commitBegin "00000000000000a1", 7) :: System.commitEvents 1 0

/-- Four hours. -/
def fourHours : Nat := 14400000000

/-- A pass lists the shard before it is committed, but it is young. -/
def commitDuringPass : List (UpkeepEvent × Nat) :=
  after 0 uploadOne ++ [(.begin, 6), (.next none, 6)] ++ after 0 commitOne ++
    [(.next none, 10), (.next none, 10)]

/-- A pass finds an old shard without a manifest and chooses it; then it is
committed, and then it is deleted. -/
def commitOnOldShard : List (UpkeepEvent × Nat) :=
  after 0 uploadOne ++ (.begin, fourHours) :: List.replicate 3 (.next none, fourHours) ++
    after fourHours commitOne ++ List.replicate 3 (.next none, fourHours + 10)

/-- Which shards of the manifest are missing, and which objects of committed
checkpoints, once no pass runs. -/
def losses (s : Upkeep) : Option (Option (List String) × List String) :=
  match s.pass with
  | .over => some (s.system.missingShards "00000000000000a1" "00000000000000c1",
      (s.committed.flatMap (·.objectKeys)).filter fun key => (s.get? key).isNone)
  | _ => none

theorem Complete.missingShards {s : Upkeep} (h : s.Complete) {runId checkpointId : String}
    {missing : List String} (hmissing : s.system.missingShards runId checkpointId = some missing) :
    missing = [] := by
  unfold System.missingShards at hmissing
  split at hmissing
  · next manifest hmanifest =>
    obtain rfl := Option.some.inj hmissing
    have hat : s.manifestAt (manifestKey runId checkpointId) = some manifest := by
      simp only [manifestAt, get?, hmanifest]
    rw [List.map_eq_nil_iff, List.filter_eq_nil_iff]
    intro shard hshard hgone
    exact h runId checkpointId manifest hat shard hshard (Option.isNone_iff_eq_none.mp hgone)
  · cases hmissing

/-- After a pass that does no harm nothing is lost. -/
theorem Unharmed.losses {s : Upkeep} (h : s.Unharmed) {missing lost : List String}
    (hlosses : s.losses = some (some missing, lost)) : missing = [] ∧ lost = [] := by
  unfold Upkeep.losses at hlosses
  split at hlosses
  · next hover =>
    obtain ⟨hcomplete, hkept⟩ := h hover
    obtain ⟨hmissing, rfl⟩ := Prod.mk.inj (Option.some.inj hlosses)
    refine ⟨hcomplete.missingShards hmissing, ?_⟩
    rw [List.filter_eq_nil_iff]
    intro key hkey hgone
    obtain ⟨call, hcall, hmem⟩ := List.mem_flatMap.mp hkey
    exact hkept call hcall key hmem (Option.isNone_iff_eq_none.mp hgone)
  · cases hlosses

/-- A shard that is young stays, and its commit with it. -/
theorem commit_during_pass_kept :
    Throughout (step World.digestOfBody) Unharmed (init .inMemoryKVStore true true {})
      commitDuringPass ∧
    (run (step World.digestOfBody) (init .inMemoryKVStore true true {}) commitDuringPass).bind
      losses = some (some [], []) := by
  have hfacts : Guarded (step World.digestOfBody) KeepsOut (init .inMemoryKVStore true true {})
      commitDuringPass ∧
      (run (step World.digestOfBody) (init .inMemoryKVStore true true {}) commitDuringPass).bind
        losses = some (some [], []) := by
    decide +kernel
  exact ⟨retention_never_races World.digestOfBody .inMemoryKVStore true true {} commitDuringPass
    hfacts.1, hfacts.2⟩

/-- An old shard is deleted after its commit. -/
theorem commit_on_old_shard_lost :
    ¬ Throughout (step World.digestOfBody) Unharmed (init .inMemoryKVStore true true {})
      commitOnOldShard := by
  intro h
  have hlosses :
      (run (step World.digestOfBody) (init .inMemoryKVStore true true {}) commitOnOldShard).bind
        losses = some (some ["rank-0"],
          ["00000000000000a1/00000000000000c1/sha256-ca978112ca1bbdca-rank-0.bin"]) := by
    decide +kernel
  obtain ⟨last, hlast, hlost⟩ := Option.bind_eq_some_iff.mp hlosses
  obtain ⟨hnone, _⟩ := (h.at_end (step World.digestOfBody) hlast).losses hlost
  cases hnone

end Upkeep

end CheckpointRuntime
