import CheckpointRuntime.RetentionPass

/-!
# A pass that nobody disturbs

`Upkeep` takes a retention pass call by call, `Stores.runOnce` takes it at once.
When nothing else happens and the clock stands still, they agree: the listing
page by page is the listing, the batches one by one delete what they name, and
the lookups and deletions of records prune them.
-/

namespace CheckpointRuntime

open Coordinator StableListing PartialRun KeyedTable

theorem Bucket.rows_removeAll (b : Bucket) (keys : List String) :
    (b.removeAll keys).objects.rows =
      b.objects.rows.filter fun object => decide (object.key ∉ keys) := by
  induction keys generalizing b with
  | nil => simp [removeAll]
  | cons key keys ih =>
      rw [removeAll, List.foldl_cons, ← removeAll, ih, remove, Table.erase, List.filter_filter]
      apply List.filter_congr
      intro object _
      simp only [List.mem_cons, not_or, Bool.decide_and, Bool.and_comm]

namespace Upkeep

/-! ## The bucket as a listing -/

def listed (s : Upkeep) (object : S3Object) : ListedObject where
  key := object.key
  lastModified := s.lastModified object.key

/-- All objects, in key order. -/
def listing (s : Upkeep) : Listing where
  rows := (byKey (fun object => object.key) s.system.bucket.objects.rows).map s.listed
  distinct := by
    rw [List.map_map]
    exact ((perm_byKey (fun object : S3Object => object.key) _).map _).nodup_iff.mpr
      s.system.bucket.objects.distinct

/-- What a pass at this instant works on. -/
def stores (s : Upkeep) : Stores where
  bucket := s.listing
  coordinator := s.system.server.cp.coordinator

theorem pairwise_listing (s : Upkeep) : s.listing.rows.Pairwise fun a b => a.key < b.key := by
  have hle : s.listing.rows.Pairwise fun a b => a.key ≤ b.key :=
    List.pairwise_map.mpr (pairwise_byKey (fun object : S3Object => object.key) _)
  exact hle.imp₂ (fun _ _ hle hne => lt_of_le_of_ne hle hne)
    (List.pairwise_map.mp s.listing.distinct)

/-- What comes after some objects, among all objects. -/
theorem unlisted_eq (s : Upkeep) (objects : List ListedObject) :
    s.unlisted objects =
      s.listing.rows.filter fun object => decide (∀ item ∈ objects, item.key < object.key) := by
  rw [listing, List.filter_map, filter_byKey]
  rfl

/-- After the first objects come the others. -/
theorem unlisted_take (s : Upkeep) (n : Nat) :
    s.unlisted (s.listing.rows.take n) = s.listing.rows.drop n := by
  rw [unlisted_eq]
  exact filter_after_take (fun object : ListedObject => object.key) s.pairwise_listing n

/-- The next page, when the first objects have been listed. -/
theorem listPage_take (s : Upkeep) (n : Nat) :
    s.listPage (s.listing.rows.take n) =
      if s.listing.rows.length - n ≤ 1000 then .readingRuns s.listing.rows
      else .listing (s.listing.rows.take (n + 1000)) := by
  have hpage : s.listing.rows.take n ++ (s.listing.rows.drop n).take 1000 =
      s.listing.rows.take (n + 1000) := (List.take_add ..).symm
  simp only [listPage, unlisted_take, List.length_drop, hpage]
  split
  · next hlast => rw [List.take_of_length_le (by omega)]
  · rfl

theorem listing_clear (s : Upkeep) (batch : List ListedObject) :
    (s.clear (batch.map (·.key))).listing = deleteObjects s.listing batch := by
  apply Table.ext_rows
  show (byKey _ (s.system.bucket.removeAll _).objects.rows).map s.listed =
    ((byKey _ s.system.bucket.objects.rows).map s.listed).filter _
  rw [Bucket.rows_removeAll, ← filter_byKey, List.filter_map]
  rfl

/-! ## The calls, one after the other -/

section
variable {sha256 : Bytes → String} {now : Nat} {s t u : Upkeep}

/-- The calls of a pass that nobody disturbs, at one instant. -/
def Proceeds (sha256 : Bytes → String) (now : Nat) (s t : Upkeep) : Prop :=
  ∃ n, run (step sha256) s (List.replicate n (.next none, now)) = some t

theorem Proceeds.refl : Proceeds sha256 now s s := ⟨0, rfl⟩

theorem Proceeds.call (h : s.next none now = some t) : Proceeds sha256 now s t := by
  refine ⟨1, ?_⟩
  show (s.next none now).bind _ = _
  rw [h]
  rfl

theorem Proceeds.trans (h : Proceeds sha256 now s t) (h' : Proceeds sha256 now t u) :
    Proceeds sha256 now s u := by
  obtain ⟨n, hn⟩ := h
  obtain ⟨m, hm⟩ := h'
  refine ⟨n + m, ?_⟩
  rw [List.replicate_add, run_append, hn]
  exact hm

/-- Page by page the pass reads the whole listing. -/
theorem proceeds_listing (s : Upkeep) (n : Nat) :
    Proceeds sha256 now { s with pass := .listing (s.listing.rows.take n) }
      { s with pass := .readingRuns s.listing.rows } := by
  induction hrest : s.listing.rows.length - n using Nat.strong_induction_on generalizing n with
  | _ rest ih =>
      have hcall : next { s with pass := .listing (s.listing.rows.take n) } none now =
          some { s with pass := s.listPage (s.listing.rows.take n) } := rfl
      apply (Proceeds.call hcall).trans
      rw [listPage_take]
      split
      · exact .refl
      · exact ih (s.listing.rows.length - (n + 1000)) (by omega) (n + 1000) rfl

/-- Batch by batch the pass deletes what it has chosen. -/
theorem proceeds_deleting (plan : Snapshot) (batches : List (List ListedObject)) (s : Upkeep) :
    ∃ t, Proceeds sha256 now { s with pass := .delete plan batches } t ∧
      t.pass = .prune plan.toDelete ∧
      t.stores = ⟨batches.foldl deleteObjects s.listing, s.system.server.cp.coordinator⟩ := by
  induction batches generalizing s with
  | nil => exact ⟨_, .refl, rfl, rfl⟩
  | cons batch batches ih =>
      obtain ⟨t, hcalls, hpass, hstores⟩ := ih (s.clear (batch.map (·.key)))
      refine ⟨t, .trans (.call rfl) hcalls, hpass, ?_⟩
      rw [hstores, listing_clear]
      rfl

/-- One lookup, and a deletion if it finds the record of that run. -/
theorem proceeds_record (first : ListedPrefix) (rest : List ListedPrefix) (s : Upkeep) :
    Proceeds sha256 now { s with pass := .pruning (first :: rest) }
      { s with
        system := s.system.setCp { s.system.server.cp with
          coordinator := pruneRecord s.system.server.cp.coordinator first }
        pass := .prune rest } := by
  unfold pruneRecord
  cases hfound : s.system.server.cp.coordinator.getCheckpoint first.checkpointId with
  | none =>
      refine .call ?_
      simp only [next, Option.getD_none, hfound]
      rfl
  | some checkpoint =>
      by_cases hrun : checkpoint.runId = first.runId
      · have hlookup : next { s with pass := .pruning (first :: rest) } none now =
            some { s with pass := .found first rest } := by
          simp only [next, Option.getD_none, hfound, if_pos hrun]
        refine (Proceeds.call hlookup).trans (.call ?_)
        simp only [next, Option.getD_none, Option.isSome_none, if_pos hrun]
        rfl
      · refine .call ?_
        simp only [next, Option.getD_none, hfound, if_neg hrun]
        rfl

/-- Record by record the pass prunes. -/
theorem proceeds_pruning (doomed : List ListedPrefix) (s : Upkeep) :
    ∃ t, Proceeds sha256 now { s with pass := .prune doomed } t ∧ t.pass = .over ∧
      t.stores = ⟨s.listing, doomed.foldl pruneRecord s.system.server.cp.coordinator⟩ := by
  induction doomed generalizing s with
  | nil => exact ⟨_, .refl, rfl, rfl⟩
  | cons first doomed ih =>
      obtain ⟨t, hcalls, hend⟩ := ih { s with
        system := s.system.setCp { s.system.server.cp with
          coordinator := pruneRecord s.system.server.cp.coordinator first } }
      exact ⟨t, (proceeds_record first doomed s).trans hcalls, hend⟩

/-- **A pass that nobody disturbs** is `run_once` all at once. -/
theorem undisturbed_pass (s : Upkeep) (hover : s.pass = .over) :
    ∃ n t, run (step sha256) s ((.begin, now) :: List.replicate n (.next none, now)) = some t ∧
      t.pass = .over ∧ t.stores = (s.stores.runOnce s.config now none).1 := by
  let begun : Upkeep := { s with pass := .listing [], stored := [], committed := [] }
  have hbegin : step sha256 s (.begin, now) = some begun := by
    simp only [step, hover]
    rfl
  let plan := s.stores.snapshot s.config now
  have hdecide : next { begun with pass := .deciding s.listing.rows s.stores.coordinator.listRuns }
      none now = some { begun with
        pass := if plan.cutoff?.isSome then .delete plan plan.batches else .over } := by
    simp only [plan, Stores.snapshot, Stores.listObjects_eq]
    rfl
  have hread : Proceeds sha256 now begun { begun with
      pass := if plan.cutoff?.isSome then .delete plan plan.batches else .over } :=
    (proceeds_listing begun 0).trans (.trans (.call rfl) (.call hdecide))
  cases hcutoff : plan.cutoff? with
  | none =>
      rw [hcutoff] at hread
      obtain ⟨n, hrun⟩ := hread
      refine ⟨n, { begun with pass := .over }, ?_, rfl, ?_⟩
      · rw [run_cons, hbegin]
        exact hrun
      · rw [Stores.runOnce_of_overflow hcutoff]
        rfl
  | some cutoff =>
      rw [hcutoff] at hread
      obtain ⟨t, hdelete, hpass, hstores⟩ := proceeds_deleting plan plan.batches begun
      obtain ⟨u, hprune, hend, hpruned⟩ := proceeds_pruning plan.toDelete t
      have ht : { t with pass := .prune plan.toDelete } = t := by rw [← hpass]
      rw [ht] at hprune
      obtain ⟨hlisting, hcoordinator⟩ := Stores.mk.inj hstores
      obtain ⟨n, hrun⟩ := (hread.trans hdelete).trans hprune
      refine ⟨n, u, ?_, hend, ?_⟩
      · rw [run_cons, hbegin]
        exact hrun
      · rw [hpruned, hlisting, hcoordinator, Stores.runOnce_of_cutoff hcutoff]
        rfl

end

end Upkeep

end CheckpointRuntime
