import CheckpointRuntime.ServiceContracts

/-!
# Listing page by page

`S3Client::list_objects` follows continuation tokens.  Here each
`list_objects_v2` request is a call of its own, and a `Pager` is any way in
which the service cuts a listing into pages: its pages hold every key under the
prefix once, and a truncated page always carries a token.  `outcome_listObjects`
is the completeness of the loop; `outcome_deleteEach` says what a sequence of
deletes leaves when it may break off.
-/

namespace CheckpointRuntime

open KeyedTable CallProgram

/-! ## Keys -/

namespace Bucket

/-- The keys of the objects of a bucket. -/
def keys (b : Bucket) : List String := b.objects.rows.map (·.key)

/-- The keys of a bucket that have no object in a later one. -/
def keysLost (b b' : Bucket) : List String := b.keys.filter (fun key => (b'.get? key).isNone)

theorem nodup_keys (b : Bucket) : b.keys.Nodup := b.objects.distinct

/-- An object is stored exactly under the keys of the bucket. -/
theorem mem_keys {b : Bucket} {key : String} : key ∈ b.keys ↔ b.get? key ≠ none := by
  simp only [get?, keys, ne_eq, Option.map_eq_none_iff, Table.find_eq_none_iff, List.mem_map,
    not_forall, not_not, exists_prop]

theorem mem_keysWithPrefix {b : Bucket} {keyStart key : String} :
    key ∈ b.keysWithPrefix keyStart ↔
      b.get? key ≠ none ∧ keyStart.toList <+: key.toList := by
  rw [keysWithPrefix, List.mem_filter, List.isPrefixOf_iff_prefix]
  exact and_congr_left' mem_keys

theorem nodup_keysWithPrefix (b : Bucket) (keyStart : String) :
    (b.keysWithPrefix keyStart).Nodup := b.nodup_keys.filter _

end Bucket

/-- A bucket from which the objects at some keys have gone. -/
def Removed (b : Bucket) (gone : List String) (b' : Bucket) : Prop :=
  ∀ key, b'.get? key = if key ∈ gone then none else b.get? key

theorem Removed.nothing (b : Bucket) : Removed b [] b := fun _ => rfl

theorem Removed.cons {b b' : Bucket} {key : String} {gone : List String}
    (h : Removed (b.remove key) gone b') : Removed b (key :: gone) b' := by
  intro other
  rw [h other, Bucket.get?_remove]
  by_cases hgone : other ∈ gone
  · rw [if_pos hgone, if_pos (List.mem_cons_of_mem _ hgone)]
  · rw [if_neg hgone]
    exact if_congr (by simp [hgone]) rfl rfl

/-- The order in which keys go does not matter. -/
theorem Removed.congr {b b' : Bucket} {gone gone' : List String}
    (h : Removed b gone b') (hmem : ∀ key, key ∈ gone ↔ key ∈ gone') : Removed b gone' b' :=
  fun key => (h key).trans (if_congr (hmem key) rfl rfl)

/-- When keys of the bucket go, each one once, that many are lost. -/
theorem Removed.length_keysLost {b b' : Bucket} {gone : List String} (h : Removed b gone b')
    (hnodup : gone.Nodup) (hkeys : ∀ key ∈ gone, b.get? key ≠ none) :
    (b.keysLost b').length = gone.length := by
  refine List.Perm.length_eq ((List.perm_ext_iff_of_nodup (b.nodup_keys.filter _) hnodup).mpr ?_)
  intro key
  rw [List.mem_filter, Option.isNone_iff_eq_none, h key, Bucket.mem_keys]
  constructor
  · intro h
    obtain ⟨hkey, hlost⟩ := h
    by_contra hstays
    rw [if_neg hstays] at hlost
    exact hkey hlost
  · exact fun hgone => ⟨hkeys key hgone, if_pos hgone⟩

/-- The number that a finished sweep returns is the number of lost keys exactly
when that fits in 32 bits. -/
theorem Removed.toNat_ofNat_iff {b b' : Bucket} {gone : List String} (h : Removed b gone b')
    (hnodup : gone.Nodup) (hkeys : ∀ key ∈ gone, b.get? key ≠ none) :
    (0 + UInt32.ofNat gone.length).toNat = (b.keysLost b').length ↔ gone.length < 2 ^ 32 := by
  rw [UInt32.zero_add, h.length_keysLost hnodup hkeys]
  constructor
  · intro hcount
    rw [← hcount]
    exact UInt32.toNat_lt _
  · exact fun hlt => UInt32.toNat_ofNat_of_lt' hlt

/-! ## Pages -/

/-- What the client reads of one `list_objects_v2` response. -/
structure ListPage where
  contents : List (Option String)
  isTruncated : Option Bool
  nextContinuationToken : Option String

/-- The objects of a page that carry a key. -/
def ListPage.keys (page : ListPage) : List String := page.contents.filterMap id

/-- The tokens from `token` on lead through pages with the keys `keys` to a page
that is not truncated. -/
inductive Pages (respond : Option String → ListPage) : Option String → List String → Prop
  | last {token : Option String} (hlast : (respond token).isTruncated ≠ some true) :
      Pages respond token (respond token).keys
  | more {token : Option String} {next : String} {rest : List String}
      (htruncated : (respond token).isTruncated = some true)
      (hnext : (respond token).nextContinuationToken = some next)
      (hrest : Pages respond (some next) rest) :
      Pages respond token ((respond token).keys ++ rest)

/-- How the service splits listings into pages. -/
structure Pager where
  respond : Bucket → String → Option String → ListPage
  complete : ∀ b keyStart, ∃ keys, Pages (respond b keyStart) none keys ∧
    keys.Perm (b.keysWithPrefix keyStart)

/-- The service that puts every listing on one page. -/
def Pager.onePage : Pager where
  respond := fun b keyStart _ =>
    { contents := (b.keysWithPrefix keyStart).map some
      isTruncated := some false
      nextContinuationToken := none }
  complete := by
    intro b keyStart
    refine ⟨_, .last (fun h => by cases h), ?_⟩
    rw [ListPage.keys, List.filterMap_map]
    exact .of_eq (List.filterMap_some)

/-! ## Calls -/

/-- The calls of the garbage collector: a request for one page, or a call on
objects. -/
inductive PagedCall
  | listObjectsV2 (keyStart : String) (continuationToken : Option String)
  | object (op : S3Call)

def PagedCall.Result : PagedCall → Type
  | .listObjectsV2 _ _ => ListPage
  | .object op => op.Result

abbrev PagedCall.Reply (op : PagedCall) : Type := Except S3Error op.Result

/-- The bucket as a service that hands listings out page by page. -/
def pagedService (pager : Pager) : Service PagedCall PagedCall.Reply Bucket Fault where
  answer := fun fault b op =>
    match op with
    | .listObjectsV2 keyStart token =>
        match fault with
        | .none => (b, .ok (pager.respond b keyStart token))
        | .refused => (b, .error .dispatch)
        | .lost => (b, .error .timeout)
    | .object op => bucketService.answer fault b op

/-- An `async` function over these calls; without a value it is still in its
loop. -/
abbrev PagedClient := ExceptT String (OptionT (Program PagedCall PagedCall.Reply))

namespace PagedClient

/-- Await one call; its error is the error of the function. -/
def await (op : PagedCall) : PagedClient op.Result :=
  ExceptT.mk (OptionT.mk ((Program.perform op).bind fun reply =>
    .done (some (reply.mapError S3Error.message))))

/-- A loop that has not come to its end. -/
def running {α : Type} : PagedClient α := ExceptT.mk OptionT.fail

/-- What a function returns, and the bucket that it leaves. -/
def outcome {α : Type} (x : PagedClient α) (pager : Pager) (faults : Nat → Fault) (b : Bucket) :
    Option (Except String α) × Bucket :=
  Program.run (pagedService pager) (OptionT.run (ExceptT.run x)) faults b

/-- The pages of a listing, one request after another. -/
def listPages (keyStart : String) :
    Nat → Option String → List String → PagedClient (List String)
  | 0, _, _ => running
  | fuel + 1, continuationToken, keys => do
      let resp ← await (.listObjectsV2 keyStart continuationToken)
      let keys := keys ++ resp.keys
      if resp.isTruncated = some true then
        listPages keyStart fuel resp.nextContinuationToken keys
      else
        return keys

def listObjects (fuel : Nat) (keyStart : String) : PagedClient (List String) :=
  listPages keyStart fuel none []

def deleteObject (key : String) : PagedClient Unit :=
  await (.object (.deleteObject key))

/-- Delete the keys of a list one after another; the counter has 32 bits. -/
def deleteEach : List String → UInt32 → PagedClient UInt32
  | [], deleted => return deleted
  | key :: keys, deleted => do
      deleteObject key
      deleteEach keys (deleted + 1)

variable {α β : Type} (pager : Pager) (faults : Nat → Fault) (b : Bucket)

/-- How a function goes on from the outcome of its first part. -/
def andThen (f : α → PagedClient β) :
    Option (Except String α) × Bucket → Option (Except String β) × Bucket
  | (some (.ok value), b) => (f value).outcome pager faults b
  | (some (.error e), b) => (some (.error e), b)
  | (none, b) => (none, b)

theorem outcome_pure (value : α) :
    (pure value : PagedClient α).outcome pager faults b = (some (.ok value), b) := rfl

theorem outcome_bind (x : PagedClient α) (f : α → PagedClient β) :
    ∃ used, (x >>= f).outcome pager faults b =
      andThen pager (fun n => faults (n + used)) f (x.outcome pager faults b) := by
  obtain ⟨used, hused⟩ := Program.run_bind (pagedService pager) (OptionT.run (ExceptT.run x))
    _ faults b
  refine ⟨used, hused.trans ?_⟩
  show _ = andThen pager _ f
    (Program.run (pagedService pager) (OptionT.run (ExceptT.run x)) faults b)
  cases Program.run (pagedService pager) (OptionT.run (ExceptT.run x)) faults b with
  | mk found b' =>
      cases found with
      | none => rfl
      | some result =>
          cases result with
          | ok value => rfl
          | error e => rfl

/-- A call that succeeds, and what follows it. -/
theorem outcome_await_ok {op : PagedCall} {b' : Bucket} {result : op.Result}
    (hanswer : (pagedService pager).answer (faults 0) b op = (b', .ok result))
    (f : op.Result → PagedClient β) :
    (await op >>= f).outcome pager faults b =
      (f result).outcome pager (fun n => faults (n + 1)) b' := by
  show Program.run _ (Program.call op _) _ _ = _
  rw [Program.run, hanswer]
  rfl

/-- A call that fails ends the function. -/
theorem outcome_await_error {op : PagedCall} {b' : Bucket} {e : S3Error}
    (hanswer : (pagedService pager).answer (faults 0) b op = (b', .error e))
    (f : op.Result → PagedClient β) :
    (await op >>= f).outcome pager faults b = (some (.error e.message), b') := by
  show Program.run _ (Program.call op _) _ _ = _
  rw [Program.run, hanswer]
  rfl

/-! ## The listing -/

/-- How a listing ends: with every key under the prefix once, or with the error
of a request that went wrong; the bucket is as before. -/
inductive Listed (keyStart : String) : Option (Except String (List String)) × Bucket → Prop
  | complete {keys : List String} (honce : keys.Nodup)
      (hkeys : ∀ key, key ∈ keys ↔ b.get? key ≠ none ∧ keyStart.toList <+: key.toList) :
      Listed keyStart (some (.ok keys), b)
  | failed {e : String} (hfault : ∃ n, faults n ≠ .none) : Listed keyStart (some (.error e), b)

/-- One request of the loop is answered with its page, or fails. -/
theorem answer_listObjectsV2 (keyStart : String) (token : Option String) :
    (faults 0 = .none ∧ (pagedService pager).answer (faults 0) b (.listObjectsV2 keyStart token) =
      (b, .ok (pager.respond b keyStart token))) ∨
    (faults 0 ≠ .none ∧ ∃ e : S3Error,
      (pagedService pager).answer (faults 0) b (.listObjectsV2 keyStart token) =
        (b, .error e)) := by
  cases faults 0 with
  | none => exact Or.inl ⟨rfl, rfl⟩
  | refused => exact Or.inr ⟨fun h => (by cases h), .dispatch, rfl⟩
  | lost => exact Or.inr ⟨fun h => (by cases h), .timeout, rfl⟩

/-- From a token on, the loop collects the pages that the token leads to. -/
theorem outcome_listPages {keyStart : String} {token : Option String} {found : List String}
    (hpages : Pages (pager.respond b keyStart) token found) :
    ∃ enough, ∀ fuel, enough ≤ fuel → ∀ (faults : Nat → Fault) (keys : List String),
      (listPages keyStart fuel token keys).outcome pager faults b =
        (some (.ok (keys ++ found)), b) ∨
      (∃ e, (listPages keyStart fuel token keys).outcome pager faults b =
        (some (.error e), b)) ∧ ∃ n, faults n ≠ .none := by
  induction hpages with
  | @last token hlast =>
      refine ⟨1, fun fuel hfuel faults keys => ?_⟩
      obtain ⟨fuel, rfl⟩ := Nat.exists_eq_add_of_le' hfuel
      unfold listPages
      rcases answer_listObjectsV2 pager faults b keyStart token with ⟨-, hok⟩ | ⟨hfault, e, herr⟩
      · left
        rw [outcome_await_ok pager faults b hok]
        dsimp only
        rw [if_neg hlast, outcome_pure]
      · exact Or.inr ⟨⟨_, outcome_await_error pager faults b herr _⟩, 0, hfault⟩
  | @more token next rest htruncated hnext hrest ih =>
      obtain ⟨enough, ih⟩ := ih
      refine ⟨enough + 1, fun fuel hfuel faults keys => ?_⟩
      obtain ⟨fuel, rfl⟩ := Nat.exists_eq_add_of_le' (Nat.le_trans (Nat.le_add_left 1 enough) hfuel)
      unfold listPages
      rcases answer_listObjectsV2 pager faults b keyStart token with ⟨-, hok⟩ | ⟨hfault, e, herr⟩
      · rw [outcome_await_ok pager faults b hok]
        dsimp only
        rw [if_pos htruncated, hnext]
        rcases ih fuel (Nat.le_of_succ_le_succ hfuel) (fun n => faults (n + 1))
            (keys ++ (pager.respond b keyStart token).keys) with hall | ⟨hbroken, n, hfault⟩
        · left
          rw [hall, List.append_assoc]
        · exact Or.inr ⟨hbroken, n + 1, hfault⟩
      · exact Or.inr ⟨⟨_, outcome_await_error pager faults b herr _⟩, 0, hfault⟩

/-- **The listing is complete** for every way of splitting it into pages. -/
theorem outcome_listObjects (keyStart : String) :
    ∃ enough, ∀ fuel, enough ≤ fuel → ∀ faults : Nat → Fault,
      Listed faults b keyStart ((listObjects fuel keyStart).outcome pager faults b) := by
  obtain ⟨found, hpages, hperm⟩ := pager.complete b keyStart
  obtain ⟨enough, henough⟩ := outcome_listPages pager b hpages
  refine ⟨enough, fun fuel hfuel faults => ?_⟩
  rcases henough fuel hfuel faults [] with hall | ⟨⟨e, hbroken⟩, hfault⟩
  · rw [listObjects, hall]
    refine .complete (hperm.nodup_iff.mpr (b.nodup_keysWithPrefix keyStart)) fun key => ?_
    rw [List.nil_append, hperm.mem_iff, Bucket.mem_keysWithPrefix]
  · rw [listObjects, hbroken]
    exact .failed hfault

/-! ## The deletes -/

/-- How a sequence of deletes ends: all done and counted, or broken off by a
call that went wrong. -/
inductive Deletion (keys : List String) (deleted : UInt32) :
    Option (Except String UInt32) × Bucket → Prop
  | finished {b' : Bucket} (hgone : Removed b keys b') :
      Deletion keys deleted (some (.ok (deleted + UInt32.ofNat keys.length)), b')
  | brokenOff {b' : Bucket} {gone : List String} {e : String} (hsub : gone ⊆ keys)
      (hgone : Removed b gone b') (hfault : ∃ n, faults n ≠ .none) :
      Deletion keys deleted (some (.error e), b')

/-- A delete that went through comes before the others. -/
theorem Deletion.cons {key : String} {keys : List String} {deleted : UInt32}
    {out : Option (Except String UInt32) × Bucket}
    (h : Deletion (fun n => faults (n + 1)) (b.remove key) keys (deleted + 1) out) :
    Deletion faults b (key :: keys) deleted out := by
  cases h with
  | finished hgone =>
      have hcount : deleted + 1 + UInt32.ofNat keys.length =
          deleted + UInt32.ofNat (key :: keys).length := by
        rw [List.length_cons, UInt32.ofNat_add, UInt32.add_assoc, UInt32.add_comm 1]
        rfl
      rw [hcount]
      exact .finished hgone.cons
  | brokenOff hsub hgone hfault =>
      obtain ⟨n, hfault⟩ := hfault
      exact .brokenOff (List.cons_subset_cons key hsub) hgone.cons ⟨n + 1, hfault⟩

/-- One delete goes through, or fails with or without its effect. -/
theorem answer_deleteObject (key : String) :
    (faults 0 = .none ∧ (pagedService pager).answer (faults 0) b (.object (.deleteObject key)) =
      (b.remove key, .ok ())) ∨
    (faults 0 ≠ .none ∧ ∃ (b' : Bucket) (e : S3Error), (b' = b ∨ b' = b.remove key) ∧
      (pagedService pager).answer (faults 0) b (.object (.deleteObject key)) =
        (b', .error e)) := by
  cases faults 0 with
  | none => exact Or.inl ⟨rfl, rfl⟩
  | refused => exact Or.inr ⟨fun h => (by cases h), b, .dispatch, Or.inl rfl, rfl⟩
  | lost => exact Or.inr ⟨fun h => (by cases h), b.remove key, .timeout, Or.inr rfl, rfl⟩

/-- What a sequence of deletes leaves. -/
theorem outcome_deleteEach (keys : List String) (deleted : UInt32) :
    Deletion faults b keys deleted ((deleteEach keys deleted).outcome pager faults b) := by
  induction keys generalizing deleted faults b with
  | nil =>
      have hdone : Deletion faults b [] deleted (some (.ok (deleted + 0)), b) :=
        .finished (.nothing b)
      rw [UInt32.add_zero] at hdone
      exact hdone
  | cons key keys ih =>
      rcases answer_deleteObject pager faults b key with ⟨-, hok⟩ | ⟨hfault, b', e, hb', herr⟩
      · have hrun : (deleteEach (key :: keys) deleted).outcome pager faults b =
            (deleteEach keys (deleted + 1)).outcome pager (fun n => faults (n + 1))
              (b.remove key) := outcome_await_ok pager faults b hok _
        rw [hrun]
        exact (ih _ (b.remove key) (deleted + 1)).cons
      · have hrun : (deleteEach (key :: keys) deleted).outcome pager faults b =
            (some (.error e.message), b') := outcome_await_error pager faults b herr _
        rw [hrun]
        rcases hb' with rfl | rfl
        · exact .brokenOff (List.nil_subset _) (.nothing b') ⟨0, hfault⟩
        · exact .brokenOff (by simp) (Removed.nothing _).cons ⟨0, hfault⟩

theorem deleteEach_append (keys keys' : List String) (deleted : UInt32) :
    deleteEach (keys ++ keys') deleted = deleteEach keys deleted >>= deleteEach keys' := by
  induction keys generalizing deleted with
  | nil => rfl
  | cons key keys ih =>
      rw [List.cons_append, deleteEach, deleteEach, bind_assoc]
      exact congrArg _ (funext fun _ => ih (deleted + 1))

/-- The order of the deletes does not matter. -/
theorem Deletion.perm {keys keys' : List String} {deleted : UInt32}
    {out : Option (Except String UInt32) × Bucket} (hperm : keys.Perm keys')
    (h : Deletion faults b keys deleted out) : Deletion faults b keys' deleted out := by
  cases h with
  | finished hgone =>
      rw [hperm.length_eq]
      exact .finished (hgone.congr fun key => hperm.mem_iff)
  | brokenOff hsub hgone hfault =>
      exact .brokenOff (fun key hkey => hperm.mem_iff.mp (hsub hkey)) hgone hfault

/-- A later fault is a fault. -/
theorem Deletion.of_later {keys : List String} {deleted : UInt32} {used : Nat}
    {out : Option (Except String UInt32) × Bucket}
    (h : Deletion (fun n => faults (n + used)) b keys deleted out) :
    Deletion faults b keys deleted out := by
  cases h with
  | finished hgone => exact .finished hgone
  | brokenOff hsub hgone hfault =>
      obtain ⟨n, hfault⟩ := hfault
      exact .brokenOff hsub hgone ⟨n + used, hfault⟩

/-- **Sweeping a prefix**: list it, select keys, delete them.  What is selected
may depend on the order of the listing only up to order. -/
theorem outcome_sweep (keyStart : String) (select : List String → List String)
    (target : List String)
    (hselect : ∀ keys, keys.Perm (b.keysWithPrefix keyStart) → (select keys).Perm target) :
    ∃ enough, ∀ fuel, enough ≤ fuel → ∀ faults : Nat → Fault,
      Deletion faults b target 0
        ((listObjects fuel keyStart >>= fun objects => deleteEach (select objects) 0).outcome
          pager faults b) := by
  obtain ⟨enough, hlisted⟩ := outcome_listObjects pager b keyStart
  refine ⟨enough, fun fuel hfuel faults => ?_⟩
  have hlisting := hlisted fuel hfuel faults
  obtain ⟨used, hrun⟩ := outcome_bind pager faults b (listObjects fuel keyStart)
    (fun objects => deleteEach (select objects) 0)
  rw [hrun]
  cases hfound : (listObjects fuel keyStart).outcome pager faults b with
  | mk found b' =>
      rw [hfound] at hlisting
      cases hlisting with
      | failed hfault => exact .brokenOff (List.nil_subset _) (.nothing b) hfault
      | @complete keys honce hkeys =>
          have hperm : keys.Perm (b.keysWithPrefix keyStart) := by
            apply (List.perm_ext_iff_of_nodup honce (b.nodup_keysWithPrefix _)).mpr
            intro key
            rw [hkeys, Bucket.mem_keysWithPrefix]
          have hdeleted := outcome_deleteEach pager (fun n => faults (n + used)) b (select keys) 0
          exact (hdeleted.perm _ _ (hselect keys hperm)).of_later

end PagedClient

end CheckpointRuntime
