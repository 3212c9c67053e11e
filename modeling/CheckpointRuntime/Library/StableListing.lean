import Mathlib.Data.List.Sort
import Mathlib.Data.List.Nodup
import Mathlib.Order.MinMax

/-!
# Searching a listing sorted by a key

A listing orders the rows of a list by a key and keeps rows with equal keys in
the order of the list.  `lastMatch_eq_some_iff` says which row a search from
the end finds: the one that satisfies the predicate and that every other such
row comes before, by its key or, on a tie, by its place in the list.
`firstLargest_eq_some_iff` says which row a search for the largest key finds:
among the rows of that key it is the first one, so the sorting does not matter
to it.  `mem_take_byKeyDown_iff` says which rows stand at the head of the
descending listing: those that fewer rows lead than there are places.
-/

namespace StableListing

variable {α κ : Type} [LinearOrder κ] (key : α → κ)

/-- The rows by key, equal keys in the order of the list. -/
def byKey (rows : List α) : List α := rows.insertionSort (fun a b => key a ≤ key b)

/-- Row `a` comes before row `b` in the listing. -/
def Before (rows : List α) (a b : α) : Prop :=
  key a < key b ∨ key a = key b ∧ [a, b].Sublist rows

/-- The last row of the listing that satisfies a predicate. -/
def lastMatch (p : α → Bool) (rows : List α) : Option α := (byKey key rows).reverse.find? p

/-- Without duplicates, two rows stand in one order only. -/
theorem not_pair_sublist_swap {l : List α} (hl : l.Nodup) {a b : α}
    (hab : [a, b].Sublist l) : ¬ [b, a].Sublist l := by
  induction l with
  | nil => cases hab
  | cons x l ih =>
      obtain ⟨hx, hl⟩ := List.nodup_cons.mp hl
      intro hba
      cases hab with
      | cons _ hab =>
          cases hba with
          | cons _ hba => exact ih hl hab hba
          | cons_cons _ _ => exact hx (hab.subset (by simp))
      | cons_cons _ hb =>
          cases hba with
          | cons _ hba => exact hx (hba.subset (by simp))
          | cons_cons _ _ => exact hx (hb.subset (by simp))

/-- Two different rows stand in some order. -/
theorem pair_sublist_total {l : List α} {a b : α} (ha : a ∈ l) (hb : b ∈ l) (hne : a ≠ b) :
    [a, b].Sublist l ∨ [b, a].Sublist l := by
  induction l with
  | nil => cases ha
  | cons x l ih =>
      rcases List.mem_cons.mp ha with rfl | hal
      · have hbl : b ∈ l := (List.mem_cons.mp hb).resolve_left (Ne.symm hne)
        exact Or.inl ((List.singleton_sublist.mpr hbl).cons_cons a)
      · rcases List.mem_cons.mp hb with rfl | hbl
        · exact Or.inr ((List.singleton_sublist.mpr hal).cons_cons b)
        · exact (ih hal hbl).imp (List.Sublist.cons x) (List.Sublist.cons x)

/-- Standing before is transitive. -/
theorem pair_sublist_trans {l : List α} (hl : l.Nodup) {a b c : α} (hab : [a, b].Sublist l)
    (hbc : [b, c].Sublist l) : [a, c].Sublist l := by
  induction l with
  | nil => cases hab
  | cons x l ih =>
      obtain ⟨hx, hl⟩ := List.nodup_cons.mp hl
      cases hbc with
      | cons _ hbc =>
          cases hab with
          | cons _ hab => exact (ih hl hab hbc).cons x
          | cons_cons _ _ =>
              have hc : c ∈ l := hbc.subset (by simp)
              exact (List.singleton_sublist.mpr hc).cons_cons a
      | cons_cons _ hc =>
          cases hab with
          | cons _ hab => exact absurd (hab.subset (by simp)) hx
          | cons_cons _ hb => exact absurd (hb.subset (by simp)) hx

theorem pairwise_byKey (rows : List α) :
    (byKey key rows).Pairwise (fun a b => key a ≤ key b) := by
  have : IsTrans α (fun a b => key a ≤ key b) := ⟨fun _ _ _ => le_trans⟩
  have : Std.Total (fun a b => key a ≤ key b) := ⟨fun a b => le_total (key a) (key b)⟩
  exact List.pairwise_insertionSort _ _

theorem nodup_byKey {rows : List α} (hrows : rows.Nodup) : (byKey key rows).Nodup :=
  (List.perm_insertionSort _ _).nodup_iff.mpr hrows

@[simp] theorem mem_byKey {rows : List α} {a : α} : a ∈ byKey key rows ↔ a ∈ rows :=
  List.mem_insertionSort _

/-- The order of two rows in the listing. -/
theorem pair_sublist_byKey_iff {rows : List α} (hrows : rows.Nodup) {a b : α}
    (ha : a ∈ rows) (hb : b ∈ rows) (hne : a ≠ b) :
    [a, b].Sublist (byKey key rows) ↔ Before key rows a b := by
  have hordered : ∀ {x y : α}, [x, y].Sublist (byKey key rows) → key x ≤ key y := by
    intro x y h
    have hpair := (pairwise_byKey key rows).sublist h
    exact (List.pairwise_cons.mp hpair).1 y List.mem_cons_self
  have hstable : ∀ {x y : α}, key x ≤ key y → [x, y].Sublist rows →
      [x, y].Sublist (byKey key rows) := by
    intro x y hle h
    have : IsTrans α (fun a b => key a ≤ key b) := ⟨fun _ _ _ => le_trans⟩
    have : Std.Total (fun a b => key a ≤ key b) := ⟨fun a b => le_total (key a) (key b)⟩
    exact List.pair_sublist_insertionSort hle h
  constructor
  · intro h
    rcases (hordered h).lt_or_eq with hlt | heq
    · exact Or.inl hlt
    · refine Or.inr ⟨heq, ?_⟩
      rcases pair_sublist_total ha hb hne with hab | hba
      · exact hab
      · exact absurd (hstable heq.ge hba) (not_pair_sublist_swap (nodup_byKey key hrows) h)
  · intro h
    rcases h with hlt | ⟨heq, hab⟩
    · have ha' := (mem_byKey key).mpr ha
      have hb' := (mem_byKey key).mpr hb
      rcases pair_sublist_total ha' hb' hne with hab | hba
      · exact hab
      · exact absurd (hordered hba) (not_le.mpr hlt)
    · exact hstable heq.le hab

/-- Of two lists with the same elements, each once, every pair tells the order. -/
theorem eq_of_pair_sublist {l l' : List α} (hperm : l.Perm l') (hl : l.Nodup)
    (h : ∀ a b, [a, b].Sublist l → [a, b].Sublist l') : l = l' := by
  have hl' : l'.Nodup := hperm.nodup_iff.mp hl
  have hforward : l.Pairwise fun a b => [a, b].Sublist l' :=
    List.pairwise_iff_forall_sublist.mpr fun hab => h _ _ hab
  have hself : l'.Pairwise fun a b => [a, b].Sublist l' :=
    List.pairwise_iff_forall_sublist.mpr fun hab => hab
  exact hperm.eq_of_pairwise (fun a b _ _ hab hba => absurd hba (not_pair_sublist_swap hl' hab))
    hforward hself

theorem perm_byKey (rows : List α) : (byKey key rows).Perm rows := List.perm_insertionSort _ _

/-- A listing that is in order already stays as it is. -/
theorem byKey_eq_self_iff {rows : List α} (hkeys : (rows.map key).Nodup) :
    byKey key rows = rows ↔ rows.Pairwise (fun a b => key a < key b) := by
  have hrows : rows.Nodup := hkeys.of_map _
  constructor
  · intro h
    have hle := pairwise_byKey key rows
    rw [h] at hle
    refine hle.imp₂ (fun a b hab hne => lt_of_le_of_ne hab hne) (List.pairwise_map.mp hkeys)
  · intro h
    refine (eq_of_pair_sublist (perm_byKey key rows).symm hrows fun a b hab => ?_).symm
    have hlt := List.pairwise_iff_forall_sublist.mp h hab
    have hdiff : a ≠ b := by
      intro h
      subst h
      exact lt_irrefl _ hlt
    exact (pair_sublist_byKey_iff key hrows (hab.subset (by simp)) (hab.subset (by simp))
      hdiff).mpr (Or.inl hlt)

/-- A row that all rows come after goes to the front. -/
theorem orderedInsert_of_forall_le {κ : Type} [LinearOrder κ] {key : α → κ} {a : α} {rows : List α}
    (h : ∀ b ∈ rows, key a ≤ key b) :
    rows.orderedInsert (fun x y => key x ≤ key y) a = a :: rows := by
  cases rows with
  | nil => rfl
  | cons b rows => exact List.orderedInsert_cons_of_le _ _ (h b List.mem_cons_self)

/-- What is selected after a row has been filed, if the row is selected itself or
not. -/
theorem filterMap_orderedInsert {β : Type} {key' : β → κ} {f : α → Option β} {a : α} {l : List α}
    (hl : l.Pairwise (fun x y => key x ≤ key y))
    (hf : ∀ x ∈ a :: l, ∀ b, f x = some b → key' b = key x) :
    (l.orderedInsert (fun x y => key x ≤ key y) a).filterMap f =
      match f a with
      | none => l.filterMap f
      | some b => (l.filterMap f).orderedInsert (fun x y => key' x ≤ key' y) b := by
  have ha := hf a List.mem_cons_self
  induction l with
  | nil => cases hfa : f a <;> simp [hfa]
  | cons x l ih =>
      obtain ⟨hx, hl⟩ := List.pairwise_cons.mp hl
      have hfx' := hf x (List.mem_cons_of_mem _ List.mem_cons_self)
      have htail : ∀ y ∈ l, ∀ b, f y = some b → key' b = key y := fun y hy =>
        hf y (List.mem_cons_of_mem _ (List.mem_cons_of_mem _ hy))
      rw [List.orderedInsert_cons]
      split
      · next hle =>
        cases hfa : f a with
        | none => rw [List.filterMap_cons_none hfa]
        | some b =>
            rw [List.filterMap_cons_some hfa]
            refine (orderedInsert_of_forall_le fun y hy => ?_).symm
            obtain ⟨z, hz, hzy⟩ := List.mem_filterMap.mp hy
            rw [ha b hfa, hf z (List.mem_cons_of_mem _ hz) y hzy]
            rcases List.mem_cons.mp hz with rfl | hz
            · exact hle
            · exact hle.trans (hx z hz)
      · next hnot =>
        have hrest := ih hl (List.forall_mem_cons.mpr ⟨ha, htail⟩)
        cases hfx : f x with
        | none => rw [List.filterMap_cons_none hfx, List.filterMap_cons_none hfx, hrest]
        | some c =>
            rw [List.filterMap_cons_some hfx, List.filterMap_cons_some hfx, hrest]
            cases hfa : f a with
            | none => rfl
            | some b =>
                have hbc : ¬ key' b ≤ key' c := by rwa [ha b hfa, hfx' c hfx]
                dsimp only
                rw [List.orderedInsert_cons, if_neg hbc]

/-- What is selected from a listing is the listing of what is selected. -/
theorem filterMap_byKey {β : Type} {key' : β → κ} {f : α → Option β} {rows : List α}
    (hf : ∀ a ∈ rows, ∀ b, f a = some b → key' b = key a) :
    (byKey key rows).filterMap f = byKey key' (rows.filterMap f) := by
  induction rows with
  | nil => rfl
  | cons a rows ih =>
      obtain ⟨ha, hrest⟩ := List.forall_mem_cons.mp hf
      have hsorted : ∀ x ∈ a :: byKey key rows, ∀ b, f x = some b → key' b = key x :=
        List.forall_mem_cons.mpr ⟨ha, fun x hx => hrest x ((mem_byKey key).mp hx)⟩
      show ((byKey key rows).orderedInsert _ a).filterMap f = _
      rw [filterMap_orderedInsert key (pairwise_byKey key rows) hsorted, ih hrest]
      cases hfa : f a with
      | none => rw [List.filterMap_cons_none hfa]
      | some b =>
          rw [List.filterMap_cons_some hfa]
          rfl

/-- A part of a listing is the listing of the part. -/
theorem filter_byKey (p : α → Bool) (rows : List α) :
    (byKey key rows).filter p = byKey key (rows.filter p) := by
  rw [← List.filterMap_eq_filter]
  apply filterMap_byKey key
  intro a _ b hab
  rw [(Option.guard_eq_some_iff.mp hab).1]

/-- In a listing without ties the rows that come after the first ones are the
rest. -/
theorem filter_after_take {rows : List α} (h : rows.Pairwise (fun a b => key a < key b)) (n : Nat) :
    rows.filter (fun a => decide (∀ b ∈ rows.take n, key b < key a)) = rows.drop n := by
  have hsplit := h
  rw [← List.take_append_drop n rows, List.pairwise_append] at hsplit
  let after (a : α) : Bool := decide (∀ b ∈ rows.take n, key b < key a)
  have hnone : (rows.take n).filter after = [] := by
    rw [List.filter_eq_nil_iff]
    intro a ha hafter
    exact lt_irrefl _ (of_decide_eq_true hafter a ha)
  have hall : (rows.drop n).filter after = rows.drop n := by
    rw [List.filter_eq_self]
    intro a ha
    exact decide_eq_true fun b hb => hsplit.2.2 b hb a ha
  calc rows.filter after = (rows.take n).filter after ++ (rows.drop n).filter after := by
        rw [← List.filter_append, List.take_append_drop]
    _ = rows.drop n := by rw [hnone, hall, List.nil_append]

/-- **Ties.**  A listing by a second key does not notice that the rows were
sorted before, exactly when rows that are equal in the second key were in
order already. -/
theorem byKey_byKey_eq_iff {κ' : Type} [LinearOrder κ'] (key' : α → κ') {rows : List α}
    (hkeys : (rows.map key).Nodup) :
    byKey key' (byKey key rows) = byKey key' rows ↔
      rows.Pairwise (fun a b => key' a = key' b → key a < key b) := by
  have hrows : rows.Nodup := hkeys.of_map _
  have hne : ∀ {a b : α}, [a, b].Sublist rows → a ≠ b := by
    intro a b hab heq
    subst heq
    exact not_pair_sublist_swap hrows hab hab
  have hsorted : ∀ {a b : α}, a ∈ rows → b ∈ rows → a ≠ b →
      ([a, b].Sublist (byKey key' (byKey key rows)) ↔ Before key' (byKey key rows) a b) := by
    intro a b ha hb hab
    exact pair_sublist_byKey_iff key' (nodup_byKey key hrows) ((mem_byKey key).mpr ha)
      ((mem_byKey key).mpr hb) hab
  rw [List.pairwise_iff_forall_sublist]
  constructor
  · intro h a b hab htie
    have ha : a ∈ rows := hab.subset (by simp)
    have hb : b ∈ rows := hab.subset (by simp)
    have hbefore := (pair_sublist_byKey_iff key' hrows ha hb (hne hab)).mpr (Or.inr ⟨htie, hab⟩)
    rw [← h, hsorted ha hb (hne hab)] at hbefore
    rcases hbefore with hlt | ⟨_, hpair⟩
    · exact absurd hlt (htie ▸ lt_irrefl _)
    · rcases (pair_sublist_byKey_iff key hrows ha hb (hne hab)).mp hpair with hlt | ⟨heq, _⟩
      · exact hlt
      · exact absurd (List.inj_on_of_nodup_map hkeys ha hb heq) (hne hab)
  · intro h
    refine (eq_of_pair_sublist ?_ (nodup_byKey key' hrows) fun a b hab => ?_).symm
    · have hperm := (perm_byKey key rows).trans (perm_byKey key' rows).symm
      exact ((perm_byKey key' _).trans hperm).symm
    · have ha : a ∈ rows := (mem_byKey key').mp (hab.subset (by simp))
      have hb : b ∈ rows := (mem_byKey key').mp (hab.subset (by simp))
      have hdiff : a ≠ b := by
        intro h
        subst h
        exact not_pair_sublist_swap (nodup_byKey key' hrows) hab hab
      rw [hsorted ha hb hdiff]
      rcases (pair_sublist_byKey_iff key' hrows ha hb hdiff).mp hab with hlt | ⟨htie, hpair⟩
      · exact Or.inl hlt
      · exact Or.inr ⟨htie, (pair_sublist_byKey_iff key hrows ha hb hdiff).mpr
          (Or.inl (h hpair htie))⟩

/-- A search from the end finds the match that all others stand before. -/
theorem find?_reverse_eq_some_iff {l : List α} (hl : l.Nodup) {p : α → Bool} {x : α} :
    l.reverse.find? p = some x ↔
      x ∈ l ∧ p x = true ∧ ∀ y ∈ l, p y = true → y ≠ x → [y, x].Sublist l := by
  have hforward : ∀ {x : α}, l.reverse.find? p = some x →
      x ∈ l ∧ p x = true ∧ ∀ y ∈ l, p y = true → y ≠ x → [y, x].Sublist l := by
    intro x h
    obtain ⟨hpx, before, after, hsplit, hno⟩ := List.find?_eq_some_iff_append.mp h
    refine ⟨List.mem_reverse.mp (List.mem_of_find?_eq_some h), hpx, ?_⟩
    intro y hy hpy hne
    have hmem : y ∈ before ++ x :: after := hsplit ▸ List.mem_reverse.mpr hy
    have hafter : y ∈ after := by
      rcases List.mem_append.mp hmem with hbefore | hrest
      · simpa [hpy] using hno y hbefore
      · exact (List.mem_cons.mp hrest).resolve_left hne
    have hpair : [x, y].Sublist l.reverse := by
      rw [hsplit]
      exact ((List.singleton_sublist.mpr hafter).cons_cons x).trans (List.sublist_append_right _ _)
    simpa using hpair.reverse
  constructor
  · exact hforward
  · intro h
    obtain ⟨hx, hpx, hlast⟩ := h
    cases hfind : l.reverse.find? p with
    | none =>
        have hno := List.find?_eq_none.mp hfind x (List.mem_reverse.mpr hx)
        exact absurd hpx hno
    | some z =>
        by_contra hne
        have hzx : z ≠ x := fun h => hne (congrArg some h)
        obtain ⟨hz, hpz, hlast'⟩ := hforward hfind
        exact not_pair_sublist_swap hl (hlast z hz hpz hzx) (hlast' x hx hpx (Ne.symm hzx))

/-- Which row is the last match of a listing. -/
theorem lastMatch_eq_some_iff {rows : List α} (hrows : rows.Nodup) {p : α → Bool} {x : α} :
    lastMatch key p rows = some x ↔
      x ∈ rows ∧ p x = true ∧ ∀ y ∈ rows, p y = true → y ≠ x → Before key rows y x := by
  rw [lastMatch, find?_reverse_eq_some_iff (nodup_byKey key hrows)]
  simp only [mem_byKey]
  constructor
  · intro h
    obtain ⟨hx, hpx, hlast⟩ := h
    exact ⟨hx, hpx, fun y hy hpy hne =>
      (pair_sublist_byKey_iff key hrows hy hx hne).mp (hlast y hy hpy hne)⟩
  · intro h
    obtain ⟨hx, hpx, hlast⟩ := h
    exact ⟨hx, hpx, fun y hy hpy hne =>
      (pair_sublist_byKey_iff key hrows hy hx hne).mpr (hlast y hy hpy hne)⟩

/-! ## The first row of the largest key -/

/-- The row with the largest key; of several, the first. -/
def firstLargest : List α → Option α
  | [] => none
  | a :: rows =>
      match firstLargest rows with
      | none => some a
      | some b => if key a < key b then some b else some a

/-- Row `a` leads row `b`: its key is larger, or equal and it stands first. -/
def Leads (rows : List α) (a b : α) : Prop :=
  key b < key a ∨ key b = key a ∧ [a, b].Sublist rows

theorem Leads.mono {rows rows' : List α} {a b : α} (h : Leads key rows a b)
    (hrows : rows.Sublist rows') : Leads key rows' a b :=
  h.imp id fun heq => ⟨heq.1, heq.2.trans hrows⟩

theorem Leads.trans {rows : List α} (hrows : rows.Nodup) {a b c : α}
    (hab : Leads key rows a b) (hbc : Leads key rows b c) : Leads key rows a c := by
  rcases hab with hab | ⟨hab, hsub⟩
  · rcases hbc with hbc | ⟨hbc, _⟩
    · exact Or.inl (hbc.trans hab)
    · exact Or.inl (hbc ▸ hab)
  · rcases hbc with hbc | ⟨hbc, hsub'⟩
    · exact Or.inl (hab ▸ hbc)
    · exact Or.inr ⟨hbc.trans hab, pair_sublist_trans hrows hsub hsub'⟩

/-- Of two rows only one leads the other. -/
theorem Leads.not_swap {rows : List α} (hrows : rows.Nodup) {a b : α}
    (hab : Leads key rows a b) : ¬ Leads key rows b a := by
  intro hba
  rcases hab with hab | ⟨hab, hsub⟩
  · rcases hba with hba | ⟨hba, _⟩
    · exact lt_asymm hab hba
    · exact absurd hba.symm (ne_of_lt hab)
  · rcases hba with hba | ⟨_, hsub'⟩
    · exact absurd hab.symm (ne_of_lt hba)
    · exact not_pair_sublist_swap hrows hsub hsub'

theorem firstLargest_eq_none_iff {rows : List α} : firstLargest key rows = none ↔ rows = [] := by
  cases rows with
  | nil => exact ⟨fun _ => rfl, fun _ => rfl⟩
  | cons a rows =>
      unfold firstLargest
      constructor
      · intro h
        split at h
        · cases h
        · split at h <;> cases h
      · intro h
        cases h

/-- The row that is found leads all others. -/
theorem leads_of_firstLargest {rows : List α} {x : α} (h : firstLargest key rows = some x) :
    x ∈ rows ∧ ∀ y ∈ rows, y ≠ x → Leads key rows x y := by
  induction rows generalizing x with
  | nil => cases h
  | cons a rows ih =>
      unfold firstLargest at h
      cases hrest : firstLargest key rows with
      | none =>
          rw [hrest] at h
          obtain rfl := Option.some.inj h
          obtain rfl := (firstLargest_eq_none_iff key).mp hrest
          refine ⟨List.mem_cons_self, ?_⟩
          intro y hy hne
          exact absurd (List.mem_singleton.mp hy) hne
      | some b =>
          obtain ⟨hb, hleads⟩ := ih hrest
          simp only [hrest] at h
          split at h
          · next hlt =>
            obtain rfl := Option.some.inj h
            refine ⟨List.mem_cons_of_mem _ hb, ?_⟩
            intro y hy hne
            rcases List.mem_cons.mp hy with rfl | hy
            · exact Or.inl hlt
            · exact (hleads y hy hne).mono key (List.sublist_cons_self a rows)
          · next hle =>
            obtain rfl := Option.some.inj h
            refine ⟨List.mem_cons_self, ?_⟩
            intro y hy hne
            have hyrest : y ∈ rows := (List.mem_cons.mp hy).resolve_left hne
            have hyb : key y ≤ key b := by
              by_cases hsame : y = b
              · exact hsame ▸ le_refl _
              · rcases hleads y hyrest hsame with hlt | ⟨heq, _⟩
                · exact le_of_lt hlt
                · exact le_of_eq heq
            rcases lt_or_eq_of_le (hyb.trans (not_lt.mp hle)) with hlt | heq
            · exact Or.inl hlt
            · exact Or.inr ⟨heq, (List.singleton_sublist.mpr hyrest).cons_cons a⟩

/-- Which row has the largest key, and comes first among those that have it. -/
theorem firstLargest_eq_some_iff {rows : List α} (hrows : rows.Nodup) {x : α} :
    firstLargest key rows = some x ↔ x ∈ rows ∧ ∀ y ∈ rows, y ≠ x → Leads key rows x y := by
  refine ⟨leads_of_firstLargest key, ?_⟩
  intro h
  obtain ⟨hx, hleads⟩ := h
  cases hfound : firstLargest key rows with
  | none =>
      rw [(firstLargest_eq_none_iff key).mp hfound] at hx
      cases hx
  | some z =>
      obtain ⟨hz, hleads'⟩ := leads_of_firstLargest key hfound
      by_contra hne
      have hzx : z ≠ x := fun hsame => hne (congrArg some hsame)
      exact (hleads z hz hzx).not_swap key hrows (hleads' x hx (Ne.symm hzx))

/-- Sorting by the key first makes no difference to who leads whom. -/
theorem leads_byKey_iff {rows : List α} (hrows : rows.Nodup) {a b : α} (ha : a ∈ rows)
    (hb : b ∈ rows) (hne : a ≠ b) : Leads key (byKey key rows) a b ↔ Leads key rows a b := by
  unfold Leads
  apply or_congr_right
  rw [pair_sublist_byKey_iff key hrows ha hb hne]
  constructor
  · intro h
    obtain ⟨heq, hlt | ⟨_, hab⟩⟩ := h
    · exact absurd heq.symm (ne_of_lt hlt)
    · exact ⟨heq, hab⟩
  · exact fun h => ⟨h.1, Or.inr ⟨h.1.symm, h.2⟩⟩

/-- Leaving rows out makes no difference to who of the others leads whom. -/
theorem leads_filter_iff {rows : List α} {p : α → Bool} {a b : α} (ha : p a = true)
    (hb : p b = true) : Leads key (rows.filter p) a b ↔ Leads key rows a b := by
  unfold Leads
  refine or_congr_right (and_congr_right fun _ => ?_)
  constructor
  · exact fun h => h.trans List.filter_sublist
  · intro h
    have hpair := h.filter p
    simpa [ha, hb] using hpair

/-- Only a larger key both comes last and leads. -/
theorem before_and_leads_iff {rows : List α} (hrows : rows.Nodup) {a b : α} :
    Before key rows b a ∧ Leads key rows a b ↔ key b < key a := by
  constructor
  · intro h
    rcases h with ⟨hlt | ⟨_, hba⟩, hleads⟩
    · exact hlt
    · rcases hleads with hlt | ⟨_, hab⟩
      · exact hlt
      · exact absurd hba (not_pair_sublist_swap hrows hab)
  · exact fun hlt => ⟨Or.inl hlt, Or.inl hlt⟩

/-- A search from the end of the listing and a search for the largest key find
the same row exactly when the key of that row is above all others. -/
theorem lastMatch_and_firstLargest_iff {rows : List α} (hrows : rows.Nodup) {p : α → Bool}
    {x : α} :
    lastMatch key p rows = some x ∧ firstLargest key ((byKey key rows).filter p) = some x ↔
      x ∈ rows ∧ p x = true ∧ ∀ y ∈ rows, p y = true → y ≠ x → key y < key x := by
  rw [lastMatch_eq_some_iff key hrows,
    firstLargest_eq_some_iff key ((nodup_byKey key hrows).filter p)]
  simp only [List.mem_filter, mem_byKey]
  constructor
  · intro h
    obtain ⟨⟨hx, hpx, hlast⟩, _, hfirst⟩ := h
    refine ⟨hx, hpx, fun y hy hpy hne => ?_⟩
    have hleads := (leads_filter_iff key hpx hpy).mp (hfirst y ⟨hy, hpy⟩ hne)
    exact (before_and_leads_iff key hrows).mp ⟨hlast y hy hpy hne,
      (leads_byKey_iff key hrows hx hy (Ne.symm hne)).mp hleads⟩
  · intro h
    obtain ⟨hx, hpx, habove⟩ := h
    exact ⟨⟨hx, hpx, fun y hy hpy hne => Or.inl (habove y hy hpy hne)⟩, ⟨hx, hpx⟩,
      fun y hy hne => Or.inl (habove y hy.1 hy.2 hne)⟩

/-- Having the largest key of all is having one that no other exceeds. -/
theorem eq_max?_iff {rows : List α} {a : α} (ha : a ∈ rows) :
    some (key a) = (rows.map key).max? ↔ ∀ b ∈ rows, key b ≤ key a := by
  rw [eq_comm, List.max?_eq_some_iff, List.forall_mem_map]
  exact and_iff_right (List.mem_map_of_mem ha)

/-- Of the rows with a property, those with the largest key. -/
theorem mem_filter_max_iff (p : α → Bool) {rows : List α} {a : α} :
    a ∈ (rows.filter p).filter
        (fun b => decide (some (key b) = ((rows.filter p).map key).max?)) ↔
      a ∈ rows ∧ p a = true ∧ ∀ b ∈ rows, p b = true → key b ≤ key a := by
  rw [List.mem_filter, decide_eq_true_eq, List.mem_filter, and_assoc]
  apply and_congr_right
  intro ha
  apply and_congr_right
  intro hpa
  rw [eq_max?_iff key (List.mem_filter.mpr ⟨ha, hpa⟩)]
  simp only [List.mem_filter, and_imp]

/-! ## The head of the descending listing -/

/-- The rows by key, largest first, equal keys in the order of the list. -/
def byKeyDown (rows : List α) : List α := byKey (fun a => OrderDual.toDual (key a)) rows

theorem byKeyDown_map {β : Type} (f : β → α) (rows : List β) :
    byKeyDown key (rows.map f) = (byKeyDown (fun b => key (f b)) rows).map f :=
  (List.map_insertionSort _ _ f _ fun _ _ _ _ => Iff.rfl).symm

@[simp] theorem mem_byKeyDown {rows : List α} {a : α} : a ∈ byKeyDown key rows ↔ a ∈ rows :=
  mem_byKey _

theorem nodup_byKeyDown {rows : List α} (hrows : rows.Nodup) : (byKeyDown key rows).Nodup :=
  nodup_byKey _ hrows

/-- The order of two rows in the descending listing. -/
theorem pair_sublist_byKeyDown_iff {rows : List α} (hrows : rows.Nodup) {a b : α}
    (ha : a ∈ rows) (hb : b ∈ rows) (hne : a ≠ b) :
    [a, b].Sublist (byKeyDown key rows) ↔ Leads key rows a b := by
  rw [byKeyDown, pair_sublist_byKey_iff _ hrows ha hb hne]
  exact or_congr Iff.rfl (and_congr_left fun _ => eq_comm)

theorem Leads.irrefl {rows : List α} (hrows : rows.Nodup) (a : α) : ¬ Leads key rows a a :=
  fun h => h.not_swap key hrows h

section
variable [DecidableEq α]

instance (rows : List α) (a b : α) : Decidable (Leads key rows a b) :=
  inferInstanceAs (Decidable (_ ∨ _))

/-- How many rows of a list lead a row. -/
def rank (rows : List α) (a : α) : Nat := rows.countP (fun b => decide (Leads key rows b a))

/-- Not every row leads a row of the list. -/
theorem rank_lt_length {rows : List α} (hrows : rows.Nodup) {a : α} (ha : a ∈ rows) :
    rank key rows a < rows.length :=
  lt_of_le_of_ne List.countP_le_length fun hall =>
    Leads.irrefl key hrows a (of_decide_eq_true (List.countP_eq_length.mp hall a ha))

/-- The rank depends on the keys of the rows only. -/
theorem rank_congr {key key' : α → κ} {rows : List α} {a : α} (ha : a ∈ rows)
    (h : ∀ b ∈ rows, key b = key' b) : rank key rows a = rank key' rows a := by
  apply List.countP_congr
  intro b hb
  rw [decide_eq_true_eq, decide_eq_true_eq, Leads, Leads, h b hb, h a ha]

/-- A row stands among the first `k` when fewer than `k` rows stand before it. -/
theorem mem_take_iff {l : List α} (hl : l.Nodup) {x : α} {k : Nat} :
    x ∈ l.take k ↔ x ∈ l ∧ l.countP (fun y => decide ([y, x].Sublist l)) < k := by
  induction l generalizing k with
  | nil => simp
  | cons a l ih =>
      obtain ⟨ha, hl'⟩ := List.nodup_cons.mp hl
      cases k with
      | zero => simp
      | succ k =>
          rw [List.take_succ_cons, List.mem_cons, List.mem_cons]
          by_cases hxa : x = a
          · subst hxa
            -- nothing stands before the head
            have hnone : (x :: l).countP (fun y => decide ([y, x].Sublist (x :: l))) = 0 := by
              apply List.countP_eq_zero.mpr
              intro y _
              rw [decide_eq_true_eq]
              intro hsub
              cases hsub with
              | cons _ hsub => exact ha (hsub.subset (by simp))
              | cons_cons _ hsub => exact ha (hsub.subset (by simp))
            rw [hnone]
            exact ⟨fun _ => ⟨Or.inl rfl, Nat.succ_pos k⟩, fun _ => Or.inl rfl⟩
          · simp only [hxa, false_or]
            rw [ih hl']
            apply and_congr_right
            intro hx
            have hhead : [a, x].Sublist (a :: l) := (List.singleton_sublist.mpr hx).cons_cons a
            have htail : l.countP (fun y => decide ([y, x].Sublist (a :: l))) =
                l.countP (fun y => decide ([y, x].Sublist l)) := by
              apply List.countP_congr
              intro y hy
              simp only [decide_eq_true_eq]
              constructor
              · intro hsub
                cases hsub with
                | cons _ hsub => exact hsub
                | cons_cons _ _ => exact absurd hy ha
              · exact fun hsub => hsub.cons a
            rw [List.countP_cons_of_pos (by simpa using hhead), htail]
            exact (Nat.succ_lt_succ_iff).symm

/-- Fewer than `k` rows lead the first `k` rows of the descending listing. -/
theorem mem_take_byKeyDown_iff {rows : List α} (hrows : rows.Nodup) {x : α} {k : Nat} :
    x ∈ (byKeyDown key rows).take k ↔ x ∈ rows ∧ rank key rows x < k := by
  rw [mem_take_iff (nodup_byKeyDown key hrows), mem_byKeyDown]
  apply and_congr_right
  intro hx
  have hperm : (byKeyDown key rows).Perm rows := List.perm_insertionSort _ _
  rw [hperm.countP_eq, rank]
  refine iff_of_eq (congrArg (· < k) (List.countP_congr fun y hy => ?_))
  simp only [decide_eq_true_eq]
  by_cases hyx : y = x
  · subst hyx
    have hnot : ¬ [y, y].Sublist (byKeyDown key rows) := fun h =>
      not_pair_sublist_swap (nodup_byKeyDown key hrows) h h
    exact iff_of_false hnot (Leads.irrefl key hrows y)
  · exact pair_sublist_byKeyDown_iff key hrows hy hx hyx

/-- The rows that are dropped with the head are the others. -/
theorem mem_drop_byKeyDown_iff {rows : List α} (hrows : rows.Nodup) {x : α} {k : Nat} :
    x ∈ (byKeyDown key rows).drop k ↔ x ∈ rows ∧ k ≤ rank key rows x := by
  have hnodup := nodup_byKeyDown key hrows
  rw [← List.take_append_drop k (byKeyDown key rows)] at hnodup
  have hdisjoint := (List.nodup_append.mp hnodup).2.2
  have hsplit : x ∈ rows ↔ x ∈ (byKeyDown key rows).take k ∨ x ∈ (byKeyDown key rows).drop k := by
    rw [← List.mem_append, List.take_append_drop, mem_byKeyDown]
  have htake := mem_take_byKeyDown_iff key hrows (x := x) (k := k)
  constructor
  · intro hdrop
    have hx := hsplit.mpr (Or.inr hdrop)
    refine ⟨hx, Nat.le_of_not_lt fun hlt => ?_⟩
    exact hdisjoint x (htake.mpr ⟨hx, hlt⟩) x hdrop rfl
  · intro h
    obtain ⟨hx, hle⟩ := h
    apply (hsplit.mp hx).resolve_left
    intro hin
    exact absurd (htake.mp hin).2 (Nat.not_lt.mpr hle)

end

end StableListing
