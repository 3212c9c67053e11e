import Mathlib.Data.List.Nodup
import Mathlib.Data.List.Sort
import Mathlib.Data.List.Perm.Basic

/-!
# Keyed tables

A keyed table is a finite list of rows whose keys are pairwise distinct, so it
is a map from keys to rows together with the order in which a listing returns
them.  Writing a row whose key is present replaces that row in place; a new
row goes wherever the `Placement` of the store puts it.  An insertion-ordered
dictionary and a store that keeps its keys sorted are two placements, and
nothing below except the order of `rows` depends on which one is used.
-/

namespace KeyedTable

/-- Where a store puts a row with a new key.  Whatever the position, the rows
afterwards are the old ones and the new one. -/
structure Placement (κ : Type) where
  insert : {α : Type} → (α → κ) → α → List α → List α
  perm : ∀ {α : Type} (key : α → κ) (row : α) (rows : List α),
    (insert key row rows).Perm (row :: rows)

/-- New rows go to the end, as in an insertion-ordered dictionary. -/
def Placement.atEnd {κ : Type} : Placement κ where
  insert := fun _ row rows => rows ++ [row]
  perm := fun _ _ _ => List.perm_append_singleton _ _

/-- New rows go before the first row with a larger key. -/
def Placement.byKey {κ : Type} [LE κ] [DecidableLE κ] : Placement κ where
  insert := fun key row rows => rows.orderedInsert (fun a b => key a ≤ key b) row
  perm := fun _ _ _ => List.perm_orderedInsert _ _ _

/-- A list of rows with pairwise distinct keys. -/
structure Table (α : Type) {κ : Type} (key : α → κ) where
  rows : List α
  distinct : (rows.map key).Nodup

section
variable {α κ : Type} {key : α → κ}

/-- The table without rows. -/
def Table.empty : Table α key where
  rows := []
  distinct := List.nodup_nil

/-- A table is its rows. -/
theorem Table.ext_rows {t t' : Table α key} (h : t.rows = t'.rows) : t = t' := by
  cases t
  cases t'
  subst h
  rfl

/-- A key identifies its row. -/
theorem Table.eq_of_key_eq (t : Table α key) {a b : α}
    (ha : a ∈ t.rows) (hb : b ∈ t.rows) (h : key a = key b) : a = b :=
  List.inj_on_of_nodup_map t.distinct ha hb h

/-- What is selected has distinct keys if the rows have. -/
theorem nodup_keys_filterMap {β : Type} {key' : β → κ} {f : α → Option β} {rows : List α}
    (hkeys : (rows.map key).Nodup) (hf : ∀ a ∈ rows, ∀ b, f a = some b → key' b = key a) :
    ((rows.filterMap f).map key').Nodup := by
  induction rows with
  | nil => exact List.nodup_nil
  | cons a rows ih =>
      obtain ⟨ha, hrows⟩ := List.nodup_cons.mp hkeys
      have hrest := ih hrows fun x hx => hf x (List.mem_cons_of_mem _ hx)
      cases hfa : f a with
      | none => rwa [List.filterMap_cons_none hfa]
      | some b =>
          rw [List.filterMap_cons_some hfa, List.map_cons]
          refine List.nodup_cons.mpr ⟨fun hmem => ha ?_, hrest⟩
          obtain ⟨c, hc, hkey⟩ := List.mem_map.mp hmem
          obtain ⟨x, hx, hfx⟩ := List.mem_filterMap.mp hc
          rw [hf a List.mem_cons_self b hfa, hf x (List.mem_cons_of_mem _ hx) c hfx] at hkey
          exact hkey ▸ List.mem_map_of_mem hx

variable [DecidableEq κ]

/-- The row stored under a key. -/
def Table.find (t : Table α key) (k : κ) : Option α :=
  t.rows.find? (fun row => decide (key row = k))

@[simp] theorem Table.find_empty (k : κ) : (Table.empty : Table α key).find k = none :=
  rfl

/-- Looking up a key finds exactly the row of the table that has it. -/
theorem Table.find_eq_some_iff (t : Table α key) {k : κ} {row : α} :
    t.find k = some row ↔ row ∈ t.rows ∧ key row = k := by
  constructor
  · intro h
    exact ⟨List.mem_of_find?_eq_some h, by simpa using List.find?_some h⟩
  · intro h
    obtain ⟨hmem, rfl⟩ := h
    cases hfind : t.find (key row) with
    | none =>
        have hno := List.find?_eq_none.mp hfind row hmem
        simp at hno
    | some found =>
        have hkey : key found = key row := by simpa using List.find?_some hfind
        rw [t.eq_of_key_eq (List.mem_of_find?_eq_some hfind) hmem hkey]

/-- A stored row is found under its own key. -/
theorem Table.find_of_mem (t : Table α key) {row : α} (h : row ∈ t.rows) :
    t.find (key row) = some row :=
  t.find_eq_some_iff.mpr ⟨h, rfl⟩

/-- The row found under a key carries that key. -/
theorem Table.key_of_find (t : Table α key) {k : κ} {row : α}
    (h : t.find k = some row) : key row = k :=
  (t.find_eq_some_iff.mp h).2

/-- The row found under a key is a row of the table. -/
theorem Table.mem_of_find (t : Table α key) {k : κ} {row : α}
    (h : t.find k = some row) : row ∈ t.rows :=
  (t.find_eq_some_iff.mp h).1

/-- At most one row has a key. -/
theorem Table.filter_key (t : Table α key) (k : κ) :
    t.rows.filter (fun row => decide (key row = k)) = (t.find k).toList := by
  cases hfind : t.find k with
  | none =>
      rw [Option.toList_none, List.filter_eq_nil_iff]
      intro row hrow hkey
      rw [← of_decide_eq_true hkey, t.find_of_mem hrow] at hfind
      cases hfind
  | some row =>
      obtain ⟨hmem, rfl⟩ := t.find_eq_some_iff.mp hfind
      have hrows : t.rows.Nodup := t.distinct.of_map _
      rw [Option.toList_some, ← List.perm_singleton,
        List.perm_ext_iff_of_nodup (hrows.filter _) (List.nodup_singleton _)]
      intro other
      rw [List.mem_filter, decide_eq_true_eq, List.mem_singleton]
      constructor
      · exact fun hother => t.eq_of_key_eq hother.1 hmem hother.2
      · intro h
        subst h
        exact ⟨hmem, rfl⟩

/-- No row is found under a key exactly when no row has it. -/
theorem Table.find_eq_none_iff (t : Table α key) {k : κ} :
    t.find k = none ↔ ∀ row ∈ t.rows, key row ≠ k := by
  simp [Table.find, List.find?_eq_none]

/-- The rows after writing `row`: in place when its key is present. -/
def putRows (place : Placement κ) (key : α → κ) (row : α) (rows : List α) : List α :=
  if key row ∈ rows.map key then
    rows.map (fun old => if key old = key row then row else old)
  else
    place.insert key row rows

/-- Writing in place changes no key. -/
theorem map_key_replace (key : α → κ) (row : α) (rows : List α) :
    (rows.map (fun old => if key old = key row then row else old)).map key =
      rows.map key := by
  rw [List.map_map]
  apply List.map_congr_left
  intro old _
  by_cases h : key old = key row <;> simp [h]

/-- After a write the rows are the written one and those with another key. -/
theorem mem_putRows (place : Placement κ) {row other : α} {rows : List α} :
    other ∈ putRows place key row rows ↔
      other = row ∨ (other ∈ rows ∧ key other ≠ key row) := by
  unfold putRows
  split
  · next hpresent =>
    obtain ⟨old, hold, holdKey⟩ := List.mem_map.mp hpresent
    simp only [List.mem_map]
    constructor
    · intro h
      obtain ⟨x, hx, hval⟩ := h
      by_cases hk : key x = key row
      · exact Or.inl (by simpa [hk] using hval.symm)
      · have hsame : x = other := by simpa [hk] using hval
        exact Or.inr ⟨hsame ▸ hx, hsame ▸ hk⟩
    · intro h
      rcases h with rfl | ⟨hmem, hk⟩
      · exact ⟨old, hold, by simp [holdKey]⟩
      · exact ⟨other, hmem, by simp [hk]⟩
  · next habsent =>
    rw [(place.perm key row rows).mem_iff, List.mem_cons]
    constructor
    · intro h
      rcases h with rfl | hmem
      · exact Or.inl rfl
      · exact Or.inr ⟨hmem, fun hk => habsent (hk ▸ List.mem_map_of_mem hmem)⟩
    · intro h
      rcases h with rfl | ⟨hmem, _⟩
      · exact Or.inl rfl
      · exact Or.inr hmem

/-- Write a row under its own key. -/
def Table.put (place : Placement κ) (t : Table α key) (row : α) : Table α key where
  rows := putRows place key row t.rows
  distinct := by
    unfold putRows
    split
    · rw [map_key_replace]
      exact t.distinct
    · next habsent =>
      rw [((place.perm key row t.rows).map key).nodup_iff, List.map_cons]
      exact List.nodup_cons.mpr ⟨habsent, t.distinct⟩

/-- Remove the row stored under a key, if there is one. -/
def Table.erase (t : Table α key) (k : κ) : Table α key where
  rows := t.rows.filter (fun row => decide (key row ≠ k))
  distinct := t.distinct.sublist (List.filter_sublist.map key)

/-- After a write the rows are the written one and those with another key. -/
theorem Table.mem_put (place : Placement κ) (t : Table α key) {row other : α} :
    other ∈ (t.put place row).rows ↔
      other = row ∨ (other ∈ t.rows ∧ key other ≠ key row) :=
  mem_putRows place

/-- A write is found under its own key and leaves every other key alone. -/
theorem Table.find_put (place : Placement κ) (t : Table α key) (row : α) (k : κ) :
    (t.put place row).find k = if k = key row then some row else t.find k := by
  by_cases hk : k = key row
  · rw [if_pos hk, Table.find_eq_some_iff, Table.mem_put]
    exact ⟨Or.inl rfl, hk.symm⟩
  · rw [if_neg hk]
    cases hold : t.find k with
    | none =>
        rw [Table.find_eq_none_iff] at hold ⊢
        intro other hmem
        rcases (t.mem_put place).mp hmem with rfl | ⟨hother, _⟩
        · exact fun h => hk h.symm
        · exact hold other hother
    | some found =>
        obtain ⟨hmem, hkey⟩ := t.find_eq_some_iff.mp hold
        rw [Table.find_eq_some_iff, Table.mem_put]
        exact ⟨Or.inr ⟨hmem, hkey ▸ hk⟩, hkey⟩

@[simp] theorem Table.find_put_self (place : Placement κ) (t : Table α key) (row : α) :
    (t.put place row).find (key row) = some row := by
  rw [Table.find_put, if_pos rfl]

/-- Removing a key hides its row and leaves every other key alone. -/
theorem Table.find_erase (t : Table α key) (gone k : κ) :
    (t.erase gone).find k = if k = gone then none else t.find k := by
  by_cases hk : k = gone
  · rw [if_pos hk, Table.find_eq_none_iff]
    intro row hmem
    have := (List.mem_filter.mp hmem).2
    simpa [hk] using this
  · rw [if_neg hk]
    cases hold : t.find k with
    | none =>
        rw [Table.find_eq_none_iff] at hold ⊢
        exact fun row hmem => hold row (List.mem_filter.mp hmem).1
    | some found =>
        obtain ⟨hmem, hkey⟩ := t.find_eq_some_iff.mp hold
        rw [Table.find_eq_some_iff]
        exact ⟨List.mem_filter.mpr ⟨hmem, by simpa [hkey] using hk⟩, hkey⟩

end

end KeyedTable
