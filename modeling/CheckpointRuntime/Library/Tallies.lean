import Mathlib.Data.List.Nodup
import Mathlib.Data.List.Perm.Basic

/-!
# Tallies

Rows that are gone through group by group: over a list of groups without repetition
that every row belongs to, each row comes up once (`groups_perm`), so that subtotals add
up to totals.  Two lists of rows with distinct keys are compared by what their keys
count: a count goes down exactly if a key that counted is lost, where none can be won at
the same time (`countP_lt_iff`).
-/

namespace Tallies

section
variable {α κ : Type} [DecidableEq κ] (key : α → κ)

/-- The rows of a group. -/
def group (rows : List α) (k : κ) : List α := rows.filter fun row => decide (key row = k)

/-- The rows of another group are those of the rest. -/
theorem group_rest {k k' : κ} (h : k' ≠ k) (rows : List α) :
    group key (rows.filter fun row => !decide (key row = k)) k' = group key rows k' := by
  unfold group
  rw [List.filter_filter]
  refine List.filter_congr fun row _ => ?_
  by_cases hrow : key row = k'
  · simp [hrow, h]
  · simp [hrow]

/-- **Each row comes up once.** -/
theorem groups_perm {ks : List κ} (hks : ks.Nodup) {rows : List α}
    (hrows : ∀ row ∈ rows, key row ∈ ks) : (ks.flatMap (group key rows)).Perm rows := by
  induction ks generalizing rows with
  | nil =>
      have hnil : rows = [] := List.eq_nil_iff_forall_not_mem.mpr fun row hmem =>
        absurd (hrows row hmem) List.not_mem_nil
      rw [hnil]
      exact List.Perm.refl _
  | cons k ks ih =>
      obtain ⟨hnew, hnodup⟩ := List.nodup_cons.mp hks
      have hrest : ks.flatMap (group key rows) =
          ks.flatMap (group key (rows.filter fun row => !decide (key row = k))) := by
        refine List.flatMap_congr fun k' hk' => ?_
        refine (group_rest key (fun hsame => hnew ?_) rows).symm
        rwa [hsame] at hk'
      rw [List.flatMap_cons, hrest]
      refine ((List.Perm.refl _).append (ih hnodup ?_)).trans (List.filter_append_perm _ rows)
      intro row hmem
      obtain ⟨hrow, hne⟩ := List.mem_filter.mp hmem
      rcases List.mem_cons.mp (hrows row hrow) with hsame | hin
      · rw [hsame] at hne
        simp at hne
      · exact hin

end

section
variable {α κ : Type} {key : α → κ} {p : α → Bool} {rows rows' : List α}

/-- A count does not go down where each key that counts goes on counting. -/
theorem countP_le (hrows : (rows.map key).Nodup)
    (h : ∀ row ∈ rows, p row → ∃ row' ∈ rows', key row' = key row ∧ p row') :
    rows.countP p ≤ rows'.countP p := by
  have hsub : (rows.filter p).map key ⊆ (rows'.filter p).map key := by
    intro k hk
    obtain ⟨row, hrow, rfl⟩ := List.mem_map.mp hk
    obtain ⟨hmem, hp⟩ := List.mem_filter.mp hrow
    obtain ⟨row', hmem', hsame, hp'⟩ := h row hmem hp
    exact List.mem_map.mpr ⟨row', List.mem_filter.mpr ⟨hmem', hp'⟩, hsame⟩
  have hle := (List.subperm_of_subset (hrows.sublist (List.filter_sublist.map key)) hsub).length_le
  rwa [List.length_map, List.length_map, ← List.countP_eq_length_filter,
    ← List.countP_eq_length_filter] at hle

/-- **A count goes down** exactly if a key is lost, if none can be won. -/
theorem countP_lt_iff (hrows : (rows.map key).Nodup) (hrows' : (rows'.map key).Nodup)
    (hlost : ∀ row ∈ rows, p row → (¬ ∃ row' ∈ rows', key row' = key row ∧ p row') →
      ∀ row' ∈ rows', p row' → ∃ old ∈ rows, key old = key row' ∧ p old) :
    rows'.countP p < rows.countP p ↔
      ∃ row ∈ rows, p row ∧ ¬ ∃ row' ∈ rows', key row' = key row ∧ p row' := by
  constructor
  · intro hlt
    by_contra hnone
    have hle : rows.countP p ≤ rows'.countP p := by
      refine countP_le hrows fun row hmem hp => ?_
      by_contra hgone
      exact hnone ⟨row, hmem, hp, hgone⟩
    omega
  · intro hrow
    obtain ⟨row, hmem, hp, hgone⟩ := hrow
    -- the keys that still count, and the lost one, have counted before
    have hsub : key row :: (rows'.filter p).map key ⊆ (rows.filter p).map key := by
      intro k hk
      rcases List.mem_cons.mp hk with rfl | hk
      · exact List.mem_map_of_mem (List.mem_filter.mpr ⟨hmem, hp⟩)
      · obtain ⟨row', hrow', rfl⟩ := List.mem_map.mp hk
        obtain ⟨hmem', hp'⟩ := List.mem_filter.mp hrow'
        obtain ⟨old, hold, hsame, hpold⟩ := hlost row hmem hp hgone row' hmem' hp'
        exact List.mem_map.mpr ⟨old, List.mem_filter.mpr ⟨hold, hpold⟩, hsame⟩
    have hnodup : (key row :: (rows'.filter p).map key).Nodup := by
      refine List.nodup_cons.mpr ⟨fun hk => ?_, hrows'.sublist (List.filter_sublist.map key)⟩
      obtain ⟨row', hrow', hsame⟩ := List.mem_map.mp hk
      obtain ⟨hmem', hp'⟩ := List.mem_filter.mp hrow'
      exact hgone ⟨row', hmem', hsame, hp'⟩
    have hle := (List.subperm_of_subset hnodup hsub).length_le
    rw [List.length_cons, List.length_map, List.length_map, ← List.countP_eq_length_filter,
      ← List.countP_eq_length_filter] at hle
    exact hle

end

end Tallies
