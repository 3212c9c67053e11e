import Mathlib.Data.List.Basic
import Mathlib.Data.List.Induction
import Mathlib.Data.List.Nodup

/-!
# Grouping rows by a key

Rows are filed one after another under their keys, as a dictionary of lists
does it: the groups stand in the order in which their keys first come up, and a
group holds the values of its rows in the order of the rows.  `grouped_eq`
states this as an equation, so no later proof looks at the filing.
-/

namespace Grouping

variable {α κ β : Type} [DecidableEq κ]

/-- Append a value to the list of its key; a new key goes to the end. -/
def file (k : κ) (v : β) : List (κ × List β) → List (κ × List β)
  | [] => [(k, [v])]
  | (k', vs) :: groups =>
      if k' = k then (k', vs ++ [v]) :: groups else (k', vs) :: file k v groups

/-- File the rows that have a key. -/
def grouped (key : α → Option κ) (value : α → β) (rows : List α) : List (κ × List β) :=
  rows.foldl (fun groups row =>
    match key row with
    | none => groups
    | some k => file k (value row) groups) []

/-- The rows with a given key. -/
def rowsOf (key : α → Option κ) (rows : List α) (k : κ) : List α :=
  rows.filter (fun row => decide (key row = some k))

/-- The keys in the order in which they first come up. -/
def keys (key : α → Option κ) (rows : List α) : List κ := (rows.filterMap key).eraseDups

theorem eraseDups_concat (l : List κ) (a : κ) :
    (l ++ [a]).eraseDups = if a ∈ l then l.eraseDups else l.eraseDups ++ [a] := by
  rw [List.eraseDups_append]
  by_cases h : a ∈ l
  · simp [List.removeAll, h]
  · simp [List.removeAll, h, List.eraseDups_cons]

theorem nodup_eraseDups (l : List κ) : l.eraseDups.Nodup := by
  induction l using List.reverseRecOn with
  | nil => exact List.nodup_nil
  | append_singleton l a ih =>
      rw [eraseDups_concat]
      split
      · exact ih
      · next ha =>
        rw [← List.concat_eq_append]
        exact ih.concat fun hmem => ha (List.mem_eraseDups.mp hmem)

/-- Only the first occurrences matter for the first occurrences of images. -/
theorem eraseDups_map_eraseDups {κ' : Type} [DecidableEq κ'] (f : κ → κ') (l : List κ) :
    (l.eraseDups.map f).eraseDups = (l.map f).eraseDups := by
  induction l using List.reverseRecOn with
  | nil => rfl
  | append_singleton l a ih =>
      rw [eraseDups_concat, List.map_append, List.map_singleton, eraseDups_concat]
      split
      · next ha => rw [ih, if_pos (List.mem_map_of_mem ha)]
      · rw [List.map_append, List.map_singleton, eraseDups_concat, ih]
        simp only [List.mem_map, List.mem_eraseDups]

/-- Filing a value changes the group of its key only. -/
theorem file_map (k : κ) (v : β) {ks : List κ} (hks : ks.Nodup) (f g : κ → List β)
    (hself : g k = f k ++ [v]) (hothers : ∀ k', k' ≠ k → g k' = f k')
    (hnew : k ∉ ks → f k = []) :
    file k v (ks.map fun k' => (k', f k')) =
      (if k ∈ ks then ks else ks ++ [k]).map fun k' => (k', g k') := by
  induction ks with
  | nil => simp [file, hself, hnew]
  | cons k' ks ih =>
      obtain ⟨hk', hks⟩ := List.nodup_cons.mp hks
      rw [List.map_cons, file]
      split
      · next hsame =>
        subst hsame
        have hrest : ks.map (fun k' => (k', f k')) = ks.map (fun k' => (k', g k')) := by
          apply List.map_congr_left
          intro other hother
          rw [hothers other fun h => hk' (h ▸ hother)]
        rw [if_pos List.mem_cons_self, List.map_cons, hself, hrest]
      · next hne =>
        have hmem : k ∈ k' :: ks ↔ k ∈ ks := by simp [Ne.symm hne]
        rw [ih hks fun hno => hnew (hmem.not.mpr hno), hothers k' hne |>.symm]
        by_cases hin : k ∈ ks
        · rw [if_pos hin, if_pos (hmem.mpr hin), List.map_cons]
        · rw [if_neg hin, if_neg (hmem.not.mpr hin), List.cons_append, List.map_cons]

/-- **What the filing builds.** -/
theorem grouped_eq (key : α → Option κ) (value : α → β) (rows : List α) :
    grouped key value rows =
      (keys key rows).map fun k => (k, (rowsOf key rows k).map value) := by
  induction rows using List.reverseRecOn with
  | nil => rfl
  | append_singleton rows row ih =>
      unfold grouped at ih ⊢
      rw [List.foldl_append, ih, List.foldl_cons, List.foldl_nil]
      cases hkey : key row with
      | none => simp [keys, rowsOf, List.filterMap_append, hkey]
      | some k =>
          have hkeys : keys key (rows ++ [row]) =
              if k ∈ keys key rows then keys key rows else keys key rows ++ [k] := by
            unfold keys
            rw [List.filterMap_append, List.filterMap_cons_some hkey, List.filterMap_nil,
              eraseDups_concat]
            simp only [List.mem_eraseDups]
          rw [hkeys]
          refine file_map k (value row) (nodup_eraseDups _) _ _ ?_ ?_ ?_
          · simp [rowsOf, hkey]
          · intro k' hne
            have hother : ¬ key row = some k' := fun h =>
              hne (Option.some.inj (h.symm.trans hkey))
            simp [rowsOf, hother]
          · intro hno
            have hnone : ∀ old ∈ rows, ¬ key old = some k := fun old hold hsame =>
              hno (List.mem_eraseDups.mpr (List.mem_filterMap.mpr ⟨old, hold, hsame⟩))
            simp only [rowsOf, List.map_eq_nil_iff, List.filter_eq_nil_iff, decide_eq_true_eq]
            exact hnone

theorem nodup_keys (key : α → Option κ) (rows : List α) : (keys key rows).Nodup :=
  nodup_eraseDups _

theorem mem_keys {key : α → Option κ} {rows : List α} {k : κ} :
    k ∈ keys key rows ↔ ∃ row ∈ rows, key row = some k := by
  rw [keys, List.mem_eraseDups, List.mem_filterMap]

theorem mem_rowsOf {key : α → Option κ} {rows : List α} {k : κ} {row : α} :
    row ∈ rowsOf key rows k ↔ row ∈ rows ∧ key row = some k := by
  rw [rowsOf, List.mem_filter, decide_eq_true_eq]

/-- The group of a key that comes up is not empty. -/
theorem rowsOf_ne_nil {key : α → Option κ} {rows : List α} {k : κ} (h : k ∈ keys key rows) :
    rowsOf key rows k ≠ [] := by
  obtain ⟨row, hrow, hkey⟩ := mem_keys.mp h
  exact List.ne_nil_of_mem (mem_rowsOf.mpr ⟨hrow, hkey⟩)

/-- **Selecting whole groups.**  The rows of the groups whose key passes a test
are the rows whose key passes it. -/
theorem flatMap_grouped_perm (key : α → Option κ) (rows : List α) (test : κ → Bool)
    (hrows : rows.Nodup) :
    (((grouped key id rows).filter (fun group => test group.1)).flatMap (·.2)).Perm
      (rows.filter (fun row => (key row).any test)) := by
  have hgroups : ((grouped key id rows).filter (fun group => test group.1)).flatMap (·.2) =
      ((keys key rows).filter test).flatMap (rowsOf key rows) := by
    simp only [grouped_eq, List.map_id, List.filter_map, List.flatMap_map, Function.comp_def]
  rw [hgroups]
  refine (List.perm_ext_iff_of_nodup (List.nodup_flatMap.mpr ⟨?_, ?_⟩) (hrows.filter _)).mpr ?_
  · exact fun k _ => hrows.filter _
  · apply ((nodup_keys key rows).filter _).imp
    intro k k' hne row hrow hrow'
    exact hne (Option.some.inj ((mem_rowsOf.mp hrow).2.symm.trans (mem_rowsOf.mp hrow').2))
  · intro row
    simp only [List.mem_flatMap, List.mem_filter, mem_keys, mem_rowsOf, Option.any_eq_true]
    constructor
    · intro h
      obtain ⟨k, ⟨-, htest⟩, hrow, hkey⟩ := h
      exact ⟨hrow, k, hkey, htest⟩
    · intro h
      obtain ⟨hrow, k, hkey, htest⟩ := h
      exact ⟨k, ⟨⟨row, hrow, hkey⟩, htest⟩, hrow, hkey⟩

/-- **Grouping the groups.**  Rows that are grouped under pairs, and their
groups under the first of the pair. -/
theorem grouped_grouped {κ' γ : Type} [DecidableEq κ'] (key : α → Option (κ × κ'))
    (value : (κ × κ') × List α → γ) (rows : List α) :
    grouped (fun group => some group.1.1) value (grouped key id rows) =
      (keys (fun row => (key row).map (·.1)) rows).map fun k =>
        (k, ((keys key rows).filter (fun p => decide (p.1 = k))).map
          fun p => value (p, rowsOf key rows p)) := by
  have hpairs : grouped key id rows = (keys key rows).map fun p => (p, rowsOf key rows p) := by
    simp only [grouped_eq, List.map_id]
  have hfirst : keys (fun group : (κ × κ') × List α => some group.1.1)
      ((keys key rows).map fun p => (p, rowsOf key rows p)) =
        keys (fun row => (key row).map (·.1)) rows := by
    rw [keys, List.filterMap_map]
    show ((keys key rows).filterMap (fun p => some p.1)).eraseDups = _
    rw [List.filterMap_eq_map', keys, eraseDups_map_eraseDups, List.map_filterMap]
    rfl
  rw [hpairs, grouped_eq, hfirst]
  apply List.map_congr_left
  intro k _
  simp only [rowsOf, List.filter_map, List.map_map, Function.comp_def, Option.some.injEq]

end Grouping
