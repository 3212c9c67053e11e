import CheckpointRuntime.Library.KeyedTable
import CheckpointRuntime.Library.StableListing

/-!
# Tables that are parts of a table

A table of rows of several kinds can be kept as one table for each kind.  What
is found, written and erased in it is found, written and erased in the parts,
as long as a key tells the kind of its row.  A part may also be kept in the
order of its keys: it is then the listing of the part.
-/

namespace KeyedTable

open StableListing

section
variable {α β κ : Type} [DecidableEq κ] {key : α → κ} {key' : β → κ} {f : β → Option α}

/-- A part finds what is found and selected. -/
theorem Table.find_part (t : Table β key') (part : Table α key)
    (hkeys : ∀ b ∈ t.rows, ∀ a, f b = some a → key a = key' b)
    (hrows : ∀ a, a ∈ part.rows ↔ a ∈ t.rows.filterMap f) (k : κ) :
    part.find k = (t.find k).bind f := by
  ext a
  rw [part.find_eq_some_iff, hrows, List.mem_filterMap, Option.bind_eq_some_iff]
  constructor
  · intro h
    obtain ⟨⟨b, hb, hselect⟩, rfl⟩ := h
    exact ⟨b, t.find_eq_some_iff.mpr ⟨hb, (hkeys b hb a hselect).symm⟩, hselect⟩
  · intro h
    obtain ⟨b, hfind, hselect⟩ := h
    obtain ⟨hb, rfl⟩ := t.find_eq_some_iff.mp hfind
    exact ⟨⟨b, hb, hselect⟩, hkeys b hb a hselect⟩

/-- Erasing and then selecting is selecting and then erasing. -/
theorem filterMap_erase {rows : List β}
    (hkeys : ∀ b ∈ rows, ∀ a, f b = some a → key a = key' b) (k : κ) :
    (rows.filter fun b => decide (key' b ≠ k)).filterMap f =
      (rows.filterMap f).filter fun a => decide (key a ≠ k) := by
  rw [List.filterMap_filter, List.filter_filterMap]
  apply List.filterMap_congr
  intro b hb
  cases hselect : f b with
  | none => simp
  | some a => simp [hkeys b hb a hselect, Option.filter]

/-- Selecting after a write, if the row that is replaced is selected exactly if
the new one is. -/
theorem filterMap_putRows_some {new : β} {a : α} {rows : List β}
    (hnew : f new = some a) (ha : key a = key' new)
    (hkeys : ∀ b ∈ rows, ∀ x, f b = some x → key x = key' b)
    (hkind : ∀ b ∈ rows, key' b = key' new → (f b).isSome = true) :
    (putRows .atEnd key' new rows).filterMap f = putRows .atEnd key a (rows.filterMap f) := by
  have hmem : key a ∈ (rows.filterMap f).map key ↔ key' new ∈ rows.map key' := by
    simp only [List.mem_map, List.mem_filterMap]
    constructor
    · intro h
      obtain ⟨x, ⟨b, hb, hx⟩, hkey⟩ := h
      exact ⟨b, hb, by rw [← hkeys b hb x hx, hkey, ha]⟩
    · intro h
      obtain ⟨b, hb, hkey⟩ := h
      obtain ⟨x, hx⟩ := Option.isSome_iff_exists.mp (hkind b hb hkey)
      exact ⟨x, ⟨b, hb, hx⟩, by rw [hkeys b hb x hx, hkey, ha]⟩
  unfold putRows
  by_cases hpresent : key' new ∈ rows.map key'
  · rw [if_pos hpresent, if_pos (hmem.mpr hpresent), List.filterMap_map, List.map_filterMap]
    apply List.filterMap_congr
    intro b hb
    rw [Function.comp_apply]
    cases hb' : f b with
    | none =>
        have hother : key' b ≠ key' new := by
          intro hkey
          have := hkind b hb hkey
          rw [hb'] at this
          cases this
        rw [if_neg hother, hb', Option.map_none]
    | some x =>
        have hx := hkeys b hb x hb'
        by_cases hkey : key' b = key' new
        · rw [if_pos hkey, hnew, Option.map_some, if_pos (by rw [hx, hkey, ha])]
        · rw [if_neg hkey, hb', Option.map_some, if_neg (by rwa [hx, ha])]
  · rw [if_neg hpresent, if_neg (fun h => hpresent (hmem.mp h))]
    show (rows ++ [new]).filterMap f = rows.filterMap f ++ [a]
    rw [List.filterMap_append, List.filterMap_cons_some hnew]
    rfl

/-- What is not selected is not noticed, if it replaces nothing that is selected. -/
theorem filterMap_putRows_none {new : β} {rows : List β}
    (hnew : f new = none) (hkind : ∀ b ∈ rows, key' b = key' new → f b = none) :
    (putRows .atEnd key' new rows).filterMap f = rows.filterMap f := by
  unfold putRows
  split
  · rw [List.filterMap_map]
    apply List.filterMap_congr
    intro b hb
    rw [Function.comp_apply]
    split
    · next hkey => rw [hnew, hkind b hb hkey]
    · rfl
  · show (rows ++ [new]).filterMap f = rows.filterMap f
    rw [List.filterMap_append, List.filterMap_cons_none hnew]
    exact List.append_nil _

end

section
variable {α κ : Type} [LinearOrder κ] {key : α → κ}

/-- A store that keeps its keys sorted has the listing of an insertion-ordered
one. -/
theorem putRows_byKey {rows : List α} (hkeys : (rows.map key).Nodup) (a : α) :
    putRows .byKey key a (byKey key rows) = byKey key (putRows .atEnd key a rows) := by
  have hmem : key a ∈ (byKey key rows).map key ↔ key a ∈ rows.map key :=
    ((perm_byKey key rows).map key).mem_iff
  unfold putRows
  by_cases hpresent : key a ∈ rows.map key
  · rw [if_pos hpresent, if_pos (hmem.mpr hpresent)]
    apply List.map_insertionSort _ _ _ _
    intro x _ y _
    have hsame : ∀ z, key (if key z = key a then a else z) = key z := by
      intro z
      split
      · next hkey => exact hkey.symm
      · rfl
    rw [hsame, hsame]
  · rw [if_neg hpresent, if_neg fun h => hpresent (hmem.mp h)]
    have hperm : ((byKey key rows).orderedInsert (fun x y => key x ≤ key y) a).Perm
        (byKey key (rows ++ [a])) :=
      (List.perm_orderedInsert _ _ _).trans (((perm_byKey key rows).cons a).trans
        ((List.perm_append_singleton a rows).symm.trans (perm_byKey key _).symm))
    have hnodup : ((a :: rows).map key).Nodup := List.nodup_cons.mpr ⟨hpresent, hkeys⟩
    have hrow : ∀ x, x ∈ byKey key (rows ++ [a]) → x ∈ a :: rows := by
      intro x hx
      rw [mem_byKey, List.mem_append, List.mem_singleton] at hx
      exact List.mem_cons.mpr hx.symm
    refine List.Perm.eq_of_pairwise ?_ ?_ (pairwise_byKey key _) hperm
    · intro x y hx hy hle hge
      exact List.inj_on_of_nodup_map hnodup (hrow x (hperm.mem_iff.mp hx)) (hrow y hy)
        (le_antisymm hle hge)
    · have : IsTrans α (fun a b => key a ≤ key b) := ⟨fun _ _ _ => le_trans⟩
      have : Std.Total (fun a b => key a ≤ key b) := ⟨fun a b => le_total (key a) (key b)⟩
      exact (pairwise_byKey key rows).orderedInsert a _

end

end KeyedTable
