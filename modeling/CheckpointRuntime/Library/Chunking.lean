import Mathlib.Data.List.Basic

/-!
# Cutting a list into pieces of bounded length

`pieces n l` cuts `l` from the front into pieces of `n` elements, the last one
possibly shorter.  Nothing is lost or reordered (`flatten_pieces`), every piece
is nonempty and within the bound, and a list within the bound is one piece.
-/

namespace Chunking

variable {α : Type}

/-- Cut off pieces while elements are left; `fuel` bounds their number. -/
def piecesUpTo (n : Nat) : Nat → List α → List (List α)
  | 0, _ => []
  | fuel + 1, l => if l.isEmpty then [] else l.take n :: piecesUpTo n fuel (l.drop n)

/-- The pieces of `n` elements of a list; there are at most as many pieces as
elements. -/
def pieces (n : Nat) (l : List α) : List (List α) := piecesUpTo n l.length l

@[simp] theorem pieces_nil (n : Nat) : pieces n ([] : List α) = [] := rfl

/-- Fuel for every element is enough, whatever more there is. -/
theorem piecesUpTo_fuel {n : Nat} (hn : 0 < n) {fuel fuel' : Nat} {l : List α}
    (h : l.length ≤ fuel) (h' : l.length ≤ fuel') :
    piecesUpTo n fuel l = piecesUpTo n fuel' l := by
  induction fuel generalizing fuel' l with
  | zero =>
      obtain rfl : l = [] := List.length_eq_zero_iff.mp (by omega)
      cases fuel' <;> rfl
  | succ fuel ih =>
      cases l with
      | nil => cases fuel' <;> rfl
      | cons a l =>
          obtain ⟨m, rfl⟩ : ∃ m, fuel' = m + 1 :=
            ⟨fuel' - 1, by simp only [List.length_cons] at h'; omega⟩
          have hdrop : ((a :: l).drop n).length ≤ l.length := by
            rw [List.length_drop, List.length_cons]
            omega
          simp only [List.length_cons] at h h'
          have hleft : ((a :: l).drop n).length ≤ fuel := by omega
          have hleft' : ((a :: l).drop n).length ≤ m := by omega
          have hrest := ih hleft hleft'
          simp only [piecesUpTo, hrest]

/-- The pieces of a nonempty list: the first one, and those of the rest. -/
theorem pieces_of_ne_nil {n : Nat} (hn : 0 < n) {l : List α} (h : l ≠ []) :
    pieces n l = l.take n :: pieces n (l.drop n) := by
  cases l with
  | nil => exact absurd rfl h
  | cons a l =>
      have hdrop : ((a :: l).drop n).length ≤ l.length := by
        rw [List.length_drop, List.length_cons]
        omega
      have hfuel := piecesUpTo_fuel hn hdrop (Nat.le_refl _)
      simp only [pieces, List.length_cons, piecesUpTo, List.isEmpty_cons, Bool.false_eq_true,
        if_false, hfuel]

/-- Reason about the pieces of a list as they are cut off. -/
theorem pieces_induction {n : Nat} (hn : 0 < n) {motive : List α → Prop}
    (nil : motive []) (cut : ∀ l, l ≠ [] → motive (l.drop n) → motive l) (l : List α) :
    motive l := by
  induction hlen : l.length using Nat.strongRecOn generalizing l with
  | ind k ih =>
      cases l with
      | nil => exact nil
      | cons a l =>
          apply cut _ (List.cons_ne_nil a l)
          apply ih _ _ _ rfl
          rw [← hlen, List.length_drop, List.length_cons]
          omega

/-- Putting the pieces together gives the list back. -/
theorem flatten_pieces {n : Nat} (hn : 0 < n) (l : List α) : (pieces n l).flatten = l := by
  induction l using pieces_induction hn with
  | nil => rfl
  | cut l hne ih =>
      rw [pieces_of_ne_nil hn hne, List.flatten_cons, ih, List.take_append_drop]

/-- Every piece is nonempty and within the bound. -/
theorem length_of_mem_pieces {n : Nat} (hn : 0 < n) {l piece : List α}
    (h : piece ∈ pieces n l) : 0 < piece.length ∧ piece.length ≤ n := by
  induction l using pieces_induction hn with
  | nil => cases h
  | cut l hne ih =>
      rw [pieces_of_ne_nil hn hne] at h
      rcases List.mem_cons.mp h with rfl | hrest
      · have hpos := List.length_pos_iff.mpr hne
        rw [List.length_take]
        omega
      · exact ih hrest

/-- A nonempty list within the bound is a single piece. -/
theorem pieces_of_length_le {n : Nat} (hn : 0 < n) {l : List α} (hne : l ≠ [])
    (h : l.length ≤ n) : pieces n l = [l] := by
  rw [pieces_of_ne_nil hn hne, List.take_of_length_le h, List.drop_eq_nil_of_le h, pieces_nil]

/-- A nonempty list has at least one piece. -/
theorem pieces_ne_nil {n : Nat} (hn : 0 < n) {l : List α} (hne : l ≠ []) :
    pieces n l ≠ [] := by
  rw [pieces_of_ne_nil hn hne]
  exact List.cons_ne_nil _ _

/-- The length of pieces that all have `n` elements. -/
theorem length_flatten_of_length {n : Nat} {parts : List (List α)}
    (h : ∀ part ∈ parts, part.length = n) : parts.flatten.length = parts.length * n := by
  rw [List.length_flatten, List.map_congr_left h, List.map_const', List.sum_replicate_nat]

/-- A piece starts at every multiple of the bound within the list. -/
theorem lt_length_pieces_iff {n : Nat} (hn : 0 < n) {l : List α} {k : Nat} :
    k < (pieces n l).length ↔ k * n < l.length := by
  induction l using pieces_induction hn generalizing k with
  | nil => simp
  | cut l hne ih =>
      have hpos := List.length_pos_iff.mpr hne
      rw [pieces_of_ne_nil hn hne, List.length_cons]
      cases k with
      | zero =>
          rw [Nat.zero_mul]
          exact iff_of_true (Nat.succ_pos _) hpos
      | succ k =>
          rw [Nat.succ_lt_succ_iff, ih, List.length_drop, Nat.add_one_mul]
          omega

/-- Pieces of `n` elements with a last one that is not empty and not longer are
the pieces of what they make up. -/
theorem eq_pieces {n : Nat} (hn : 0 < n) {parts : List (List α)}
    (hfull : ∀ part ∈ parts.dropLast, part.length = n)
    (hlast : ∀ part, parts.getLast? = some part → 0 < part.length ∧ part.length ≤ n) :
    parts = pieces n parts.flatten := by
  induction parts with
  | nil => rfl
  | cons part parts ih =>
      cases parts with
      | nil =>
          obtain ⟨hpos, hle⟩ := hlast part rfl
          rw [List.flatten_cons, List.flatten_nil, List.append_nil,
            pieces_of_length_le hn (List.length_pos_iff.mp hpos) hle]
      | cons next parts =>
          have hpart : part.length = n := hfull part (by simp)
          have hne : (part :: next :: parts).flatten ≠ [] := by
            rw [List.flatten_cons, ← List.length_pos_iff, List.length_append]
            omega
          have hrest := ih (fun other hother => hfull other (by
              rw [List.dropLast_cons_cons]
              exact List.mem_cons_of_mem _ hother))
            fun other hother => hlast other (by rw [List.getLast?_cons_cons]; exact hother)
          rw [pieces_of_ne_nil hn hne, List.flatten_cons, List.take_append_of_le_length (by omega),
            List.take_of_length_le (by omega), List.drop_append_of_le_length (by omega),
            List.drop_eq_nil_of_le (by omega), List.nil_append, ← hrest]

end Chunking
