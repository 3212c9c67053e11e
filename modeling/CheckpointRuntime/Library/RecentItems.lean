import Mathlib.Data.List.DropRight

/-!
# The recent items of a stream

A reader that keeps the last items of a stream, and perhaps only the first one with
each key, ends with what a function of the whole stream gives: `push_rtake` and
`firstSeen_append` are what one more item does to it.
-/

namespace RecentItems

variable {α κ : Type}

/-- Put an item behind the last `most - 1` of those that are kept. -/
def push (most : Nat) (kept : List α) (item : α) : List α := kept.rtake (most - 1) ++ [item]

theorem rtake_rtake (l : List α) (m n : Nat) : (l.rtake n).rtake m = l.rtake (min m n) := by
  simp only [List.rtake_eq_reverse_take_reverse, List.reverse_reverse, List.take_take]

/-- **Pushing keeps the last items of all.** -/
theorem push_rtake {most : Nat} (hmost : 0 < most) (l : List α) (item : α) :
    push most (l.rtake most) item = (l ++ [item]).rtake most := by
  obtain ⟨k, rfl⟩ := Nat.exists_eq_succ_of_ne_zero hmost.ne'
  rw [push, rtake_rtake, List.rtake_concat_succ, Nat.succ_sub_one, Nat.min_eq_left k.le_succ]

section
variable [DecidableEq κ] (key : α → κ)

/-- The first item with each key. -/
def firstSeen : List α → List α
  | [] => []
  | x :: xs => x :: (firstSeen xs).filter fun y => key y ≠ key x

theorem mem_map_firstSeen {l : List α} {k : κ} :
    k ∈ (firstSeen key l).map key ↔ k ∈ l.map key := by
  induction l with
  | nil => exact Iff.rfl
  | cons x xs ih =>
      show k ∈ key x :: ((firstSeen key xs).filter _).map key ↔ k ∈ key x :: xs.map key
      rw [List.mem_cons, List.mem_cons, ← ih]
      constructor
      · intro h
        exact h.imp_right fun hmem => List.map_subset key (List.filter_subset_self _) hmem
      · intro h
        by_cases hsame : k = key x
        · exact Or.inl hsame
        · obtain ⟨y, hy, rfl⟩ := List.mem_map.mp (h.resolve_left hsame)
          exact Or.inr (List.mem_map_of_mem (List.mem_filter.mpr ⟨hy, decide_eq_true hsame⟩))

/-- **One more item** is kept if its key is new. -/
theorem firstSeen_append (l : List α) (item : α) :
    firstSeen key (l ++ [item]) =
      if key item ∈ l.map key then firstSeen key l else firstSeen key l ++ [item] := by
  induction l with
  | nil => rfl
  | cons x xs ih =>
      show x :: (firstSeen key (xs ++ [item])).filter _ = _
      have hcons : key item ∈ (x :: xs).map key ↔ key item = key x ∨ key item ∈ xs.map key :=
        List.mem_cons
      rw [ih]
      by_cases hmem : key item ∈ xs.map key
      · rw [if_pos hmem, if_pos (hcons.mpr (Or.inr hmem))]
        rfl
      · rw [if_neg hmem, List.filter_append]
        by_cases hsame : key item = key x
        · rw [if_pos (hcons.mpr (Or.inl hsame)), List.filter_cons_of_neg (by simp [hsame]),
            List.filter_nil, List.append_nil]
          rfl
        · rw [if_neg fun h => (hcons.mp h).elim hsame hmem,
            List.filter_cons_of_pos (by simp [hsame]), List.filter_nil]
          rfl

end

end RecentItems
