import Mathlib.Data.List.Basic

/-!
# Pools

A pool is a list whose places are parties that advance one at a time.  What one
step changes is a single place, or a new party at the end.
-/

namespace Pools

variable {α : Type}

/-- Replacing a party changes the number of parties of a kind by that party. -/
theorem countP_set {p : α → Bool} {pool : List α} {i : Nat} {old : α} (new : α)
    (hold : pool[i]? = some old) :
    (pool.set i new).countP p + (if p old then 1 else 0) =
      pool.countP p + (if p new then 1 else 0) := by
  obtain ⟨hi, rfl⟩ := List.getElem?_eq_some_iff.mp hold
  have hcounted : (if p pool[i] then 1 else 0) ≤ pool.countP p := by
    split
    · next hp => exact List.countP_pos_iff.mpr ⟨_, List.getElem_mem hi, hp⟩
    · exact Nat.zero_le _
  rw [List.countP_set hi]
  omega

/-- At the place of the replaced party is the new one, elsewhere nothing changes. -/
theorem getElem?_set_cases {pool : List α} {i k : Nat} {new a : α}
    (h : (pool.set k new)[i]? = some a) : i = k ∧ a = new ∨ i ≠ k ∧ pool[i]? = some a := by
  by_cases hik : i = k
  · subst hik
    rw [List.getElem?_set_self'] at h
    obtain ⟨_, _, rfl⟩ := Option.map_eq_some_iff.mp h
    exact Or.inl ⟨rfl, rfl⟩
  · rw [List.getElem?_set_ne (Ne.symm hik)] at h
    exact Or.inr ⟨hik, h⟩

/-- What a replacement does not change stays at its place. -/
theorem getElem?_set_keeps {β : Type} {pool : List α} {i k : Nat} {old new a : α} (f : α → β)
    (hold : pool[k]? = some old) (hsame : f new = f old) (ha : pool[i]? = some a) :
    ∃ b, (pool.set k new)[i]? = some b ∧ f b = f a := by
  by_cases hik : i = k
  · subst hik
    obtain rfl := Option.some.inj (hold.symm.trans ha)
    exact ⟨new, List.getElem?_set_self (List.getElem?_eq_some_iff.mp hold).1, hsame⟩
  · exact ⟨a, (List.getElem?_set_ne (Ne.symm hik)).trans ha, rfl⟩

/-- A party of a pool that one has joined was there, or has joined. -/
theorem getElem?_concat_cases {pool : List α} {i : Nat} {new a : α}
    (h : (pool ++ [new])[i]? = some a) : pool[i]? = some a ∨ i = pool.length ∧ a = new := by
  rw [List.getElem?_append] at h
  split at h
  · exact Or.inl h
  · obtain ⟨hi, ha⟩ := List.getElem?_eq_some_iff.mp h
    simp only [List.length_singleton] at hi
    refine Or.inr ⟨by omega, ?_⟩
    rw [← ha, List.getElem_singleton]

/-- Who joins a pool moves nobody. -/
theorem getElem?_concat_of_some {pool : List α} {i : Nat} {a : α} (new : α)
    (h : pool[i]? = some a) : (pool ++ [new])[i]? = some a := by
  obtain ⟨hi, _⟩ := List.getElem?_eq_some_iff.mp h
  rw [List.getElem?_append_left hi, h]

/-- A party that is not the replaced one stays. -/
theorem mem_set_of_ne {pool : List α} {i : Nat} {old a : α} (new : α)
    (hold : pool[i]? = some old) (ha : a ∈ pool) (hne : a ≠ old) : a ∈ pool.set i new := by
  obtain ⟨j, hj⟩ := List.mem_iff_getElem?.mp ha
  have hij : i ≠ j := by
    intro h
    subst h
    exact hne (Option.some.inj (hj.symm.trans hold))
  exact List.mem_of_getElem? (by rw [List.getElem?_set_ne hij, hj])

/-- The new party is in the pool. -/
theorem mem_set_self {pool : List α} {i : Nat} {old : α} (new : α) (hold : pool[i]? = some old) :
    new ∈ pool.set i new := by
  obtain ⟨hi, _⟩ := List.getElem?_eq_some_iff.mp hold
  exact List.mem_set hi new

end Pools
