import Mathlib.Order.MinMax

/-!
# Naming the largest

Things with an id and a key, as a relation, and an id that is kept beside them.
The id names the largest if its key is above every other key; without an id
there is nothing to name.  Such a name is lost when the thing is removed and
when another one comes with a key that is not smaller, and at no other time.
-/

namespace UniqueLargest

variable {ι κ : Type} [LinearOrder κ] {P Q : ι → κ → Prop} {point : Option ι}

/-- The id has a key above all others. -/
def Names (P : ι → κ → Prop) : Option ι → Prop
  | none => ∀ i k, ¬ P i k
  | some i => ∃ k, P i k ∧ ∀ j k', P j k' → j ≠ i → k' < k

/-- The id has a key that no other exceeds. -/
def NamesLargest (P : ι → κ → Prop) : Option ι → Prop
  | none => ∀ i k, ¬ P i k
  | some i => ∃ k, P i k ∧ ∀ j k', P j k' → k' ≤ k

/-- A key that two share is not the largest. -/
def Untied (P : ι → κ → Prop) : Prop :=
  ∀ i j k, P i k → P j k → i ≠ j → ∃ i' k', P i' k' ∧ k < k'

theorem names_congr (h : ∀ i k, Q i k ↔ P i k) (point : Option ι) :
    Names Q point ↔ Names P point := by
  obtain rfl : Q = P := funext fun i => funext fun k => propext (h i k)
  exact Iff.rfl

/-- Without a tie for the largest key, having it is naming it. -/
theorem NamesLargest.names_iff_untied (h : NamesLargest P point) :
    Names P point ↔ Untied P := by
  cases point with
  | none => exact ⟨fun _ i j k hi => absurd hi (h i k), fun _ => h⟩
  | some i =>
      obtain ⟨k, hi, hlargest⟩ := h
      constructor
      · intro h a b k' ha hb hne
        obtain ⟨top, htop, habove⟩ := h
        -- one of the two that share a key is not the one that is named
        refine ⟨i, top, htop, ?_⟩
        by_cases hai : a = i
        · exact habove b k' hb (hai ▸ hne.symm)
        · exact habove a k' ha hai
      · intro huntied
        refine ⟨k, hi, fun j k' hj hne => lt_of_le_of_ne (hlargest j k' hj) ?_⟩
        intro h
        subst h
        obtain ⟨top, k'', htop, hlt⟩ := huntied j i k' hj hi hne
        exact absurd (hlargest top k'' htop) (not_le.mpr hlt)

/-- Removing one thing loses the name if and only if it was named. -/
theorem Names.removed_iff {gone : ι} (h : Names P point) (hgone : ∃ k, P gone k)
    (hQ : ∀ i k, Q i k ↔ P i k ∧ i ≠ gone) : Names Q point ↔ point ≠ some gone := by
  obtain ⟨goneKey, hgone⟩ := hgone
  cases point with
  | none => exact absurd hgone (h gone goneKey)
  | some i =>
      obtain ⟨k, hi, habove⟩ := h
      constructor
      · intro h hsame
        obtain ⟨_, hleft, _⟩ := h
        exact ((hQ i _).mp hleft).2 (Option.some.inj hsame)
      · intro hne
        exact ⟨k, (hQ i k).mpr ⟨hi, fun hsame => hne (congrArg some hsame)⟩,
          fun j k' hj => habove j k' ((hQ j k').mp hj).1⟩

/-- Adding one thing keeps the name if and only if its key is smaller. -/
theorem Names.added_iff {new : ι} {newKey : κ} (h : Names P point) (hnew : ∀ k, ¬ P new k)
    (hQ : ∀ i k, Q i k ↔ P i k ∨ i = new ∧ k = newKey) :
    Names Q point ↔ ∃ i k, point = some i ∧ P i k ∧ newKey < k := by
  have hadded : Q new newKey := (hQ new newKey).mpr (Or.inr ⟨rfl, rfl⟩)
  cases point with
  | none =>
      refine ⟨fun hnone => absurd hadded (hnone new newKey), ?_⟩
      intro h
      obtain ⟨i, k, hnone, _⟩ := h
      cases hnone
  | some i =>
      obtain ⟨top, htop, habove⟩ := h
      have hne : new ≠ i := fun hsame => hnew top (hsame ▸ htop)
      constructor
      · intro h
        obtain ⟨k, hk, hlarger⟩ := h
        have hold : P i k := ((hQ i k).mp hk).resolve_right fun hsame => hne hsame.1.symm
        exact ⟨i, k, rfl, hold, hlarger new newKey hadded hne⟩
      · intro h
        obtain ⟨i', k, hsame, hk, hlt⟩ := h
        obtain rfl := Option.some.inj hsame
        -- the larger of the two keys of the named one is above all others
        refine ⟨max top k, ?_, fun j k' hj hji => ?_⟩
        · rcases max_choice top k with hmax | hmax
          · rw [hmax]
            exact (hQ i top).mpr (Or.inl htop)
          · rw [hmax]
            exact (hQ i k).mpr (Or.inl hk)
        · rcases (hQ j k').mp hj with hold | ⟨_, rfl⟩
          · exact lt_max_of_lt_left (habove j k' hold hji)
          · exact lt_max_of_lt_right hlt

end UniqueLargest
