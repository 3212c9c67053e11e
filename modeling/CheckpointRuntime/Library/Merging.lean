import CheckpointRuntime.Library.PartialRun
import Mathlib.Data.List.Perm.Subperm

/-!
# Merging sources into one queue

Several sources put their items into one queue, and a mark behind the last of them;
a merger passes the items on and counts the marks, until it has counted one for each
source.  A source may also fail, and then leaves no mark.

`given_of_step` says that the items of each source stay in their order and that none
is lost or doubled; `drained` says that a merger that has stopped has passed on all
of them.
-/

namespace Merging

open PartialRun

variable {α : Type}

/-- Which sources still run, the queue, in which `none` is a mark, and what has been
passed on.  Everything carries the position of its source. -/
structure Merge (α : Type) where
  running : List Bool
  queue : List (Nat × Option α) := []
  doneCount : Nat := 0
  passed : List (Nat × α) := []

inductive Op (α : Type)
  | put (source : Nat) (item : α)
  | finish (source : Nat)
  | fail (source : Nat)
  | pass

namespace Merge

def start (sources : Nat) : Merge α where
  running := List.replicate sources true

def step (m : Merge α) : Op α → Option (Merge α)
  | .put source item =>
      if m.running[source]? = some true then
        some { m with queue := m.queue ++ [(source, some item)] }
      else none
  | .finish source =>
      if m.running[source]? = some true then
        some { m with
          running := m.running.set source false
          queue := m.queue ++ [(source, none)] }
      else none
  | .fail source =>
      if m.running[source]? = some true then
        some { m with running := m.running.set source false }
      else none
  | .pass =>
      if m.doneCount < m.running.length then
        match m.queue with
        | [] => none
        | (source, some item) :: rest =>
            some { m with queue := rest, passed := m.passed ++ [(source, item)] }
        | (_, none) :: rest => some { m with queue := rest, doneCount := m.doneCount + 1 }
      else none

/-- What has been passed on from a source. -/
def passedFrom (source : Nat) (m : Merge α) : List α :=
  m.passed.filterMap fun (i, item) => if i = source then some item else none

/-- What waits in the queue from a source. -/
def waitingFrom (source : Nat) (m : Merge α) : List α :=
  m.queue.filterMap fun (i, item?) => if i = source then item? else none

/-- What a source has put into the queue, passed on or not. -/
def given (source : Nat) (m : Merge α) : List α := m.passedFrom source ++ m.waitingFrom source

@[simp] theorem given_start (source sources : Nat) : (start sources : Merge α).given source = [] :=
  rfl

variable {m m' : Merge α} {op : Op α}

/-- The items that an operation puts for a source. -/
def putBy (source : Nat) : Op α → List α
  | .put i item => if i = source then [item] else []
  | .finish _ | .fail _ | .pass => []

/-- **The items of a source keep their order**, and none is lost or doubled. -/
theorem given_of_step (source : Nat) (h : m.step op = some m') :
    m'.given source = m.given source ++ putBy source op := by
  cases op with
  | put i item =>
      obtain ⟨_, hm⟩ := Option.ite_none_right_eq_some.mp h
      obtain rfl := Option.some.inj hm
      by_cases hi : i = source
      · simp [given, passedFrom, waitingFrom, putBy, hi]
      · simp [given, passedFrom, waitingFrom, putBy, hi]
  | finish i =>
      obtain ⟨_, hm⟩ := Option.ite_none_right_eq_some.mp h
      obtain rfl := Option.some.inj hm
      simp [given, passedFrom, waitingFrom, putBy]
  | fail i =>
      obtain ⟨_, hm⟩ := Option.ite_none_right_eq_some.mp h
      obtain rfl := Option.some.inj hm
      simp [given, passedFrom, waitingFrom, putBy]
  | pass =>
      obtain ⟨_, hm⟩ := Option.ite_none_right_eq_some.mp h
      rw [putBy, List.append_nil]
      rcases hq : m.queue with _ | ⟨⟨i, _ | item⟩, rest⟩
      · rw [hq] at hm
        cases hm
      · rw [hq] at hm
        obtain rfl := Option.some.inj hm
        simp [given, passedFrom, waitingFrom, hq]
      · rw [hq] at hm
        obtain rfl := Option.some.inj hm
        by_cases hi : i = source
        · simp [given, passedFrom, waitingFrom, hq, hi]
        · simp [given, passedFrom, waitingFrom, hq, hi]

theorem length_running_of_step (h : m.step op = some m') :
    m'.running.length = m.running.length := by
  cases op with
  | put i item =>
      obtain rfl := Option.some.inj (Option.ite_none_right_eq_some.mp h).2
      rfl
  | finish i =>
      obtain rfl := Option.some.inj (Option.ite_none_right_eq_some.mp h).2
      exact List.length_set
  | fail i =>
      obtain rfl := Option.some.inj (Option.ite_none_right_eq_some.mp h).2
      exact List.length_set
  | pass =>
      obtain ⟨_, hm⟩ := Option.ite_none_right_eq_some.mp h
      rcases hq : m.queue with _ | ⟨⟨i, _ | item⟩, rest⟩ <;> rw [hq] at hm
      · cases hm
      · obtain rfl := Option.some.inj hm
        rfl
      · obtain rfl := Option.some.inj hm
        rfl

/-- Nothing that was passed on is taken back. -/
theorem passed_of_step (h : m.step op = some m') : m.passed <+: m'.passed := by
  cases op with
  | put i item =>
      obtain rfl := Option.some.inj (Option.ite_none_right_eq_some.mp h).2
      exact List.prefix_rfl
  | finish i =>
      obtain rfl := Option.some.inj (Option.ite_none_right_eq_some.mp h).2
      exact List.prefix_rfl
  | fail i =>
      obtain rfl := Option.some.inj (Option.ite_none_right_eq_some.mp h).2
      exact List.prefix_rfl
  | pass =>
      obtain ⟨_, hm⟩ := Option.ite_none_right_eq_some.mp h
      rcases hq : m.queue with _ | ⟨⟨i, _ | item⟩, rest⟩ <;> rw [hq] at hm
      · cases hm
      · obtain rfl := Option.some.inj hm
        exact List.prefix_rfl
      · obtain rfl := Option.some.inj hm
        exact List.prefix_append ..

/-- The sources whose mark is in a list. -/
def marks (l : List (Nat × Option α)) : List Nat :=
  l.filterMap fun (i, item?) => if item?.isNone then some i else none

/-- The items of a list. -/
def items (l : List (Nat × Option α)) : List (Nat × α) :=
  l.filterMap fun (i, item?) => item?.map (i, ·)

/-- Everything that was ever in the queue, in this order: what was taken out, which
has been passed on or counted, and what still waits. -/
structure Sound (m : Merge α) (taken : List (Nat × Option α)) : Prop where
  passedOn : m.passed = items taken
  counted : m.doneCount = (marks taken).length
  known : ∀ x ∈ taken ++ m.queue, x.1 < m.running.length
  ended : ∀ i, (i, none) ∈ taken ++ m.queue → m.running[i]? = some false
  marksLast : (taken ++ m.queue).Pairwise fun x y => x.2 = none → x.1 ≠ y.1

theorem sound_start (sources : Nat) : (start sources : Merge α).Sound [] where
  passedOn := rfl
  counted := rfl
  known := fun _ h => absurd h List.not_mem_nil
  ended := fun _ h => absurd h List.not_mem_nil
  marksLast := List.Pairwise.nil

theorem mem_marks {l : List (Nat × Option α)} {i : Nat} :
    i ∈ marks l ↔ (i, none) ∈ l := by
  simp only [marks, List.mem_filterMap, Prod.exists]
  constructor
  · intro h
    obtain ⟨j, item?, hmem, hsome⟩ := h
    obtain ⟨hnone, hj⟩ := Option.ite_none_right_eq_some.mp hsome
    rw [Option.isNone_iff_eq_none] at hnone
    exact hnone ▸ Option.some.inj hj ▸ hmem
  · exact fun h => ⟨i, none, h, rfl⟩

/-- A running source puts something behind all that it has put before, since it has
put no mark. -/
theorem Sound.snoc {taken : List (Nat × Option α)} (h : m.Sound taken) {i : Nat}
    (hi : m.running[i]? = some true) (item? : Option α) :
    (taken ++ (m.queue ++ [(i, item?)])).Pairwise fun x y => x.2 = none → x.1 ≠ y.1 := by
  rw [← List.append_assoc, List.pairwise_append]
  refine ⟨h.marksLast, List.pairwise_singleton _ _, ?_⟩
  intro x hx y hy hnone hsame
  obtain rfl := List.mem_singleton.mp hy
  have hended := h.ended x.1 (by rw [← hnone]; exact hx)
  rw [hsame, hi] at hended
  cases hended

theorem Sound.step {taken : List (Nat × Option α)} (h : m.Sound taken)
    (hstep : m.step op = some m') : ∃ taken', m'.Sound taken' := by
  cases op with
  | put i item =>
      obtain ⟨hi, hm⟩ := Option.ite_none_right_eq_some.mp hstep
      obtain rfl := Option.some.inj hm
      have hlt : i < m.running.length := (List.getElem?_eq_some_iff.mp hi).1
      refine ⟨taken, h.passedOn, h.counted, ?_, ?_, h.snoc hi (some item)⟩
      · intro x hx
        rw [← List.append_assoc, List.mem_append, List.mem_singleton] at hx
        rcases hx with hx | rfl
        · exact h.known x hx
        · exact hlt
      · intro j hj
        rw [← List.append_assoc, List.mem_append, List.mem_singleton] at hj
        rcases hj with hj | hj
        · exact h.ended j hj
        · cases hj
  | finish i =>
      obtain ⟨hi, hm⟩ := Option.ite_none_right_eq_some.mp hstep
      obtain rfl := Option.some.inj hm
      have hlt : i < m.running.length := (List.getElem?_eq_some_iff.mp hi).1
      refine ⟨taken, h.passedOn, h.counted, ?_, ?_, h.snoc hi none⟩
      · intro x hx
        rw [← List.append_assoc, List.mem_append, List.mem_singleton] at hx
        rw [List.length_set]
        rcases hx with hx | rfl
        · exact h.known x hx
        · exact hlt
      · intro j hj
        rw [← List.append_assoc, List.mem_append, List.mem_singleton] at hj
        by_cases hij : i = j
        · rw [hij, List.getElem?_set_self (hij ▸ hlt)]
        · rw [List.getElem?_set_ne hij]
          rcases hj with hj | hj
          · exact h.ended j hj
          · exact absurd (congrArg Prod.fst hj).symm hij
  | fail i =>
      obtain ⟨hi, hm⟩ := Option.ite_none_right_eq_some.mp hstep
      obtain rfl := Option.some.inj hm
      have hlt : i < m.running.length := (List.getElem?_eq_some_iff.mp hi).1
      refine ⟨taken, h.passedOn, h.counted, ?_, ?_, h.marksLast⟩
      · intro x hx
        rw [List.length_set]
        exact h.known x hx
      · intro j hj
        by_cases hij : i = j
        · rw [hij, List.getElem?_set_self (hij ▸ hlt)]
        · rw [List.getElem?_set_ne hij]
          exact h.ended j hj
  | pass =>
      obtain ⟨_, hm⟩ := Option.ite_none_right_eq_some.mp hstep
      -- what is taken out goes to the end of what was taken before
      have hmove : ∀ x rest, m.queue = x :: rest → taken ++ m.queue = (taken ++ [x]) ++ rest := by
        intro x rest hq
        rw [hq, List.append_assoc, List.singleton_append]
      rcases hq : m.queue with _ | ⟨⟨i, _ | item⟩, rest⟩
      · rw [hq] at hm
        cases hm
      · rw [hq] at hm
        obtain rfl := Option.some.inj hm
        have hsame := hmove _ _ hq
        refine ⟨taken ++ [(i, none)], ?_, ?_, ?_, ?_, ?_⟩
        · simp [items, h.passedOn]
        · simp [marks, h.counted]
        · exact hsame ▸ h.known
        · exact hsame ▸ h.ended
        · exact hsame ▸ h.marksLast
      · rw [hq] at hm
        obtain rfl := Option.some.inj hm
        have hsame := hmove _ _ hq
        refine ⟨taken ++ [(i, some item)], ?_, ?_, ?_, ?_, ?_⟩
        · simp [items, h.passedOn]
        · simp [marks, h.counted]
        · exact hsame ▸ h.known
        · exact hsame ▸ h.ended
        · exact hsame ▸ h.marksLast

/-- What was passed on came from a source. -/
theorem Sound.source_lt {taken : List (Nat × Option α)} (h : m.Sound taken) {i : Nat} {item : α}
    (hmem : (i, item) ∈ m.passed) : i < m.running.length := by
  rw [h.passedOn] at hmem
  obtain ⟨x, hx, hitem⟩ := List.mem_filterMap.mp hmem
  obtain ⟨_, _, hpair⟩ := Option.map_eq_some_iff.mp hitem
  rw [← show x.1 = i from congrArg Prod.fst hpair]
  exact h.known x (List.mem_append_left _ hx)

theorem nodup_marks {l : List (Nat × Option α)}
    (h : l.Pairwise fun x y => x.2 = none → x.1 ≠ y.1) : (marks l).Nodup := by
  refine List.Pairwise.filterMap _ ?_ h
  intro x y hxy i hi j hj
  obtain ⟨hx, hi⟩ := Option.ite_none_right_eq_some.mp hi
  obtain ⟨_, hj⟩ := Option.ite_none_right_eq_some.mp hj
  exact Option.some.inj hi ▸ Option.some.inj hj ▸ hxy (Option.isNone_iff_eq_none.mp hx)

/-- **A merger that has stopped has passed on everything** that its sources have put,
and every source has put its mark. -/
theorem Sound.drained {taken : List (Nat × Option α)} (h : m.Sound taken)
    (hdone : m.doneCount = m.running.length) {source : Nat} (hsource : source < m.running.length) :
    m.running[source]? = some false ∧ m.waitingFrom source = [] := by
  obtain ⟨htaken, _, hacross⟩ := List.pairwise_append.mp h.marksLast
  have hsubset : marks taken ⊆ List.range m.running.length := by
    intro i hi
    exact List.mem_range.mpr (h.known (i, none) (List.mem_append_left _ (mem_marks.mp hi)))
  have hperm : (marks taken).Perm (List.range m.running.length) :=
    (List.subperm_of_subset (nodup_marks htaken) hsubset).perm_of_length_le
      (Nat.le_of_eq (List.length_range.trans (hdone.symm.trans h.counted)))
  have hmark : (source, none) ∈ taken :=
    mem_marks.mp (hperm.mem_iff.mpr (List.mem_range.mpr hsource))
  refine ⟨h.ended source (List.mem_append_left _ hmark), ?_⟩
  rw [waitingFrom, List.filterMap_eq_nil_iff]
  intro y hy
  exact if_neg fun hsame => hacross _ hmark y hy rfl hsame.symm

end Merge

end Merging
