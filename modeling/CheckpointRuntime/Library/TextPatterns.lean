import Mathlib.Data.List.TakeWhile

/-!
# Patterns over texts

Regular expressions that are a sequence of literals and of runs of a character
class, with a backtracking matcher: a run takes as many characters as it can and
gives them back one by one.  Where no run can be followed by a character of its
own class the matcher does not backtrack (`matchHere_run`), so that a match can be
calculated piece by piece, and so can its absence.
-/

namespace TextPatterns

abbrev Text := List Char

/-- A part of a pattern: a literal, or a run of at least some number of characters of
a class, which may be a group that captures. -/
inductive Piece
  | literal (c : Char)
  | run (least : Nat) (ofClass : Char → Bool) (captured : Bool)
  /-- The end of the text. -/
  | final

abbrev Pattern := List Piece

/-- A word as a sequence of literals. -/
def word (w : String) : Pattern := w.toList.map .literal

section
variable {β : Type}

/-- Try the rest of a pattern behind the first `least + k` characters of a text, then
behind one less, and so on. -/
def longestFirst (rest : Text → Option β) (s : Text) (least : Nat) : Nat → Option (Text × β)
  | 0 => (rest (s.drop least)).map fun found => (s.take least, found)
  | k + 1 =>
      match rest (s.drop (least + k + 1)) with
      | some found => some (s.take (least + k + 1), found)
      | none => longestFirst rest s least k

end

/-- Match a pattern at the start of a text; the result are the groups. -/
def matchHere : Pattern → Text → Option (List Text)
  | [], _ => some []
  | .literal _ :: _, [] => none
  | .literal c :: ps, x :: s => if x = c then matchHere ps s else none
  | .run least ofClass captured :: ps, s =>
      let most := (s.takeWhile ofClass).length
      if most < least then none
      else (longestFirst (matchHere ps) s least (most - least)).map fun (taken, groups) =>
        if captured then taken :: groups else groups
  | .final :: ps, s => if s = [] then matchHere ps s else none

/-- The groups of the leftmost match of a pattern in a text. -/
def exec (pattern : Pattern) : Text → Option (List Text)
  | [] => matchHere pattern []
  | c :: s => (matchHere pattern (c :: s)).or (exec pattern s)

/-! ## Matching piece by piece -/

section
variable {ps : Pattern} {s tail run : Text} {c x : Char} {least : Nat} {ofClass : Char → Bool}
  {captured : Bool}

@[simp] theorem matchHere_nil (s : Text) : matchHere [] s = some [] := by
  unfold matchHere
  rfl

@[simp] theorem matchHere_literal (c x : Char) (ps : Pattern) (s : Text) :
    matchHere (.literal c :: ps) (x :: s) = if x = c then matchHere ps s else none := by
  rw [matchHere]

@[simp] theorem matchHere_final (ps : Pattern) (s : Text) :
    matchHere (.final :: ps) s = if s = [] then matchHere ps s else none := by
  rw [matchHere]

/-- A word matches itself. -/
theorem matchHere_word (w : String) (ps : Pattern) (s : Text) :
    matchHere (word w ++ ps) (w.toList ++ s) = matchHere ps s := by
  unfold word
  induction w.toList with
  | nil => rfl
  | cons c w ih =>
      show matchHere (.literal c :: (w.map .literal ++ ps)) (c :: (w ++ s)) = _
      rw [matchHere_literal, if_pos rfl, ih]

/-- A pattern that begins with a literal does not match what begins otherwise. -/
theorem matchHere_of_ne (h : x ≠ c) : matchHere (.literal c :: ps) (x :: s) = none := by
  rw [matchHere_literal, if_neg h]

theorem longestFirst_eq_none {β : Type} {rest : Text → Option β} {k : Nat}
    (h : ∀ n, least ≤ n → n ≤ least + k → rest (s.drop n) = none) :
    longestFirst rest s least k = none := by
  induction k with
  | zero =>
      unfold longestFirst
      rw [h least (le_refl _) (le_refl _)]
      rfl
  | succ k ih =>
      unfold longestFirst
      rw [h (least + k + 1) (by omega) (by omega)]
      exact ih fun n hleast hn => h n hleast (by omega)

/-- What comes behind a run when the run gives back nothing. -/
theorem longestFirst_of_some {β : Type} {rest : Text → Option β} {k : Nat} {found : β}
    (h : rest (s.drop (least + k)) = some found) :
    longestFirst rest s least k = some (s.take (least + k), found) := by
  cases k with
  | zero =>
      unfold longestFirst
      rw [Nat.add_zero] at h
      rw [h]
      rfl
  | succ k =>
      unfold longestFirst
      rw [show least + k + 1 = least + (k + 1) from rfl, h]

/-- How far a run goes. -/
theorem length_takeWhile_append (hrun : ∀ c ∈ run, ofClass c = true)
    (htail : ∀ c ∈ tail.head?, ofClass c = false) :
    ((run ++ tail).takeWhile ofClass).length = run.length := by
  rw [List.takeWhile_append_of_pos hrun]
  cases tail with
  | nil => simp
  | cons c tail =>
      rw [List.takeWhile_cons_of_neg (by rw [htail c rfl]; decide), List.append_nil]

/-- **A run that is followed by something else** takes all of its class and gives
nothing back, if the rest of the pattern cannot begin with a character of the class. -/
theorem matchHere_run (hrun : ∀ c ∈ run, ofClass c = true) (hleast : least ≤ run.length)
    (htail : ∀ c ∈ tail.head?, ofClass c = false)
    (hrest : ∀ c s, ofClass c = true → matchHere ps (c :: s) = none) :
    matchHere (.run least ofClass captured :: ps) (run ++ tail) =
      (matchHere ps tail).map fun groups => if captured then run :: groups else groups := by
  rw [matchHere]
  dsimp only
  rw [length_takeWhile_append hrun htail, if_neg (by omega)]
  have hall : least + (run.length - least) = run.length := by omega
  cases hmatch : matchHere ps tail with
  | some groups =>
      rw [longestFirst_of_some (by rw [hall, List.drop_left, hmatch]), hall, List.take_left]
      rfl
  | none =>
      rw [longestFirst_eq_none]
      · rfl
      · intro n hn hle
        rcases (show n ≤ run.length by omega).lt_or_eq with hlt | rfl
        · rw [List.drop_append_of_le_length hlt.le, List.drop_eq_getElem_cons hlt]
          exact hrest _ _ (hrun _ (List.getElem_mem hlt))
        · rw [List.drop_left, hmatch]

/-- A run at the end of a pattern takes what it can. -/
theorem matchHere_last_run (hrun : ∀ c ∈ run, ofClass c = true) (hleast : least ≤ run.length)
    (htail : ∀ c ∈ tail.head?, ofClass c = false) :
    matchHere [.run least ofClass captured] (run ++ tail) =
      some (if captured then [run] else []) := by
  rw [matchHere]
  dsimp only
  rw [length_takeWhile_append hrun htail, if_neg (by omega)]
  have hall : least + (run.length - least) = run.length := by omega
  rw [longestFirst_of_some (matchHere_nil _), hall, List.take_left]
  rfl

/-- Where a run finds too few characters of its class, nothing matches. -/
theorem matchHere_run_short (h : (s.takeWhile ofClass).length < least) :
    matchHere (.run least ofClass captured :: ps) s = none := by
  rw [matchHere]
  exact if_pos h

/-- A run does not begin with a character of another class. -/
theorem matchHere_run_of_not (h : ofClass x = false) :
    matchHere (.run (least + 1) ofClass captured :: ps) (x :: s) = none := by
  apply matchHere_run_short
  rw [List.takeWhile_cons_of_neg (by rw [h]; decide)]
  exact Nat.succ_pos least

/-! ## Searching -/

/-- A search passes over a text without the first character of the pattern. -/
theorem exec_append_of_notMem (h : c ∉ run) :
    exec (.literal c :: ps) (run ++ s) = exec (.literal c :: ps) s := by
  induction run with
  | nil => rfl
  | cons x run ih =>
      rw [List.mem_cons, not_or] at h
      obtain ⟨hx, hrun⟩ := h
      show exec (.literal c :: ps) (x :: (run ++ s)) = _
      rw [exec, matchHere_of_ne fun hsame => hx hsame.symm, Option.none_or, ih hrun]

/-- A search that finds nothing here goes on. -/
theorem exec_cons_of_none (h : matchHere ps (x :: s) = none) : exec ps (x :: s) = exec ps s := by
  rw [exec, h, Option.none_or]

/-- A search that finds a match here has found the leftmost one. -/
theorem exec_of_matchHere {groups : List Text} (h : matchHere ps s = some groups) :
    exec ps s = some groups := by
  cases s with
  | nil => rwa [exec]
  | cons x s => rw [exec, h, Option.some_or]

theorem exec_of_notMem (h : c ∉ s) : exec (.literal c :: ps) s = none := by
  have hnil : exec (.literal c :: ps) [] = none := by
    rw [exec, matchHere]
  rw [← List.append_nil s, exec_append_of_notMem h, hnil]

end

/-- A match contains every literal of its pattern. -/
theorem mem_of_matchHere {ps : Pattern} {s : Text} {groups : List Text} {c : Char}
    (h : matchHere ps s = some groups) (hc : .literal c ∈ ps) : c ∈ s := by
  induction ps generalizing s groups with
  | nil => cases hc
  | cons p ps ih =>
      cases p with
      | literal d =>
          cases s with
          | nil =>
              rw [matchHere] at h
              cases h
          | cons x s =>
              rw [matchHere_literal] at h
              obtain ⟨rfl, hrest⟩ := Option.ite_none_right_eq_some.mp h
              rcases List.mem_cons.mp hc with hsame | hmem
              · injection hsame with hsame
                exact hsame ▸ List.mem_cons_self
              · exact List.mem_cons_of_mem _ (ih hrest hmem)
      | run least ofClass captured =>
          have hmem : .literal c ∈ ps := by
            rcases List.mem_cons.mp hc with hsame | hmem
            · cases hsame
            · exact hmem
          -- the rest of the pattern matches behind some number of characters
          have hsome : ∀ k out, longestFirst (matchHere ps) s least k = some out → c ∈ s := by
            intro k
            induction k with
            | zero =>
                intro out hout
                obtain ⟨found, hfound, _⟩ := Option.map_eq_some_iff.mp hout
                exact List.mem_of_mem_drop (ih hfound hmem)
            | succ k ihk =>
                intro out hout
                unfold longestFirst at hout
                split at hout
                · next found hfound => exact List.mem_of_mem_drop (ih hfound hmem)
                · exact ihk out hout
          rw [matchHere] at h
          obtain ⟨_, hmap⟩ := Option.ite_none_left_eq_some.mp h
          obtain ⟨out, hout, _⟩ := Option.map_eq_some_iff.mp hmap
          exact hsome _ out hout
      | final =>
          have hmem : .literal c ∈ ps := by
            rcases List.mem_cons.mp hc with hsame | hmem
            · cases hsame
            · exact hmem
          rw [matchHere_final] at h
          obtain ⟨_, hrest⟩ := Option.ite_none_right_eq_some.mp h
          exact ih hrest hmem

/-- **A text that lacks a literal of a pattern has no match of it.** -/
theorem exec_eq_none {ps : Pattern} {s : Text} {c : Char} (hc : .literal c ∈ ps) (h : c ∉ s) :
    exec ps s = none := by
  induction s with
  | nil =>
      rw [exec]
      cases hmatch : matchHere ps [] with
      | none => rfl
      | some groups => exact absurd (mem_of_matchHere hmatch hc) h
  | cons x s ih =>
      rw [exec, ih fun hmem => h (List.mem_cons_of_mem _ hmem), Option.or_none]
      cases hmatch : matchHere ps (x :: s) with
      | none => rfl
      | some groups => exact absurd (mem_of_matchHere hmatch hc) h

end TextPatterns
