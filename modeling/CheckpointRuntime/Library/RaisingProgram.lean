import Mathlib.Logic.Basic

/-!
# Programs that may raise

A program over a state ends with a value or raises.  What it wrote before it
raised stays written: nothing is rolled back.  An access to a service outside
the program may fail at any time; the list beside the state says which of the
accesses to come do.

`Triple` is the Hoare triple with a second postcondition, for the exceptions.
-/

namespace RaisingProgram

/-- A program over `σ` with values in `α` and exceptions in `ε`. -/
def Raising (σ ε α : Type) : Type := σ → σ × Except ε α

variable {σ ε α β : Type}

/-- Run a second program on the value of a first one, unless that raises. -/
def Raising.bind (p : Raising σ ε α) (f : α → Raising σ ε β) : Raising σ ε β := fun s =>
  match (p s).2 with
  | .ok value => f value (p s).1
  | .error error => ((p s).1, .error error)

instance : Monad (Raising σ ε) where
  pure value := fun s => (s, .ok value)
  bind := .bind

def raise (error : ε) : Raising σ ε α := fun s => (s, .error error)

/-- The state itself. -/
def read : Raising σ ε σ := fun s => (s, .ok s)

def modify (f : σ → σ) : Raising σ ε Unit := fun s => (f s, .ok ())

/-- The value that an option has. -/
def orRaise (error : ε) : Option α → Raising σ ε α
  | none => raise error
  | some value => pure value

/-- An access that raises if it is its turn to fail. -/
def access (error : ε) : Raising (σ × List Bool) ε Unit := fun s =>
  ((s.1, s.2.tail), if s.2.headD false then .error error else .ok ())

section
variable (s : σ)

@[simp] theorem pure_apply (value : α) : (pure value : Raising σ ε α) s = (s, .ok value) := rfl

@[simp] theorem raise_apply (error : ε) : (raise error : Raising σ ε α) s = (s, .error error) := rfl

@[simp] theorem read_apply : (read : Raising σ ε σ) s = (s, .ok s) := rfl

@[simp] theorem modify_apply (f : σ → σ) : (modify f : Raising σ ε Unit) s = (f s, .ok ()) := rfl

theorem bind_apply (p : Raising σ ε α) (f : α → Raising σ ε β) : (p >>= f) s =
    match p s with
    | (s', .ok value) => f value s'
    | (s', .error error) => (s', .error error) := by
  show Raising.bind p f s = _
  unfold Raising.bind
  obtain ⟨s', value | error⟩ := p s <;> rfl

theorem bind_apply_ok {p : Raising σ ε α} {s' : σ} {value : α} (h : p s = (s', .ok value))
    (f : α → Raising σ ε β) : (p >>= f) s = f value s' := by
  rw [bind_apply, h]

theorem bind_apply_error {p : Raising σ ε α} {s' : σ} {error : ε} (h : p s = (s', .error error))
    (f : α → Raising σ ε β) : (p >>= f) s = (s', .error error) := by
  rw [bind_apply, h]

/-- What is done to the value only. -/
theorem bind_pure_apply (p : Raising σ ε α) (f : α → β) :
    (p >>= fun value => pure (f value)) s = ((p s).1, (p s).2.map f) := by
  rw [bind_apply]
  obtain ⟨s', value | error⟩ := p s <;> rfl

end

theorem access_of_ok {error : ε} {s : σ} {faults : List Bool} (h : faults.headD false = false) :
    access error (s, faults) = ((s, faults.tail), .ok ()) := by
  show ((s, faults.tail), if faults.headD false then _ else _) = _
  rw [h]
  rfl

theorem access_of_fault {error : ε} {s : σ} {faults : List Bool} (h : faults.headD false = true) :
    access error (s, faults) = ((s, faults.tail), .error error) := by
  show ((s, faults.tail), if faults.headD false then _ else _) = _
  rw [h]
  rfl

/-- A program that starts with `pre` ends with `post` or raises with `exc`. -/
def Triple (pre : σ → Prop) (p : Raising σ ε α) (post : α → σ → Prop) (exc : ε → σ → Prop) :
    Prop :=
  ∀ s, pre s →
    match (p s).2 with
    | .ok value => post value (p s).1
    | .error error => exc error (p s).1

section
variable {pre : σ → Prop} {post : α → σ → Prop} {exc : ε → σ → Prop}

theorem triple_pure {value : α} (h : ∀ s, pre s → post value s) :
    Triple pre (pure value) post exc := h

theorem triple_raise {error : ε} (h : ∀ s, pre s → exc error s) :
    Triple pre (raise error) post exc := h

theorem triple_modify {post : Unit → σ → Prop} {f : σ → σ} (h : ∀ s, pre s → post () (f s)) :
    Triple pre (modify f) post exc := h

/-- **Sequential composition.** -/
theorem triple_bind {p : Raising σ ε α} {f : α → Raising σ ε β} (mid : α → σ → Prop)
    {post : β → σ → Prop} (hp : Triple pre p mid exc)
    (hf : ∀ value, Triple (mid value) (f value) post exc) : Triple pre (p >>= f) post exc := by
  intro s hs
  have hfirst := hp s hs
  cases hresult : (p s).2 with
  | ok value =>
      rw [hresult] at hfirst
      have heq : (p >>= f) s = f value (p s).1 :=
        bind_apply_ok s (Prod.ext rfl hresult) f
      rw [heq]
      exact hf value _ hfirst
  | error error =>
      rw [hresult] at hfirst
      have heq : (p >>= f) s = ((p s).1, .error error) :=
        bind_apply_error s (Prod.ext rfl hresult) f
      rw [heq]
      exact hfirst

theorem triple_orRaise {error : ε} {found : Option α}
    (hnone : found = none → ∀ s, pre s → exc error s)
    (hsome : ∀ value, found = some value → ∀ s, pre s → post value s) :
    Triple pre (orRaise error found) post exc := by
  cases found with
  | none => exact triple_raise (hnone rfl)
  | some value => exact triple_pure (hsome value rfl)

/-- A triple may rely on more and promise less. -/
theorem Triple.weaken {pre' : σ → Prop} {post' : α → σ → Prop} {exc' : ε → σ → Prop}
    {p : Raising σ ε α} (h : Triple pre p post exc) (hpre : ∀ s, pre' s → pre s)
    (hpost : ∀ value s, post value s → post' value s)
    (hexc : ∀ error s, exc error s → exc' error s) : Triple pre' p post' exc' := by
  intro s hs
  have hend := h s (hpre s hs)
  cases hresult : (p s).2 with
  | ok value =>
      rw [hresult] at hend
      exact hpost value _ hend
  | error error =>
      rw [hresult] at hend
      exact hexc error _ hend

/-- Whether it fails or not, an access leaves the state alone. -/
theorem triple_access {I : σ → Prop} {error : ε} :
    Triple (fun s : σ × List Bool => I s.1) (access error) (fun _ s => I s.1)
      (fun _ s => I s.1) := by
  intro s hs
  cases hfault : s.2.headD false with
  | true =>
      rw [show s = (s.1, s.2) from rfl, access_of_fault hfault]
      exact hs
  | false =>
      rw [show s = (s.1, s.2) from rfl, access_of_ok hfault]
      exact hs

/-- What holds however a program ends. -/
theorem Triple.always {I : σ → Prop} {p : Raising σ ε α}
    (h : Triple pre p (fun _ => I) (fun _ => I)) {s : σ} (hs : pre s) : I (p s).1 := by
  have hend := h s hs
  cases hresult : (p s).2 with
  | ok value =>
      rw [hresult] at hend
      exact hend
  | error error =>
      rw [hresult] at hend
      exact hend

end

end RaisingProgram
