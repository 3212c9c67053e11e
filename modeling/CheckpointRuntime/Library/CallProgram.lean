import Mathlib.Logic.Basic

/-!
# Programs that call a shared service

A program is a value that has either finished or is about to call an operation
of a service, with a continuation for each reply.  It stands for an `async`
function whose awaited calls are its only interaction with the state it shares
with other programs: between two calls it runs alone.

`Program.run` executes a program by itself against a service that may fail
each call in its own way.  `Keeps` is its rely/guarantee contract: whatever
the other programs do between two of its calls (`rely`), and however the
service answers, each of its calls changes the shared state only as `guar`
allows, and when it finishes its value satisfies `post`.
-/

namespace CallProgram

/-- A program over the operations `Op` with replies `Reply`. -/
inductive Program (Op : Type) (Reply : Op → Type) (α : Type) : Type where
  | done (value : α)
  | call (op : Op) (next : Reply op → Program Op Reply α)

section
variable {Op : Type} {Reply : Op → Type} {α β : Type}

/-- Run a second program on the value of a first one. -/
def Program.bind : Program Op Reply α → (α → Program Op Reply β) → Program Op Reply β
  | .done value, f => f value
  | .call op next, f => .call op fun reply => (next reply).bind f

instance : Monad (Program Op Reply) where
  pure := .done
  bind := .bind

/-- The program that makes one call and returns its reply. -/
def Program.perform (op : Op) : Program Op Reply (Reply op) :=
  .call op .done

instance : LawfulMonad (Program Op Reply) :=
  LawfulMonad.mk' _
    (fun p => by
      induction p with
      | done value => rfl
      | call op next ih => exact congrArg (Program.call op) (funext fun reply => ih reply))
    (fun _ _ => rfl)
    (fun p f g => by
      induction p with
      | done value => rfl
      | call op next ih => exact congrArg (Program.call op) (funext fun reply => ih reply))

/-- The operation that a program is about to call. -/
def Program.nextOp? : Program Op Reply α → Option Op
  | .done _ => none
  | .call op _ => some op

/-- The value of a program that has finished. -/
def Program.value? : Program Op Reply α → Option α
  | .done value => some value
  | .call _ _ => none

@[simp] theorem Program.bind_done (value : α) (f : α → Program Op Reply β) :
    Program.bind (.done value) f = f value := rfl

@[simp] theorem Program.bind_call (op : Op) (next : Reply op → Program Op Reply α)
    (f : α → Program Op Reply β) :
    Program.bind (.call op next) f = .call op fun reply => (next reply).bind f := rfl

@[simp] theorem Program.bind_eq (p : Program Op Reply α) (f : α → Program Op Reply β) :
    p >>= f = p.bind f := rfl

@[simp] theorem Program.pure_eq (value : α) :
    (pure value : Program Op Reply α) = .done value := rfl

/-- A service: how its state and its reply follow from an operation, for each
way in which the call may go wrong. -/
structure Service (Op : Type) (Reply : Op → Type) (σ Fault : Type) where
  answer : Fault → σ → (op : Op) → σ × Reply op

variable {σ Fault : Type}

/-- One call of a program that has not finished. -/
def Program.step (service : Service Op Reply σ Fault) (fault : Fault) :
    Program Op Reply α → σ → Option (Program Op Reply α × σ)
  | .done _, _ => none
  | .call op next, s =>
      let out := service.answer fault s op
      some (next out.2, out.1)

theorem Program.eq_done_of_value? {p : Program Op Reply α} {value : α}
    (h : p.value? = some value) : p = .done value := by
  cases p with
  | done other => rw [Option.some.inj h]
  | call op next => cases h

/-- A program that makes a call has not finished. -/
theorem Program.value?_of_step {service : Service Op Reply σ Fault} {fault : Fault}
    {p : Program Op Reply α} {s : σ} {out : Program Op Reply α × σ}
    (h : p.step service fault s = some out) : p.value? = none := by
  cases p with
  | done value => cases h
  | call op next => rfl

/-- Execute a program alone; `faults n` is what goes wrong at its `n`-th call. -/
def Program.run (service : Service Op Reply σ Fault) :
    Program Op Reply α → (Nat → Fault) → σ → α × σ
  | .done value, _, s => (value, s)
  | .call op next, faults, s =>
      let out := service.answer (faults 0) s op
      (next out.2).run service (fun n => faults (n + 1)) out.1

/-- With the same fault at every call, programs compose as functions on values
and states. -/
theorem Program.run_bind_const (service : Service Op Reply σ Fault) (fault : Fault)
    (p : Program Op Reply α) (f : α → Program Op Reply β) (s : σ) :
    (p.bind f).run service (fun _ => fault) s =
      (f (p.run service (fun _ => fault) s).1).run service (fun _ => fault)
        (p.run service (fun _ => fault) s).2 := by
  induction p generalizing s with
  | done value => rfl
  | call op next ih => exact ih _ _

/-- Programs compose as functions on values and states; the second one meets the
faults that the first one has left over. -/
theorem Program.run_bind (service : Service Op Reply σ Fault) (p : Program Op Reply α)
    (f : α → Program Op Reply β) (faults : Nat → Fault) (s : σ) :
    ∃ used, (p.bind f).run service faults s =
      (f (p.run service faults s).1).run service (fun n => faults (n + used))
        (p.run service faults s).2 := by
  induction p generalizing faults s with
  | done value => exact ⟨0, rfl⟩
  | call op next ih =>
      obtain ⟨used, hused⟩ := ih (service.answer (faults 0) s op).2 (fun n => faults (n + 1))
        (service.answer (faults 0) s op).1
      exact ⟨used + 1, hused⟩

/-- The service that writes down the calls it is asked for; what goes wrong with
a call follows from its number and from the call. -/
def Service.logged (service : Service Op Reply σ Fault) (pattern : Nat → Op → Fault) :
    Service Op Reply (σ × List Op) Unit where
  answer := fun _ s op =>
    let out := service.answer (pattern s.2.length op) s.1 op
    ((out.1, s.2 ++ [op]), out.2)

/-- Writing the calls down changes neither the value nor the state. -/
theorem Program.run_logged (service : Service Op Reply σ Fault) (faults : Nat → Fault)
    (p : Program Op Reply α) (s : σ) (log : List Op) :
    p.run service (fun n => faults (log.length + n)) s =
      ((p.run (service.logged fun n _ => faults n) (fun _ => ()) (s, log)).1,
        (p.run (service.logged fun n _ => faults n) (fun _ => ()) (s, log)).2.1) := by
  induction p generalizing s log with
  | done value => rfl
  | call op next ih =>
      have hshift : (fun n => faults (log.length + (n + 1))) =
          fun n => faults ((log ++ [op]).length + n) := by
        funext n
        rw [List.length_append, List.length_singleton, Nat.add_right_comm, Nat.add_assoc]
      show (next (service.answer (faults log.length) s op).2).run service
        (fun n => faults (log.length + (n + 1)))
        (service.answer (faults log.length) s op).1 = _
      rw [hshift]
      exact ih _ _ _

/-- The rely/guarantee contract of a program from a given state. -/
def Keeps (service : Service Op Reply σ Fault) (rely guar : σ → σ → Prop)
    (post : α → σ → Prop) : Program Op Reply α → σ → Prop
  | .done value, s => post value s
  | .call op next, s => ∀ s', rely s s' → ∀ fault,
      guar s' (service.answer fault s' op).1 ∧
      Keeps service rely guar post (next (service.answer fault s' op).2)
        (service.answer fault s' op).1

variable {service : Service Op Reply σ Fault} {rely guar : σ → σ → Prop}
  {post : α → σ → Prop}

/-- Interference between two calls does not break a contract. -/
theorem Keeps.of_rely (htrans : ∀ a b c, rely a b → rely b c → rely a c)
    (hpost : ∀ value a b, rely a b → post value a → post value b)
    {p : Program Op Reply α} {s s' : σ} (hp : Keeps service rely guar post p s)
    (hrely : rely s s') : Keeps service rely guar post p s' := by
  cases p with
  | done value => exact hpost value s s' hrely hp
  | call op next => exact fun t ht fault => hp t (htrans s s' t hrely ht) fault

/-- Sequential composition of contracts. -/
theorem Keeps.bind {post' : β → σ → Prop} {f : α → Program Op Reply β}
    {p : Program Op Reply α} {s : σ}
    (hp : Keeps service rely guar
      (fun value t => Keeps service rely guar post' (f value) t) p s) :
    Keeps service rely guar post' (p.bind f) s := by
  induction p generalizing s with
  | done value => exact hp
  | call op next ih =>
      intro t ht fault
      obtain ⟨hguar, hrest⟩ := hp t ht fault
      exact ⟨hguar, ih _ hrest⟩

/-- A contract may promise less and rely on more. -/
theorem Keeps.weaken {rely' guar' : σ → σ → Prop} {post' : α → σ → Prop}
    (hrely : ∀ a b, rely' a b → rely a b) (hguar : ∀ a b, guar a b → guar' a b)
    (hpost : ∀ value s, post value s → post' value s)
    {p : Program Op Reply α} {s : σ} (hp : Keeps service rely guar post p s) :
    Keeps service rely' guar' post' p s := by
  induction p generalizing s with
  | done value => exact hpost value s hp
  | call op next ih =>
      intro t ht fault
      obtain ⟨h1, h2⟩ := hp t (hrely s t ht) fault
      exact ⟨hguar _ _ h1, ih _ h2⟩

/-- One step of a program under contract: the shared state moves as the
program guarantees, and what is left of the program is under the same
contract. -/
theorem Keeps.step {p p' : Program Op Reply α} {s s' : σ} {fault : Fault}
    (hp : Keeps service rely guar post p s) (hself : rely s s)
    (hstep : p.step service fault s = some (p', s')) :
    guar s s' ∧ Keeps service rely guar post p' s' := by
  cases p with
  | done value => simp [Program.step] at hstep
  | call op next =>
      simp only [Program.step, Option.some.injEq, Prod.mk.injEq] at hstep
      obtain ⟨rfl, rfl⟩ := hstep
      exact hp s hself fault

/-- A program under contract that runs alone ends in its postcondition; what
its own calls keep still holds, and together they have changed the state only
as each of them may. -/
theorem Keeps.run (inv : σ → Prop) (hself : ∀ s, inv s → rely s s)
    (hinv : ∀ s s', inv s → guar s s' → inv s')
    (hrefl : ∀ s, guar s s) (htrans : ∀ a b c, guar a b → guar b c → guar a c)
    {p : Program Op Reply α} {s : σ} (hp : Keeps service rely guar post p s)
    (hs : inv s) (faults : Nat → Fault) :
    post (p.run service faults s).1 (p.run service faults s).2 ∧
      inv (p.run service faults s).2 ∧ guar s (p.run service faults s).2 := by
  induction p generalizing s faults with
  | done value => exact ⟨hp, hs, hrefl s⟩
  | call op next ih =>
      obtain ⟨hguar, hrest⟩ := hp s (hself s hs) (faults 0)
      obtain ⟨h1, h2, h3⟩ := ih _ hrest (hinv _ _ hs hguar) (fun n => faults (n + 1))
      exact ⟨h1, h2, htrans _ _ _ hguar h3⟩

end

end CallProgram
