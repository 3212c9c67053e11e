import Mathlib.Data.List.Basic

/-!
# Runs of a partial step function

A system is given by a step function that may refuse an event.  A run is a
list of events, all accepted one after another.  Two predicates speak about a
whole run: `Throughout` says that a property holds in every state it reaches,
and `Guarded` says that a condition on state and event holds at every step it
takes.  `throughout_iff_guarded` is the exactness rule: when a condition
decides step by step whether a property survives, the runs that keep the
property are exactly the runs that meet the condition.
-/

namespace PartialRun

variable {σ ε : Type} (step : σ → ε → Option σ)

/-- Take the events of a list in order. -/
def run : σ → List ε → Option σ
  | s, [] => some s
  | s, e :: es => (step s e).bind fun next => run next es

@[simp] theorem run_nil (s : σ) : run step s [] = some s := rfl

theorem run_cons (s : σ) (e : ε) (es : List ε) :
    run step s (e :: es) = (step s e).bind fun next => run step next es := rfl

/-- A run that takes at least one event exposes its first step. -/
theorem run_cons_some {s s' : σ} {e : ε} {es : List ε}
    (h : run step s (e :: es) = some s') :
    ∃ next, step s e = some next ∧ run step next es = some s' :=
  Option.bind_eq_some_iff.mp h

theorem run_append (s : σ) (es fs : List ε) :
    run step s (es ++ fs) = (run step s es).bind fun mid => run step mid fs := by
  induction es generalizing s with
  | nil => rfl
  | cons e es ih =>
      rw [List.cons_append, run_cons, run_cons]
      cases step s e with
      | none => rfl
      | some next => exact ih next

/-- What every accepted step keeps, every run keeps. -/
theorem run_invariant {I : σ → Prop}
    (hstep : ∀ s e s', I s → step s e = some s' → I s')
    {s s' : σ} {es : List ε} (hs : I s) (hrun : run step s es = some s') :
    I s' := by
  induction es generalizing s with
  | nil =>
      obtain rfl : s = s' := Option.some.inj hrun
      exact hs
  | cons e es ih =>
      obtain ⟨next, hnext, hrest⟩ := run_cons_some step hrun
      exact ih (hstep s e next hs hnext) hrest

/-- If a second system can follow every step of a first one, it can follow every
run. -/
theorem run_simulation {τ : Type} {step' : τ → ε → Option τ} {R : σ → τ → Prop}
    (hstep : ∀ s t e s', R s t → step s e = some s' → ∃ t', step' t e = some t' ∧ R s' t')
    {s s' : σ} {t : τ} {es : List ε} (hs : R s t) (hrun : run step s es = some s') :
    ∃ t', run step' t es = some t' ∧ R s' t' := by
  induction es generalizing s t with
  | nil =>
      obtain rfl : s = s' := Option.some.inj hrun
      exact ⟨t, rfl, hs⟩
  | cons e es ih =>
      obtain ⟨next, hnext, hrest⟩ := run_cons_some step hrun
      obtain ⟨t', ht', hR⟩ := hstep s t e next hs hnext
      rw [run_cons, ht', Option.bind_some]
      exact ih hR hrest

/-- The condition `guard` holds at every step that a run takes. -/
def Guarded (guard : σ → ε → Prop) : σ → List ε → Prop
  | _, [] => True
  | s, e :: es => ∀ next, step s e = some next → guard s e ∧ Guarded guard next es

/-- Whether a concrete run meets a condition can be computed. -/
instance decidableGuarded {guard : σ → ε → Prop} [∀ s e, Decidable (guard s e)] :
    ∀ s es, Decidable (Guarded step guard s es)
  | _, [] => isTrue trivial
  | s, e :: es =>
      match hstep : step s e with
      | none => isTrue fun _ hnext => nomatch hstep.symm.trans hnext
      | some next =>
          have : Decidable (Guarded step guard next es) := decidableGuarded next es
          decidable_of_iff (guard s e ∧ Guarded step guard next es)
            ⟨fun hboth _ hother => Option.some.inj (hstep.symm.trans hother) ▸ hboth,
              fun hall => hall next hstep⟩

/-- The property `good` holds in every state that a run reaches, its first
state included. -/
def Throughout (good : σ → Prop) : σ → List ε → Prop
  | s, [] => good s
  | s, e :: es => good s ∧ ∀ next, step s e = some next → Throughout good next es

/-- A property that holds throughout a run holds where the run ends. -/
theorem Throughout.at_end {good : σ → Prop} {s s' : σ} {es : List ε}
    (h : Throughout step good s es) (hrun : run step s es = some s') : good s' := by
  induction es generalizing s with
  | nil =>
      obtain rfl : s = s' := Option.some.inj hrun
      exact h
  | cons e es ih =>
      obtain ⟨next, hnext, hrest⟩ := run_cons_some step hrun
      exact ih (h.2 next hnext) hrest

/-- What every step that meets a condition keeps, every run whose steps all
meet it keeps. -/
theorem guarded_invariant {I : σ → Prop} {guard : σ → ε → Prop}
    (hstep : ∀ s e s', I s → guard s e → step s e = some s' → I s')
    {s s' : σ} {es : List ε} (hs : I s) (hguard : Guarded step guard s es)
    (hrun : run step s es = some s') : I s' := by
  induction es generalizing s with
  | nil =>
      obtain rfl : s = s' := Option.some.inj hrun
      exact hs
  | cons e es ih =>
      obtain ⟨next, hnext, hrest⟩ := run_cons_some step hrun
      obtain ⟨hge, hgrest⟩ := hguard next hnext
      exact ih (hstep s e next hs hge hnext) hgrest hrest

/-- A property that is kept, under an invariant, by every step that meets a
condition, holds throughout every run whose steps all meet it. -/
theorem throughout_of_guarded {I good : σ → Prop} {guard : σ → ε → Prop}
    (hstep : ∀ s e s', I s → guard s e → step s e = some s' → I s')
    (hgood : ∀ s, I s → good s) {s : σ} {es : List ε} (hs : I s)
    (hguard : Guarded step guard s es) : Throughout step good s es := by
  induction es generalizing s with
  | nil => exact hgood s hs
  | cons e es ih =>
      refine ⟨hgood s hs, ?_⟩
      intro next hnext
      obtain ⟨hge, hrest⟩ := hguard next hnext
      exact ih (hstep s e next hs hge hnext) hrest

/-- What follows from what every step keeps holds throughout every run. -/
theorem throughout_of_invariant {I good : σ → Prop}
    (hstep : ∀ s e s', I s → step s e = some s' → I s')
    (hgood : ∀ s, I s → good s) {s : σ} {es : List ε} (hs : I s) :
    Throughout step good s es := by
  induction es generalizing s with
  | nil => exact hgood s hs
  | cons e es ih => exact ⟨hgood s hs, fun next hnext => ih (hstep s e next hs hnext)⟩

/-- A condition on the events alone holds at every step that takes them. -/
theorem guarded_of_forall {p : ε → Prop} (s : σ) {es : List ε} (hp : ∀ e ∈ es, p e) :
    Guarded step (fun _ e => p e) s es := by
  induction es generalizing s with
  | nil => exact trivial
  | cons e es ih =>
      intro next _
      exact ⟨hp e List.mem_cons_self, ih next fun e he => hp e (List.mem_cons_of_mem _ he)⟩

/-- A condition on the events alone may be added to the condition of a run. -/
theorem guarded_and_forall {guard : σ → ε → Prop} {p : ε → Prop} {s : σ} {es : List ε}
    (h : Guarded step guard s es) (hp : ∀ e ∈ es, p e) :
    Guarded step (fun s e => guard s e ∧ p e) s es := by
  induction es generalizing s with
  | nil => exact trivial
  | cons e es ih =>
      intro next hnext
      obtain ⟨hge, hrest⟩ := h next hnext
      exact ⟨⟨hge, hp e List.mem_cons_self⟩,
        ih hrest fun e he => hp e (List.mem_cons_of_mem _ he)⟩

/-- A condition that follows from what every step keeps holds at every step. -/
theorem guarded_of_invariant {I : σ → Prop} {guard : σ → ε → Prop}
    (hstep : ∀ s e s', I s → step s e = some s' → I s')
    (hguard : ∀ s e, I s → guard s e) {s : σ} {es : List ε} (hs : I s) :
    Guarded step guard s es := by
  induction es generalizing s with
  | nil => exact trivial
  | cons e es ih =>
      intro next hnext
      exact ⟨hguard s e hs, ih (hstep s e next hs hnext)⟩

/-- A condition may be replaced by one that it implies wherever an invariant holds. -/
theorem guarded_mono_of_invariant {I : σ → Prop} {guard guard' : σ → ε → Prop}
    (hinv : ∀ s e s', I s → step s e = some s' → I s')
    (himp : ∀ s e, I s → guard s e → guard' s e) {s : σ} {es : List ε} (hs : I s)
    (h : Guarded step guard s es) : Guarded step guard' s es := by
  induction es generalizing s with
  | nil => exact trivial
  | cons e es ih =>
      intro next hnext
      obtain ⟨hge, hrest⟩ := h next hnext
      exact ⟨himp s e hs hge, ih (hinv s e next hs hnext) hrest⟩

/-- A condition may be replaced by a weaker one. -/
theorem guarded_mono {guard guard' : σ → ε → Prop} (himp : ∀ s e, guard s e → guard' s e)
    {s : σ} {es : List ε} (h : Guarded step guard s es) : Guarded step guard' s es :=
  guarded_mono_of_invariant step (I := fun _ => True) (fun _ _ _ _ _ => trivial)
    (fun s e _ => himp s e) trivial h

/-- A guarded run is guarded on each of its parts. -/
theorem guarded_append {guard : σ → ε → Prop} {s mid : σ} {es fs : List ε}
    (hrun : run step s es = some mid) :
    Guarded step guard s (es ++ fs) ↔
      Guarded step guard s es ∧ Guarded step guard mid fs := by
  induction es generalizing s with
  | nil =>
      obtain rfl : s = mid := Option.some.inj hrun
      exact ⟨fun h => ⟨trivial, h⟩, fun h => h.2⟩
  | cons e es ih =>
      obtain ⟨next, hnext, hrest⟩ := run_cons_some step hrun
      constructor
      · intro h
        obtain ⟨hge, htail⟩ := h next hnext
        obtain ⟨hes, hfs⟩ := (ih hrest).mp htail
        refine ⟨?_, hfs⟩
        intro other hother
        obtain rfl : next = other := Option.some.inj (hnext.symm.trans hother)
        exact ⟨hge, hes⟩
      · intro h other hother
        obtain ⟨hes, hfs⟩ := h
        obtain rfl : next = other := Option.some.inj (hnext.symm.trans hother)
        obtain ⟨hge, htail⟩ := hes next hnext
        exact ⟨hge, (ih hrest).mpr ⟨htail, hfs⟩⟩

/-- Replacing a condition by one that agrees with it wherever an invariant
holds changes no run's verdict. -/
theorem guarded_congr {I : σ → Prop} {guard guard' : σ → ε → Prop}
    (hinv : ∀ s e s', I s → step s e = some s' → I s')
    (hiff : ∀ s e s', I s → step s e = some s' → (guard s e ↔ guard' s e))
    {s : σ} {es : List ε} (hs : I s) :
    Guarded step guard s es ↔ Guarded step guard' s es := by
  induction es generalizing s with
  | nil => exact Iff.rfl
  | cons e es ih =>
      constructor
      · intro h next hnext
        obtain ⟨hge, hrest⟩ := h next hnext
        have hs' := hinv s e next hs hnext
        exact ⟨(hiff s e next hs hnext).mp hge, (ih hs').mp hrest⟩
      · intro h next hnext
        obtain ⟨hge, hrest⟩ := h next hnext
        have hs' := hinv s e next hs hnext
        exact ⟨(hiff s e next hs hnext).mpr hge, (ih hs').mpr hrest⟩

/-- A condition on a step and the state it reaches may be replaced by one on the
step alone that decides it. -/
theorem guarded_next_congr {I : σ → Prop} {good : σ → σ → Prop} {guard : σ → ε → Prop}
    (hinv : ∀ s e s', I s → step s e = some s' → I s')
    (hdecides : ∀ s e s', I s → step s e = some s' → (good s s' ↔ guard s e))
    {s : σ} {es : List ε} (hs : I s) :
    Guarded step (fun s e => ∀ next, step s e = some next → good s next) s es ↔
      Guarded step guard s es := by
  refine guarded_congr step hinv ?_ hs
  intro s e s' hs hnext
  rw [← hdecides s e s' hs hnext]
  constructor
  · exact fun hall => hall s' hnext
  · intro hgood other hother
    obtain rfl : s' = other := Option.some.inj (hnext.symm.trans hother)
    exact hgood

/-- If a step that meets `pre` reaches a good state only under a condition, a run
that meets `pre` is good throughout only under it. -/
theorem guarded_of_throughout {I good : σ → Prop} {pre guard : σ → ε → Prop}
    (hinv : ∀ s e s', I s → step s e = some s' → I s')
    (hguard : ∀ s e s', I s → good s → pre s e → step s e = some s' → good s' → guard s e)
    {s : σ} {es : List ε} (hs : I s) (hpre : Guarded step pre s es)
    (hgood : Throughout step good s es) : Guarded step guard s es := by
  induction es generalizing s with
  | nil => exact trivial
  | cons e es ih =>
      intro next hnext
      obtain ⟨hpe, hprest⟩ := hpre next hnext
      have hrest := hgood.2 next hnext
      have hnextGood : good next := by
        cases es with
        | nil => exact hrest
        | cons _ _ => exact hrest.1
      exact ⟨hguard s e next hs hgood.1 hpe hnext hnextGood,
        ih (hinv s e next hs hnext) hprest hrest⟩

/-- **Exactness.**  Let `I` be kept by every step, and let `guard` decide at
each step from a good state whether the next state is good.  Then a run is
good throughout exactly when it is guarded. -/
theorem throughout_iff_guarded {I good : σ → Prop} {guard : σ → ε → Prop}
    (hinv : ∀ s e s', I s → step s e = some s' → I s')
    (hdecides : ∀ s e s', I s → good s → step s e = some s' →
      (good s' ↔ guard s e))
    {s : σ} {es : List ε} (hs : I s) (hgood : good s) :
    Throughout step good s es ↔ Guarded step guard s es := by
  constructor
  · exact fun h => guarded_of_throughout step hinv
      (fun s e s' hs hgood _ hnext => (hdecides s e s' hs hgood hnext).mp) hs
      (guarded_of_forall step s fun e _ => trivial) h
  · refine throughout_of_guarded step (I := fun s => I s ∧ good s) ?_ (fun s hboth => hboth.2)
      ⟨hs, hgood⟩
    intro s e s' hboth hge hnext
    exact ⟨hinv s e s' hboth.1 hnext, (hdecides s e s' hboth.1 hboth.2 hnext).mpr hge⟩

/-- `R` holds from every state that a run reaches to every later one. -/
def Ordered (R : σ → σ → Prop) (s : σ) (es : List ε) : Prop :=
  ∀ earlier later rest mid last, es = earlier ++ (later ++ rest) →
    run step s earlier = some mid → run step mid later = some last → R mid last

/-- For a relation that composes, the states of a run are ordered exactly when
each of its steps is related. -/
theorem ordered_iff_guarded {R : σ → σ → Prop} (hrefl : ∀ s, R s s)
    (htrans : ∀ a b c, R a b → R b c → R a c) {s : σ} {es : List ε} :
    Ordered step R s es ↔
      Guarded step (fun s e => ∀ next, step s e = some next → R s next) s es := by
  constructor
  · intro h
    induction es generalizing s with
    | nil => exact trivial
    | cons e es ih =>
        intro next hnext
        have hone : run step s [e] = some next := by
          rw [run_cons, hnext]
          rfl
        refine ⟨?_, ih ?_⟩
        · intro other hother
          exact h [] [e] es s other rfl rfl (by rw [run_cons, hother]; rfl)
        · intro earlier later rest mid last hes hmid hlast
          refine h (e :: earlier) later rest mid last (by rw [hes]; rfl) ?_ hlast
          rw [run_cons, hnext]
          exact hmid
  · intro h earlier later rest mid last hes hmid hlast
    subst hes
    obtain ⟨_, hlater⟩ := (guarded_append step hmid).mp h
    obtain ⟨hguard, _⟩ := (guarded_append step hlast).mp hlater
    exact guarded_invariant step (I := fun t => R mid t)
      (fun t e next ht hge hnext => htrans mid t next ht (hge next hnext))
      (hrefl mid) hguard hlast

end PartialRun
