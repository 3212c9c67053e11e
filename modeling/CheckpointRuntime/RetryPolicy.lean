import Mathlib.Data.List.Basic
import Mathlib.Algebra.Order.Ring.Nat

/-!
# Retry with exponential backoff

`retry.rs`: attempts are numbered from 1, and after a failed one that is not the
last the policy sleeps.  The delay is computed in 64 bits before it is capped;
with overflow checks a delay that does not fit is a panic, without them it wraps.
`retry_is_safe_iff` says for which parameters and outcomes nothing of that shows.
-/

namespace CheckpointRuntime

/-- How the crate is built: `debug` checks for overflow, `release` wraps. -/
inductive Build
  | debug
  | release
deriving DecidableEq, Repr

/-- The panics of `execute`. -/
inductive RetryPanic
  | overflow
  | unwrapNone
deriving DecidableEq, Repr

/-- A 64-bit result whose exact value is known. -/
def Build.word (build : Build) (exact : Nat) : Except RetryPanic UInt64 :=
  match build with
  | .debug => if exact < 2 ^ 64 then .ok (UInt64.ofNat exact) else .error .overflow
  | .release => .ok (UInt64.ofNat exact)

structure RetryPolicy where
  maxAttempts : UInt32
  baseDelayMs : UInt64
deriving DecidableEq, Repr

/-- `rng.gen_range(0..=bound)` after an attempt. -/
structure Jitter where
  draw : UInt32 → UInt64 → UInt64
  draw_le : ∀ attempt bound, draw attempt bound ≤ bound

/-- No jitter at all. -/
def Jitter.none : Jitter where
  draw := fun _ _ => 0
  draw_le := fun _ _ => UInt64.zero_le

/-- A sleep between two attempts: its length, and the part without jitter. -/
structure RetrySleep where
  cappedMs : UInt64
  durationMs : UInt64
deriving DecidableEq, Repr

/-- What a call of `execute` has done, and how it ended. -/
structure Execution (ε τ : Type) where
  result : Except RetryPanic (Except ε τ)
  calls : Nat
  sleeps : List RetrySleep

namespace RetryPolicy

/-- `exp_ms.min(30_000)`. -/
def capMs (expMs : UInt64) : UInt64 := if 30000 < expMs then 30000 else expMs

/-- The second half of `compute_delay`: the cap, and the jitter. -/
def capDelay (build : Build) (jitter : Jitter) (attempt : UInt32) (expMs : UInt64) :
    Except RetryPanic RetrySleep := do
  let cappedMs := capMs expMs
  let durationMs ← build.word (cappedMs.toNat + (jitter.draw attempt (cappedMs / 2)).toNat)
  return { cappedMs := cappedMs, durationMs := durationMs }

/-- `compute_delay`. -/
def computeDelay (build : Build) (jitter : Jitter) (policy : RetryPolicy) (attempt : UInt32) :
    Except RetryPanic RetrySleep := do
  let power ← build.word (2 ^ (attempt - 1).toNat)
  let expMs ← build.word (policy.baseDelayMs.toNat * power.toNat)
  capDelay build jitter attempt expMs

section
variable {ε τ : Type}

/-- The loop over the attempts that are left; `outcomes n` is what the `n`-th call
of the operation returns. -/
def executeFrom (build : Build) (jitter : Jitter) (policy : RetryPolicy)
    (outcomes : Nat → Except ε τ) :
    Nat → UInt32 → Option ε → Nat → List RetrySleep → Execution ε τ
  | 0, _, lastErr, calls, sleeps =>
      match lastErr with
      | some e => { result := .ok (.error e), calls := calls, sleeps := sleeps }
      | none => { result := .error .unwrapNone, calls := calls, sleeps := sleeps }
  | left + 1, attempt, _, calls, sleeps =>
      match outcomes (calls + 1) with
      | .ok value => { result := .ok (.ok value), calls := calls + 1, sleeps := sleeps }
      | .error e =>
          if attempt = policy.maxAttempts then
            executeFrom build jitter policy outcomes left (attempt + 1) (some e) (calls + 1) sleeps
          else
            match computeDelay build jitter policy attempt with
            | .error panicked =>
                { result := .error panicked, calls := calls + 1, sleeps := sleeps }
            | .ok sleep =>
                executeFrom build jitter policy outcomes left (attempt + 1) (some e) (calls + 1)
                  (sleeps ++ [sleep])

def execute (build : Build) (jitter : Jitter) (policy : RetryPolicy)
    (outcomes : Nat → Except ε τ) : Execution ε τ :=
  executeFrom build jitter policy outcomes policy.maxAttempts.toNat 1 none 0 []

/-! ## What is asked of an execution -/

/-- The first success, and that there is none among the first `n` calls. -/
def FailsUpTo (outcomes : Nat → Except ε τ) (n : Nat) : Prop :=
  ∀ k, 1 ≤ k → k ≤ n → ∃ e, outcomes k = .error e

def FirstSuccess (outcomes : Nat → Except ε τ) (n : Nat) (value : τ) : Prop :=
  1 ≤ n ∧ outcomes n = .ok value ∧ FailsUpTo outcomes (n - 1)

/-- The delay after an attempt, in exact arithmetic. -/
def exactMs (policy : RetryPolicy) (attempt : Nat) : Nat :=
  min (policy.baseDelayMs.toNat * 2 ^ (attempt - 1)) 30000

/-- No panic, the right number of calls, the right result and the right sleeps. -/
structure Safe (policy : RetryPolicy) (outcomes : Nat → Except ε τ) (x : Execution ε τ) :
    Prop where
  returns : ∃ returned, x.result = .ok returned
  success : ∀ n value, FirstSuccess outcomes n value → n ≤ policy.maxAttempts.toNat →
    x.calls = n ∧ x.result = .ok (.ok value)
  failure : FailsUpTo outcomes policy.maxAttempts.toNat →
    x.calls = policy.maxAttempts.toNat ∧
      ∃ e, outcomes policy.maxAttempts.toNat = .error e ∧ x.result = .ok (.error e)
  between : x.sleeps.length = x.calls - 1
  exact : ∀ i sleep, x.sleeps[i]? = some sleep → sleep.cappedMs.toNat = policy.exactMs (i + 1)
  sorted : x.sleeps.Pairwise fun a b => a.cappedMs ≤ b.cappedMs
  bounded : ∀ sleep ∈ x.sleeps, sleep.cappedMs ≤ sleep.durationMs ∧
    sleep.durationMs.toNat ≤ 45000

/-- The delay after an attempt fits, or it wraps to something above the cap. -/
def DelayFits (build : Build) (policy : RetryPolicy) (attempt : Nat) : Prop :=
  match build with
  | .debug => 2 ^ (attempt - 1) < 2 ^ 64 ∧ policy.baseDelayMs.toNat * 2 ^ (attempt - 1) < 2 ^ 64
  | .release => policy.baseDelayMs.toNat * 2 ^ (attempt - 1) < 2 ^ 64 ∨
      30000 ≤ policy.baseDelayMs.toNat * 2 ^ (attempt - 1) % 2 ^ 64

end

/-! ## One delay -/

theorem word_of_lt {build : Build} {exact : Nat} (h : exact < 2 ^ 64) :
    build.word exact = .ok (UInt64.ofNat exact) := by
  cases build with
  | debug => exact if_pos h
  | release => rfl

theorem word_debug_of_le {exact : Nat} (h : 2 ^ 64 ≤ exact) :
    Build.debug.word exact = .error .overflow := if_neg (Nat.not_lt.mpr h)

theorem toNat_capMs (expMs : UInt64) : (capMs expMs).toNat = min expMs.toNat 30000 := by
  have hcap : (30000 : UInt64).toNat = 30000 := rfl
  unfold capMs
  split
  · next h =>
    rw [UInt64.lt_iff_toNat_lt, hcap] at h
    omega
  · next h =>
    rw [UInt64.lt_iff_toNat_lt, hcap] at h
    omega

/-- Half of the cap may come on top. -/
theorem capDelay_spec (build : Build) (jitter : Jitter) (attempt : UInt32) (expMs : UInt64) :
    ∃ sleep, capDelay build jitter attempt expMs = .ok sleep ∧
      sleep.cappedMs.toNat = min expMs.toNat 30000 ∧ sleep.cappedMs ≤ sleep.durationMs ∧
      sleep.durationMs.toNat ≤ 45000 := by
  have hcap := toNat_capMs expMs
  have hdraw := UInt64.le_iff_toNat_le.mp (jitter.draw_le attempt (capMs expMs / 2))
  have htwo : (2 : UInt64).toNat = 2 := rfl
  rw [UInt64.toNat_div, htwo] at hdraw
  have hfits : (capMs expMs).toNat + (jitter.draw attempt (capMs expMs / 2)).toNat < 2 ^ 64 := by
    omega
  have hsum := UInt64.toNat_ofNat_of_lt' hfits
  have hrun : capDelay build jitter attempt expMs =
      .ok ⟨capMs expMs, UInt64.ofNat ((capMs expMs).toNat +
        (jitter.draw attempt (capMs expMs / 2)).toNat)⟩ := by
    unfold capDelay
    dsimp only
    rw [word_of_lt hfits]
    rfl
  refine ⟨_, hrun, hcap, UInt64.le_iff_toNat_le.mpr ?_, ?_⟩
  · rw [hsum]
    exact Nat.le_add_right _ _
  · rw [hsum]
    omega

theorem computeDelay_of_words {build : Build} {jitter : Jitter} {policy : RetryPolicy}
    {attempt : UInt32} {power expMs : UInt64}
    (hpower : build.word (2 ^ (attempt - 1).toNat) = .ok power)
    (hexp : build.word (policy.baseDelayMs.toNat * power.toNat) = .ok expMs) :
    computeDelay build jitter policy attempt = capDelay build jitter attempt expMs := by
  unfold computeDelay
  rw [hpower]
  show (build.word (policy.baseDelayMs.toNat * power.toNat)).bind _ = _
  rw [hexp]
  rfl

theorem computeDelay_debug_overflow {jitter : Jitter} {policy : RetryPolicy} {attempt : UInt32}
    (h : ¬ (2 ^ (attempt - 1).toNat < 2 ^ 64 ∧
      policy.baseDelayMs.toNat * 2 ^ (attempt - 1).toNat < 2 ^ 64)) :
    computeDelay .debug jitter policy attempt = .error .overflow := by
  unfold computeDelay
  by_cases hpower : 2 ^ (attempt - 1).toNat < 2 ^ 64
  · have hexp : 2 ^ 64 ≤ policy.baseDelayMs.toNat * 2 ^ (attempt - 1).toNat :=
      Nat.not_lt.mp fun hlt => h ⟨hpower, hlt⟩
    rw [word_of_lt hpower]
    show (Build.debug.word (policy.baseDelayMs.toNat *
      (UInt64.ofNat (2 ^ (attempt - 1).toNat)).toNat)).bind _ = _
    rw [UInt64.toNat_ofNat_of_lt' hpower, word_debug_of_le hexp]
    rfl
  · rw [word_debug_of_le (Nat.not_lt.mp hpower)]
    rfl

/-- A wrapped value is capped as the exact one if it has not wrapped, or is above
the cap anyway. -/
theorem min_mod_iff (exact : Nat) :
    min (exact % 2 ^ 64) 30000 = min exact 30000 ↔
      exact < 2 ^ 64 ∨ 30000 ≤ exact % 2 ^ 64 := by
  constructor
  · intro h
    by_cases hlt : exact < 2 ^ 64
    · exact Or.inl hlt
    · right
      omega
  · intro h
    rcases h with hlt | hcapped
    · rw [Nat.mod_eq_of_lt hlt]
    · have hle := Nat.mod_le exact (2 ^ 64)
      omega

/-- **One delay**: it panics, or its part without jitter is exact if and only if
the delay fits. -/
theorem computeDelay_spec (build : Build) (jitter : Jitter) (policy : RetryPolicy)
    (attempt : UInt32) :
    (computeDelay build jitter policy attempt = .error .overflow ∧
      ¬ policy.DelayFits build ((attempt - 1).toNat + 1)) ∨
    ∃ sleep, computeDelay build jitter policy attempt = .ok sleep ∧
      (sleep.cappedMs.toNat = policy.exactMs ((attempt - 1).toNat + 1) ↔
        policy.DelayFits build ((attempt - 1).toNat + 1)) ∧
      sleep.cappedMs ≤ sleep.durationMs ∧ sleep.durationMs.toNat ≤ 45000 := by
  unfold exactMs DelayFits
  rw [Nat.add_sub_cancel]
  cases build with
  | debug =>
      dsimp only
      by_cases hfits : 2 ^ (attempt - 1).toNat < 2 ^ 64 ∧
          policy.baseDelayMs.toNat * 2 ^ (attempt - 1).toNat < 2 ^ 64
      · right
        have hpower := UInt64.toNat_ofNat_of_lt' hfits.1
        have hexp := hfits.2
        rw [← hpower] at hexp
        have hdelay : computeDelay .debug jitter policy attempt =
            capDelay .debug jitter attempt _ :=
          computeDelay_of_words (word_of_lt hfits.1) (word_of_lt hexp)
        obtain ⟨sleep, hsleep, hcapped, hbounds⟩ := capDelay_spec .debug jitter attempt
          (UInt64.ofNat (policy.baseDelayMs.toNat * (UInt64.ofNat (2 ^ (attempt - 1).toNat)).toNat))
        rw [UInt64.toNat_ofNat_of_lt' hexp, hpower] at hcapped
        exact ⟨sleep, hdelay.trans hsleep, iff_of_true hcapped hfits, hbounds⟩
      · exact Or.inl ⟨computeDelay_debug_overflow hfits, hfits⟩
  | release =>
      right
      dsimp only
      obtain ⟨sleep, hsleep, hcapped, hbounds⟩ := capDelay_spec .release jitter attempt
        (UInt64.ofNat (policy.baseDelayMs.toNat * (UInt64.ofNat (2 ^ (attempt - 1).toNat)).toNat))
      rw [UInt64.toNat_ofNat', UInt64.toNat_ofNat', Nat.mul_mod_mod] at hcapped
      refine ⟨sleep, (computeDelay_of_words rfl rfl).trans hsleep, ?_, hbounds⟩
      rw [hcapped]
      exact min_mod_iff _

/-! ## The loop -/

section
variable {ε τ : Type} {build : Build} {jitter : Jitter} {policy : RetryPolicy}
  {outcomes : Nat → Except ε τ}

/-- The sleeps after the first `n` attempts. -/
def Slept (build : Build) (jitter : Jitter) (policy : RetryPolicy) (n : Nat)
    (sleeps : List RetrySleep) : Prop :=
  sleeps.length = n ∧ ∀ i sleep, sleeps[i]? = some sleep →
    computeDelay build jitter policy (UInt32.ofNat (i + 1)) = .ok sleep

/-- The ways in which an execution may end. -/
inductive Ended (build : Build) (jitter : Jitter) (policy : RetryPolicy)
    (outcomes : Nat → Except ε τ) : Execution ε τ → Prop
  | succeeded {calls : Nat} {value : τ} {sleeps : List RetrySleep} (hfirst : 1 ≤ calls)
      (hmax : calls ≤ policy.maxAttempts.toNat) (hvalue : outcomes calls = .ok value)
      (hfails : FailsUpTo outcomes (calls - 1))
      (hslept : Slept build jitter policy (calls - 1) sleeps) :
      Ended build jitter policy outcomes ⟨.ok (.ok value), calls, sleeps⟩
  | exhausted {e : ε} {sleeps : List RetrySleep} (hmax : 1 ≤ policy.maxAttempts.toNat)
      (herror : outcomes policy.maxAttempts.toNat = .error e)
      (hfails : FailsUpTo outcomes policy.maxAttempts.toNat)
      (hslept : Slept build jitter policy (policy.maxAttempts.toNat - 1) sleeps) :
      Ended build jitter policy outcomes ⟨.ok (.error e), policy.maxAttempts.toNat, sleeps⟩
  | panicked {calls : Nat} {sleeps : List RetrySleep} (hfirst : 1 ≤ calls)
      (hmax : calls < policy.maxAttempts.toNat) (hfails : FailsUpTo outcomes calls)
      (hdelay : ¬ policy.DelayFits build calls) :
      Ended build jitter policy outcomes ⟨.error .overflow, calls, sleeps⟩
  | never (hmax : policy.maxAttempts.toNat = 0) :
      Ended build jitter policy outcomes ⟨.error .unwrapNone, 0, []⟩

theorem failsUpTo_succ {n : Nat} {e : ε} (h : FailsUpTo outcomes n)
    (herror : outcomes (n + 1) = .error e) : FailsUpTo outcomes (n + 1) := by
  intro k hfirst hk
  rcases Nat.lt_or_ge n k with hlt | hle
  · obtain rfl : k = n + 1 := by omega
    exact ⟨e, herror⟩
  · exact h k hfirst hle

theorem Slept.concat {n : Nat} {sleeps : List RetrySleep} {sleep : RetrySleep}
    (h : Slept build jitter policy n sleeps)
    (hdelay : computeDelay build jitter policy (UInt32.ofNat (n + 1)) = .ok sleep) :
    Slept build jitter policy (n + 1) (sleeps ++ [sleep]) := by
  obtain ⟨hlength, hsleeps⟩ := h
  refine ⟨by rw [List.length_append, hlength, List.length_singleton], fun i found hfound => ?_⟩
  rw [List.getElem?_append, hlength] at hfound
  split at hfound
  · exact hsleeps i found hfound
  · next hi =>
    obtain ⟨hpos, hsame⟩ := List.getElem?_eq_some_iff.mp hfound
    obtain rfl : i = n := by
      rw [List.length_singleton] at hpos
      omega
    simp only [Nat.sub_self, List.getElem_cons_zero] at hsame
    rw [← hsame]
    exact hdelay

/-- The number of the attempt before. -/
theorem toNat_attempt_sub_one {calls : Nat} (h : calls < 2 ^ 32) :
    (UInt32.ofNat (calls + 1) - 1).toNat = calls := by
  rw [UInt32.ofNat_add]
  show (UInt32.ofNat calls + 1 - 1).toNat = calls
  rw [UInt32.add_sub_cancel]
  exact UInt32.toNat_ofNat_of_lt' h

/-- **The loop** from the attempt after `calls` failed ones. -/
theorem ended_executeFrom {left calls : Nat} {lastErr : Option ε} {sleeps : List RetrySleep}
    (hleft : left + calls = policy.maxAttempts.toNat) (hfails : FailsUpTo outcomes calls)
    (hlast : ∀ e, lastErr = some e → outcomes calls = .error e)
    (hnone : lastErr = none ↔ calls = 0)
    (hslept : Slept build jitter policy (min calls (policy.maxAttempts.toNat - 1)) sleeps) :
    Ended build jitter policy outcomes
      (executeFrom build jitter policy outcomes left (UInt32.ofNat (calls + 1)) lastErr calls
        sleeps) := by
  induction left generalizing calls lastErr sleeps with
  | zero =>
      obtain rfl : calls = policy.maxAttempts.toNat := by omega
      cases hcases : lastErr with
      | none =>
          have hzero := hnone.mp hcases
          have hempty : sleeps = [] := List.length_eq_zero_iff.mp (by rw [hslept.1]; omega)
          rw [executeFrom, hzero, hempty]
          exact .never hzero
      | some e =>
          have hpos : policy.maxAttempts.toNat ≠ 0 := fun hzero => by
            rw [hnone.mpr hzero] at hcases
            cases hcases
          rw [executeFrom]
          rw [Nat.min_eq_right (Nat.sub_le _ _)] at hslept
          exact .exhausted (Nat.pos_of_ne_zero hpos) (hlast e hcases) hfails hslept
  | succ left ih =>
      have hbound := policy.maxAttempts.toNat_lt
      have hcalls : calls < policy.maxAttempts.toNat := by omega
      have hmin : min calls (policy.maxAttempts.toNat - 1) = calls := by omega
      rw [hmin] at hslept
      have hnext : UInt32.ofNat (calls + 1) + 1 = UInt32.ofNat (calls + 1 + 1) :=
        (UInt32.ofNat_add _ 1).symm
      unfold executeFrom
      cases houtcome : outcomes (calls + 1) with
      | ok value => exact .succeeded (by omega) hcalls houtcome hfails hslept
      | error e =>
          have hfails' := failsUpTo_succ hfails houtcome
          have hlast' : ∀ e', some e = some e' → outcomes (calls + 1) = .error e' := by
            intro e' hsame
            rw [← Option.some.inj hsame]
            exact houtcome
          dsimp only
          split
          · next hattempt =>
            have hmax : calls + 1 = policy.maxAttempts.toNat := by
              rw [← hattempt, UInt32.toNat_ofNat_of_lt']
              exact Nat.lt_of_le_of_lt hcalls hbound
            rw [hnext]
            apply ih (by omega) hfails' hlast' (by simp)
            rw [show min (calls + 1) (policy.maxAttempts.toNat - 1) = calls by omega]
            exact hslept
          · next hattempt =>
            have hmax : calls + 1 < policy.maxAttempts.toNat := by
              refine Nat.lt_of_le_of_ne hcalls fun hsame => hattempt ?_
              rw [hsame, UInt32.ofNat_toNat]
            have hdelay := computeDelay_spec build jitter policy (UInt32.ofNat (calls + 1))
            rw [toNat_attempt_sub_one (by omega)] at hdelay
            rcases hdelay with ⟨hpanic, hfits⟩ | ⟨sleep, hsleep, -⟩
            · rw [hpanic]
              exact .panicked (by omega) hmax hfails' hfits
            · rw [hsleep, hnext]
              apply ih (by omega) hfails' hlast' (by simp)
              rw [show min (calls + 1) (policy.maxAttempts.toNat - 1) = calls + 1 by omega]
              exact hslept.concat hsleep

/-- How an execution ends. -/
theorem ended_execute (build : Build) (jitter : Jitter) (policy : RetryPolicy)
    (outcomes : Nat → Except ε τ) :
    Ended build jitter policy outcomes (execute build jitter policy outcomes) := by
  refine ended_executeFrom (Nat.add_zero policy.maxAttempts.toNat) ?_ ?_ ?_ ?_
  · exact fun k hfirst hk => absurd hfirst (by omega)
  · exact fun e h => (by cases h)
  · simp
  · exact ⟨by simp, fun i sleep h => (by simp at h)⟩

/-! ## Safety -/

theorem FailsUpTo.mono {m n : Nat} (h : FailsUpTo outcomes n) (hle : m ≤ n) :
    FailsUpTo outcomes m := fun k hfirst hk => h k hfirst (Nat.le_trans hk hle)

/-- A success is not among failures. -/
theorem FailsUpTo.lt {n k : Nat} {value : τ} (h : FailsUpTo outcomes n) (hfirst : 1 ≤ k)
    (hvalue : outcomes k = .ok value) : n < k := by
  by_contra hle
  obtain ⟨e, he⟩ := h k hfirst (Nat.not_lt.mp hle)
  rw [hvalue] at he
  cases he

theorem exactMs_mono {a b : Nat} (h : a ≤ b) : policy.exactMs a ≤ policy.exactMs b := by
  unfold exactMs
  have hpow : 2 ^ (a - 1) ≤ 2 ^ (b - 1) := Nat.pow_le_pow_right (by omega) (by omega)
  have hmul := Nat.mul_le_mul_left policy.baseDelayMs.toNat hpow
  omega

/-- Each sleep is a delay of its attempt. -/
theorem Slept.delay {n : Nat} {sleeps : List RetrySleep} (h : Slept build jitter policy n sleeps)
    (hn : n < 2 ^ 32) {i : Nat} {sleep : RetrySleep} (hsleep : sleeps[i]? = some sleep) :
    i + 1 ≤ n ∧ (sleep.cappedMs.toNat = policy.exactMs (i + 1) ↔ policy.DelayFits build (i + 1)) ∧
      sleep.cappedMs ≤ sleep.durationMs ∧ sleep.durationMs.toNat ≤ 45000 := by
  have hi : i < n := by
    rw [← h.1]
    exact (List.getElem?_eq_some_iff.mp hsleep).1
  have hdelay := computeDelay_spec build jitter policy (UInt32.ofNat (i + 1))
  rw [toNat_attempt_sub_one (by omega), h.2 i sleep hsleep] at hdelay
  rcases hdelay with ⟨hpanic, -⟩ | ⟨found, hfound, hspec⟩
  · cases hpanic
  · obtain rfl := Except.ok.inj hfound
    exact ⟨hi, hspec⟩

/-- What a policy may be asked for. -/
def Suits (build : Build) (policy : RetryPolicy) (outcomes : Nat → Except ε τ) : Prop :=
  1 ≤ policy.maxAttempts.toNat ∧ ∀ attempt, 1 ≤ attempt → attempt < policy.maxAttempts.toNat →
    FailsUpTo outcomes attempt → policy.DelayFits build attempt

/-- The sleeps of an execution that suits its policy. -/
theorem Slept.safe {n : Nat} {sleeps : List RetrySleep} (h : Slept build jitter policy n sleeps)
    (hsuits : Suits build policy outcomes) (hn : n < policy.maxAttempts.toNat)
    (hfails : FailsUpTo outcomes n) :
    (∀ i sleep, sleeps[i]? = some sleep → sleep.cappedMs.toNat = policy.exactMs (i + 1)) ∧
      (sleeps.Pairwise fun a b => a.cappedMs ≤ b.cappedMs) ∧
      ∀ sleep ∈ sleeps, sleep.cappedMs ≤ sleep.durationMs ∧ sleep.durationMs.toNat ≤ 45000 := by
  have hbound := policy.maxAttempts.toNat_lt
  have hexact : ∀ i sleep, sleeps[i]? = some sleep →
      sleep.cappedMs.toNat = policy.exactMs (i + 1) := by
    intro i sleep hsleep
    obtain ⟨hi, hiff, -⟩ := h.delay (by omega) hsleep
    exact hiff.mpr (hsuits.2 (i + 1) (by omega) (by omega) (hfails.mono hi))
  refine ⟨hexact, ?_, ?_⟩
  · apply List.pairwise_iff_getElem.mpr
    intro i j hi hj hij
    have hcapped := hexact i _ (List.getElem?_eq_getElem hi)
    have hcapped' := hexact j _ (List.getElem?_eq_getElem hj)
    rw [UInt64.le_iff_toNat_le, hcapped, hcapped']
    exact exactMs_mono (by omega)
  · intro sleep hmem
    obtain ⟨i, hi, rfl⟩ := List.getElem_of_mem hmem
    exact (h.delay (by omega) (List.getElem?_eq_getElem hi)).2.2

/-- The delays of exact sleeps fit. -/
theorem Slept.fits {n : Nat} {sleeps : List RetrySleep} (h : Slept build jitter policy n sleeps)
    (hn : n < 2 ^ 32)
    (hexact : ∀ i sleep, sleeps[i]? = some sleep → sleep.cappedMs.toNat = policy.exactMs (i + 1))
    {attempt : Nat} (hfirst : 1 ≤ attempt) (hattempt : attempt ≤ n) :
    policy.DelayFits build attempt := by
  obtain ⟨i, rfl⟩ := Nat.exists_eq_add_of_le' hfirst
  have hi : i < sleeps.length := by
    rw [h.1]
    omega
  have hsleep := List.getElem?_eq_getElem hi
  exact (h.delay hn hsleep).2.1.mp (hexact i _ hsleep)

theorem safe_of_suits (jitter : Jitter) (hsuits : Suits build policy outcomes) :
    Safe policy outcomes (execute build jitter policy outcomes) := by
  have hended := ended_execute build jitter policy outcomes
  generalize execute build jitter policy outcomes = x at hended ⊢
  cases hended with
  | @succeeded calls value sleeps hfirst hmax hvalue hfails hslept =>
      obtain ⟨hexact, hsorted, hbounded⟩ := hslept.safe hsuits (by omega) hfails
      refine ⟨⟨_, rfl⟩, ?_, ?_, hslept.1, hexact, hsorted, hbounded⟩
      · intro n other hother _
        have hlt := hfails.lt hother.1 hother.2.1
        have hlt' := hother.2.2.lt hfirst hvalue
        have hfirst' := hother.1
        obtain rfl : calls = n := by omega
        obtain rfl := Except.ok.inj (hvalue.symm.trans hother.2.1)
        exact ⟨rfl, rfl⟩
      · intro hall
        have hlt := hall.lt hfirst hvalue
        omega
  | @exhausted e sleeps hmax herror hfails hslept =>
      obtain ⟨hexact, hsorted, hbounded⟩ := hslept.safe hsuits (by omega)
        (hfails.mono (Nat.sub_le _ _))
      refine ⟨⟨_, rfl⟩, ?_, fun _ => ⟨rfl, e, herror, rfl⟩, hslept.1, hexact, hsorted, hbounded⟩
      intro n other hother hle
      have hlt := hfails.lt hother.1 hother.2.1
      omega
  | panicked hfirst hmax hfails hdelay => exact absurd (hsuits.2 _ hfirst hmax hfails) hdelay
  | never hmax =>
      have hpos := hsuits.1
      omega

theorem suits_of_safe {jitter : Jitter}
    (h : Safe policy outcomes (execute build jitter policy outcomes)) :
    Suits build policy outcomes := by
  have hbound := policy.maxAttempts.toNat_lt
  have hended := ended_execute build jitter policy outcomes
  generalize execute build jitter policy outcomes = x at hended h
  cases hended with
  | @succeeded calls value sleeps hfirst hmax hvalue hfails hslept =>
      refine ⟨by omega, fun attempt hattempt hlt hfailing => ?_⟩
      have hbefore := hfailing.lt hfirst hvalue
      exact hslept.fits (by omega) h.exact hattempt (by omega)
  | exhausted hmax herror hfails hslept =>
      exact ⟨hmax, fun attempt hattempt hlt _ =>
        hslept.fits (by omega) h.exact hattempt (by omega)⟩
  | panicked =>
      obtain ⟨returned, hreturned⟩ := h.returns
      cases hreturned
  | never =>
      obtain ⟨returned, hreturned⟩ := h.returns
      cases hreturned

/-- **When a retry is safe**: there is at least one attempt, and the delay after
each attempt that is followed by another one fits into 64 bits or wraps to
something above the cap. -/
theorem retry_is_safe_iff (build : Build) (jitter : Jitter) (policy : RetryPolicy)
    (outcomes : Nat → Except ε τ) :
    Safe policy outcomes (execute build jitter policy outcomes) ↔
      1 ≤ policy.maxAttempts.toNat ∧
      ∀ attempt, 1 ≤ attempt → attempt < policy.maxAttempts.toNat →
        FailsUpTo outcomes attempt → policy.DelayFits build attempt :=
  ⟨suits_of_safe, safe_of_suits jitter⟩

end

/-! ## Where it is not -/

/-- An operation that never succeeds. -/
def permanentFailure : Nat → Except String Unit := fun _ => .error "permanent"

theorem failsUpTo_permanentFailure (n : Nat) : FailsUpTo permanentFailure n :=
  fun _ _ _ => ⟨_, rfl⟩

/-- Without attempts there is no last error; with the default base, the delay
after attempt 63 wraps to zero; with overflow checks, attempt 65 panics whatever
the base. -/
theorem retry_is_unsafe :
    ¬ Safe ⟨0, 100⟩ permanentFailure (execute .release .none ⟨0, 100⟩ permanentFailure) ∧
    ¬ Safe ⟨64, 100⟩ permanentFailure (execute .release .none ⟨64, 100⟩ permanentFailure) ∧
    ¬ Safe ⟨66, 0⟩ permanentFailure (execute .debug .none ⟨66, 0⟩ permanentFailure) := by
  refine ⟨fun h => ?_, fun h => ?_, fun h => ?_⟩
  · exact absurd (suits_of_safe h).1 (by decide)
  · have hfits := (suits_of_safe h).2 63 (by decide) (by decide) (failsUpTo_permanentFailure 63)
    rcases hfits with hlt | hcapped
    · exact absurd hlt (by decide)
    · exact absurd hcapped (by decide)
  · have hfits := (suits_of_safe h).2 65 (by decide) (by decide) (failsUpTo_permanentFailure 65)
    exact absurd hfits.1 (by decide)

/-- The policy that the environment gives by default is safe in either build. -/
theorem default_is_safe (build : Build) (jitter : Jitter) {ε τ : Type}
    (outcomes : Nat → Except ε τ) :
    Safe ⟨5, 100⟩ outcomes (execute build jitter ⟨5, 100⟩ outcomes) := by
  apply safe_of_suits
  refine ⟨by decide, fun attempt hfirst hlt _ => ?_⟩
  have hfive : (5 : UInt32).toNat = 5 := rfl
  have hattempt : attempt < 5 := hlt
  have hpow : 2 ^ (attempt - 1) ≤ 2 ^ 3 := Nat.pow_le_pow_right (by omega) (by omega)
  have hbase : (100 : UInt64).toNat = 100 := rfl
  cases build with
  | debug =>
      show 2 ^ (attempt - 1) < 2 ^ 64 ∧ 100 * 2 ^ (attempt - 1) < 2 ^ 64
      omega
  | release =>
      show 100 * 2 ^ (attempt - 1) < 2 ^ 64 ∨ _
      omega

end RetryPolicy

end CheckpointRuntime
