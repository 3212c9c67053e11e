import CheckpointRuntime.WorkerManager

/-!
# Who is told that a worker died, and when?

`heartbeat.py` with lease objects that are more than their contents.  A scan
walks a snapshot of the lease map, and while a callback runs, the map may change:
`unregister` marks the object that it removes, `register` puts a new object in
the place of an old one and leaves that as it is.  Each step reads the clock by
itself, and a callback that awaits is one that runs for longer.
-/

namespace CheckpointRuntime

open KeyedTable PartialRun

/-- An entry of `_leases`: a worker and where its lease object is. -/
structure LeaseSlot where
  workerId : String
  ref : Nat
deriving DecidableEq, Repr

/-- A worker that has been declared dead, and how many of the callbacks have
been invoked for it; the last of these may still be running. -/
structure Firing where
  workerId : String
  runId : String
  ref : Nat
  invoked : Nat
deriving DecidableEq, Repr

/-- A scan under way: the part of its snapshot that it has not reached. -/
structure LeaseScan where
  begun : Nat
  rest : List LeaseSlot
  firing : Option Firing := none

/-- What an observer notes: the renewals of leases, and the invocations of
callbacks with the lease that is stored for the worker at that moment. -/
inductive Notice
  | renewed (workerId : String)
  | called (callback : Nat) (workerId runId : String) (stored : Option WorkerLease) (now : Nat)
deriving DecidableEq, Repr

/-- The heartbeat manager, its lease objects and what has been noted, the latest
first. -/
structure LeaseMonitor where
  deadThreshold : Nat
  callbacks : Nat
  coordinator : Option WorkerCoordinator
  objects : Nat → Option WorkerLease := fun _ => none
  allocated : Nat := 0
  leases : Table LeaseSlot (·.workerId) := .empty
  scan : Option LeaseScan := none
  clock : Nat := 0
  notices : List Notice := []

namespace LeaseMonitor

/-! ## Lease management -/

/-- Where the lease of a worker is. -/
def stored (s : LeaseMonitor) (workerId : String) : Option Nat :=
  (s.leases.find workerId).map (·.ref)

def getLease (s : LeaseMonitor) (workerId : String) : Option WorkerLease :=
  (s.stored workerId).bind s.objects

/-- Change a lease object in place. -/
def edit (s : LeaseMonitor) (ref : Nat) (f : WorkerLease → WorkerLease) : LeaseMonitor :=
  { s with objects := fun r => if r = ref then (s.objects r).map f else s.objects r }

/-- `lease.is_alive = False` -/
def kill (lease : WorkerLease) : WorkerLease := { lease with isAlive := false }

/-- Create or update a lease for the given worker. -/
def register (s : LeaseMonitor) (workerId runId : String) (now : Nat) : LeaseMonitor :=
  let lease : WorkerLease := { workerId := workerId, runId := runId, lastHeartbeat := now }
  { s with
    objects := fun r => if r = s.allocated then some lease else s.objects r
    allocated := s.allocated + 1
    leases := s.leases.put .atEnd ⟨workerId, s.allocated⟩
    notices := .renewed workerId :: s.notices }

/-- Remove the lease for a worker; the removed object is marked dead. -/
def unregister (s : LeaseMonitor) (workerId : String) : LeaseMonitor :=
  match s.stored workerId with
  | none => s
  | some ref => { s.edit ref kill with leases := s.leases.erase workerId }

/-- Record a heartbeat from a worker. -/
def recordHeartbeat (s : LeaseMonitor) (workerId : String) (step : Int) (now : Nat) :
    LeaseMonitor :=
  match s.stored workerId with
  | none => s
  | some ref =>
      { s.edit ref (fun lease => lease.touch step now) with
        notices := .renewed workerId :: s.notices }

/-! ## Monitoring -/

/-- The next entry of the snapshot: an expired worker is declared dead, and its
callbacks come next. -/
def visit (s : LeaseMonitor) (scan : LeaseScan) (slot : LeaseSlot) (rest : List LeaseSlot)
    (now : Nat) : LeaseMonitor :=
  match s.objects slot.ref with
  | none => { s with scan := some { scan with rest := rest } }
  | some lease =>
      if lease.isAlive ∧ lease.lastHeartbeat + s.deadThreshold < now then
        { s.edit slot.ref kill with
          coordinator := s.coordinator.map fun c =>
            (c.markWorkerDead lease.runId slot.workerId .dead).1
          scan := some { scan with
            rest := rest
            firing := some ⟨slot.workerId, lease.runId, slot.ref, 0⟩ } }
      else
        { s with scan := some { scan with rest := rest } }

/-- Invoke the next callback. -/
def invoke (s : LeaseMonitor) (scan : LeaseScan) (firing : Firing) (now : Nat) : LeaseMonitor :=
  { s with
    scan := some { scan with firing := some { firing with invoked := firing.invoked + 1 } }
    notices := .called firing.invoked firing.workerId firing.runId
      (s.getLease firing.workerId) now :: s.notices }

/-- Go on with a scan: a callback that has returned or raised is followed by the
next one, the last one by the next entry, and the last entry by the end. -/
def proceed (s : LeaseMonitor) (scan : LeaseScan) (now : Nat) : LeaseMonitor :=
  match scan.firing with
  | some firing =>
      if firing.invoked < s.callbacks then
        s.invoke scan firing now
      else
        { s with scan := some { scan with firing := none } }
  | none =>
      match scan.rest with
      | [] => { s with scan := none }
      | slot :: rest => s.visit scan slot rest now

/-- `_check_workers` begins. -/
def checkWorkers (s : LeaseMonitor) (now : Nat) : LeaseMonitor :=
  { s with scan := some { begun := now, rest := s.leases.rows } }

/-- The leases change between scans and while a callback runs. -/
def interruptible (s : LeaseMonitor) : Bool :=
  match s.scan with
  | none => true
  | some scan =>
      match scan.firing with
      | none => false
      | some firing => decide (0 < firing.invoked)

end LeaseMonitor

/-- What may happen to the manager.  The callbacks of a scan act through the
first three, as do the tasks that run while one of them awaits. -/
inductive LeaseEvent
  | register (workerId runId : String)
  | unregister (workerId : String)
  | recordHeartbeat (workerId : String) (step : Int)
  | checkWorkers
  | proceed

namespace LeaseMonitor

/-- Let one thing happen at a clock reading. -/
def step (s : LeaseMonitor) (event : LeaseEvent × Nat) : Option LeaseMonitor :=
  if event.2 < s.clock then
    none
  else
    let s := { s with clock := event.2 }
    match event.1, s.scan with
    | .register workerId runId, _ =>
        if s.interruptible then some (s.register workerId runId event.2) else none
    | .unregister workerId, _ => if s.interruptible then some (s.unregister workerId) else none
    | .recordHeartbeat workerId step, _ =>
        if s.interruptible then some (s.recordHeartbeat workerId step event.2) else none
    | .checkWorkers, none => some (s.checkWorkers event.2)
    | .checkWorkers, some _ => none
    | .proceed, none => none
    | .proceed, some scan => some (s.proceed scan event.2)

end LeaseMonitor

/-- A callback is invoked while the lease that is stored for the worker is one of
that run and over the threshold. -/
def Notice.Justified (deadThreshold : Nat) : Notice → Prop
  | .renewed _ => True
  | .called _ _ runId stored now =>
      ∃ lease, stored = some lease ∧ lease.runId = runId ∧
        lease.lastHeartbeat + deadThreshold < now

/-- How often a callback has been invoked for a worker since its last renewal. -/
def callsSince (workerId : String) (callback : Nat) : List Notice → Nat
  | [] => 0
  | .renewed other :: notices =>
      if other = workerId then 0 else callsSince workerId callback notices
  | .called index other _ _ _ :: notices =>
      if index = callback ∧ other = workerId then callsSince workerId callback notices + 1
      else callsSince workerId callback notices

namespace LeaseMonitor

/-- Every invocation so far was justified, and no callback has been invoked twice
for a worker since its last renewal. -/
structure Fair (s : LeaseMonitor) : Prop where
  justified : ∀ notice ∈ s.notices, notice.Justified s.deadThreshold
  once : ∀ workerId callback, callsSince workerId callback s.notices ≤ 1

/-- A lease and where it is. -/
def view (s : LeaseMonitor) (workerId : String) : Option (Nat × WorkerLease) :=
  (s.stored workerId).bind fun ref => (s.objects ref).map fun lease => (ref, lease)

/-- When a callback comes next, the lease that was found expired is still the one
that is stored for the worker, and still dead. -/
def StillHeld (s : LeaseMonitor) (event : LeaseEvent × Nat) : Prop :=
  ∀ scan firing, event.1 = .proceed → s.scan = some scan → scan.firing = some firing →
    firing.invoked < s.callbacks →
      ∃ lease, s.view firing.workerId = some (firing.ref, lease) ∧ lease.isAlive = false

/-- A scan that is under way has taken no longer than the threshold. -/
def Quick (s : LeaseMonitor) (event : LeaseEvent × Nat) : Prop :=
  ∀ scan, s.scan = some scan → event.2 ≤ scan.begun + s.deadThreshold

/-- No lease, no scan, nothing noted. -/
def init (deadThreshold callbacks : Nat) (coordinator : Option WorkerCoordinator) :
    LeaseMonitor where
  deadThreshold := deadThreshold
  callbacks := callbacks
  coordinator := coordinator

/-! ## What can be seen of the leases -/

/-- Every stored lease is an object that belongs to its worker. -/
structure Sound (s : LeaseMonitor) : Prop where
  owned : ∀ workerId ref, s.stored workerId = some ref →
    ∃ lease, s.objects ref = some lease ∧ lease.workerId = workerId
  bounded : ∀ ref lease, s.objects ref = some lease → ref < s.allocated

section
variable {s s' : LeaseMonitor}

theorem view_eq_some_iff {workerId : String} {ref : Nat} {lease : WorkerLease} :
    s.view workerId = some (ref, lease) ↔
      s.stored workerId = some ref ∧ s.objects ref = some lease := by
  unfold view
  cases s.stored workerId with
  | none => simp
  | some other =>
      simp only [Option.bind_some, Option.map_eq_some_iff, Prod.mk.injEq, Option.some.injEq]
      constructor
      · intro h
        obtain ⟨found, hfound, rfl, rfl⟩ := h
        exact ⟨rfl, hfound⟩
      · intro h
        obtain ⟨rfl, hfound⟩ := h
        exact ⟨lease, hfound, rfl, rfl⟩

theorem getLease_eq_view (s : LeaseMonitor) (workerId : String) :
    s.getLease workerId = (s.view workerId).map Prod.snd := by
  unfold getLease view
  cases s.stored workerId with
  | none => rfl
  | some ref =>
      rw [Option.bind_some, Option.bind_some, Option.map_map]
      exact Option.map_id'.symm

/-- Two workers do not share a lease. -/
theorem Sound.stored_inj (hs : s.Sound) {workerId other : String} {ref : Nat}
    (h : s.stored workerId = some ref) (h' : s.stored other = some ref) : workerId = other := by
  obtain ⟨lease, hlease, rfl⟩ := hs.owned workerId ref h
  obtain ⟨lease', hlease', rfl⟩ := hs.owned other ref h'
  rw [Option.some.inj (hlease.symm.trans hlease')]

theorem stored_edit (s : LeaseMonitor) (ref : Nat) (f : WorkerLease → WorkerLease)
    (workerId : String) : (s.edit ref f).stored workerId = s.stored workerId := rfl

/-- Changing an object in place. -/
theorem view_edit (s : LeaseMonitor) (ref : Nat) (f : WorkerLease → WorkerLease)
    (workerId : String) : (s.edit ref f).view workerId =
      (s.view workerId).map fun found =>
        (found.1, if found.1 = ref then f found.2 else found.2) := by
  unfold view
  rw [stored_edit]
  cases s.stored workerId with
  | none => rfl
  | some other =>
      rw [Option.bind_some, Option.bind_some, Option.map_map]
      by_cases hother : other = ref
      · subst hother
        simp [edit, Function.comp_def]
      · simp [edit, hother, Function.comp_def]

theorem Sound.edit (hs : s.Sound) (ref : Nat) {f : WorkerLease → WorkerLease}
    (hf : ∀ lease, (f lease).workerId = lease.workerId) : (s.edit ref f).Sound := by
  constructor
  · intro workerId other hother
    obtain ⟨lease, hlease, hworker⟩ := hs.owned workerId other hother
    by_cases hsame : other = ref
    · have hedited : (s.edit ref f).objects other = (s.objects other).map f := if_pos hsame
      exact ⟨f lease, by rw [hedited, hlease, Option.map_some], (hf lease).trans hworker⟩
    · exact ⟨lease, (if_neg hsame).trans hlease, hworker⟩
  · intro other lease hlease
    by_cases hsame : other = ref
    · have hedited : (s.edit ref f).objects other = (s.objects other).map f := if_pos hsame
      obtain ⟨old, hold, _⟩ := Option.map_eq_some_iff.mp (hedited.symm.trans hlease)
      exact hs.bounded other old hold
    · exact hs.bounded other lease ((if_neg hsame).symm.trans hlease)

theorem stored_register (s : LeaseMonitor) (workerId runId : String) (now : Nat) (other : String) :
    (s.register workerId runId now).stored other =
      if other = workerId then some s.allocated else s.stored other := by
  unfold stored register
  rw [Table.find_put]
  split <;> rfl

theorem view_register (hs : s.Sound) (workerId runId : String) (now : Nat) (other : String) :
    (s.register workerId runId now).view other =
      if other = workerId then
        some (s.allocated, { workerId := workerId, runId := runId, lastHeartbeat := now })
      else s.view other := by
  unfold view
  rw [stored_register]
  by_cases hother : other = workerId
  · simp [hother, register]
  · rw [if_neg hother, if_neg hother]
    cases hstored : s.stored other with
    | none => rfl
    | some ref =>
        obtain ⟨lease, hlease, _⟩ := hs.owned other ref hstored
        have hne : ref ≠ s.allocated := Nat.ne_of_lt (hs.bounded ref lease hlease)
        simp [register, hne]

theorem sound_register (hs : s.Sound) (workerId runId : String) (now : Nat) :
    (s.register workerId runId now).Sound := by
  constructor
  · intro other ref hstored
    rw [stored_register] at hstored
    split at hstored
    · next hother =>
      obtain rfl := Option.some.inj hstored
      exact ⟨_, if_pos rfl, hother.symm⟩
    · obtain ⟨lease, hlease, hworker⟩ := hs.owned other ref hstored
      have hne : ref ≠ s.allocated := Nat.ne_of_lt (hs.bounded ref lease hlease)
      exact ⟨lease, (if_neg hne).trans hlease, hworker⟩
  · intro ref lease hlease
    have hif : (if ref = s.allocated then _ else s.objects ref) = some lease := hlease
    split at hif
    · next hsame => exact hsame ▸ Nat.lt_succ_self _
    · exact Nat.lt_succ_of_lt (hs.bounded ref lease hif)

theorem stored_unregister (s : LeaseMonitor) (workerId other : String) :
    (s.unregister workerId).stored other =
      if other = workerId then none else s.stored other := by
  unfold unregister
  cases hstored : s.stored workerId with
  | none =>
      by_cases hother : other = workerId
      · rw [if_pos hother, hother]
        exact hstored
      · rw [if_neg hother]
  | some ref =>
      dsimp only [stored]
      rw [Table.find_erase]
      by_cases hother : other = workerId
      · rw [if_pos hother, if_pos hother]
        rfl
      · rw [if_neg hother, if_neg hother]

theorem view_unregister (hs : s.Sound) (workerId other : String) :
    (s.unregister workerId).view other = if other = workerId then none else s.view other := by
  by_cases hother : other = workerId
  · unfold view
    rw [stored_unregister, if_pos hother, if_pos hother]
    rfl
  · rw [if_neg hother]
    unfold view
    rw [stored_unregister, if_neg hother]
    cases hfound : s.stored other with
    | none => rfl
    | some ref =>
        rw [Option.bind_some, Option.bind_some]
        apply congrArg _
        unfold unregister
        cases hstored : s.stored workerId with
        | none => rfl
        | some gone =>
            have hne : ref ≠ gone := by
              intro h
              subst h
              exact hother (hs.stored_inj hfound hstored)
            exact if_neg hne

theorem sound_unregister (hs : s.Sound) (workerId : String) : (s.unregister workerId).Sound := by
  have hstored := s.stored_unregister workerId
  constructor
  · intro other ref hother
    rw [hstored] at hother
    split at hother
    · cases hother
    · next hne =>
      obtain ⟨lease, hlease, hworker⟩ := hs.owned other ref hother
      have hview : s.view other = some (ref, lease) := view_eq_some_iff.mpr ⟨hother, hlease⟩
      have hkept := (view_unregister hs workerId other).trans (if_neg hne)
      exact ⟨lease, (view_eq_some_iff.mp (hkept.trans hview)).2, hworker⟩
  · unfold unregister
    split
    · exact hs.bounded
    · exact (hs.edit _ (f := kill) fun _ => rfl).bounded

theorem view_recordHeartbeat (hs : s.Sound) (workerId : String) (step : Int) (now : Nat)
    (other : String) : (s.recordHeartbeat workerId step now).view other =
      if other = workerId then
        (s.view workerId).map fun found => (found.1, found.2.touch step now)
      else s.view other := by
  unfold recordHeartbeat
  cases hstored : s.stored workerId with
  | none =>
      by_cases hother : other = workerId
      · simp [hother, view, hstored]
      · rw [if_neg hother]
  | some ref =>
      apply (s.view_edit ref (fun lease => lease.touch step now) other).trans
      by_cases hother : other = workerId
      · rw [if_pos hother, hother]
        apply Option.map_congr
        intro found hfound
        have href := (view_eq_some_iff.mp hfound).1
        rw [if_pos (Option.some.inj (href.symm.trans hstored))]
      · rw [if_neg hother]
        refine (Option.map_congr (g := id) fun found hfound => ?_).trans Option.map_id'
        have hne : found.1 ≠ ref := by
          intro hsame
          exact hother (hs.stored_inj ((view_eq_some_iff.mp hfound).1.trans
            (congrArg some hsame)) hstored)
        rw [if_neg hne]
        rfl

theorem sound_recordHeartbeat (hs : s.Sound) (workerId : String) (step : Int) (now : Nat) :
    (s.recordHeartbeat workerId step now).Sound := by
  unfold recordHeartbeat
  split
  · exact hs
  · obtain ⟨howned, hbounded⟩ := hs.edit _ (f := fun lease => lease.touch step now) fun _ => rfl
    exact ⟨howned, hbounded⟩

/-! ## What a step can do -/

/-- A worker has been registered, renewed or unregistered, or was not known. -/
structure Acted (s s' : LeaseMonitor) (workerId : String) (now : Nat) : Prop where
  sound : s'.Sound
  deadThreshold : s'.deadThreshold = s.deadThreshold
  scan : s'.scan = s.scan
  clock : s'.clock = s.clock
  others : ∀ other, other ≠ workerId → s'.view other = s.view other
  self : (s'.view workerId = none ∧ s'.notices = s.notices) ∨
    ∃ ref lease, s'.view workerId = some (ref, lease) ∧ lease.isAlive = true ∧
      now ≤ lease.lastHeartbeat ∧ s'.notices = .renewed workerId :: s.notices

theorem acted_register (hs : s.Sound) (workerId runId : String) (now : Nat) :
    Acted s (s.register workerId runId now) workerId now where
  sound := sound_register hs workerId runId now
  deadThreshold := rfl
  scan := rfl
  clock := rfl
  others := fun other hne => (view_register hs workerId runId now other).trans (if_neg hne)
  self := Or.inr ⟨_, _, (view_register hs workerId runId now workerId).trans (if_pos rfl), rfl,
    le_refl now, rfl⟩

theorem acted_unregister (hs : s.Sound) (workerId : String) (now : Nat) :
    Acted s (s.unregister workerId) workerId now := by
  have hview := view_unregister hs workerId
  refine ⟨sound_unregister hs workerId, ?_, ?_, ?_,
    fun other hne => (hview other).trans (if_neg hne),
    Or.inl ⟨(hview workerId).trans (if_pos rfl), ?_⟩⟩ <;>
  · unfold unregister
    split <;> rfl

theorem acted_recordHeartbeat (hs : s.Sound) (workerId : String) (step : Int) (now : Nat) :
    Acted s (s.recordHeartbeat workerId step now) workerId now := by
  have hview := view_recordHeartbeat hs workerId step now
  have hself := (hview workerId).trans (if_pos rfl)
  refine ⟨sound_recordHeartbeat hs workerId step now, ?_, ?_, ?_,
    fun other hne => (hview other).trans (if_neg hne), ?_⟩
  · unfold recordHeartbeat
    split <;> rfl
  · unfold recordHeartbeat
    split <;> rfl
  · unfold recordHeartbeat
    split <;> rfl
  · cases hstored : s.stored workerId with
    | none =>
        refine Or.inl ⟨hself.trans ?_, ?_⟩
        · simp [view, hstored]
        · simp [recordHeartbeat, hstored]
    | some ref =>
        obtain ⟨lease, hlease, _⟩ := hs.owned workerId ref hstored
        refine Or.inr ⟨ref, lease.touch step now, ?_, rfl, le_refl now, ?_⟩
        · rw [hself, view_eq_some_iff.mpr ⟨hstored, hlease⟩, Option.map_some]
        · simp [recordHeartbeat, hstored]

/-- What going on with a scan comes to. -/
inductive Proceeded (s : LeaseMonitor) (scan : LeaseScan) (now : Nat) : LeaseMonitor → Prop
  | called (firing : Firing) (hfiring : scan.firing = some firing)
      (hmore : firing.invoked < s.callbacks) : Proceeded s scan now (s.invoke scan firing now)
  | answered (firing : Firing) (hfiring : scan.firing = some firing) :
      Proceeded s scan now { s with scan := some { scan with firing := none } }
  | ended (hfiring : scan.firing = none) : Proceeded s scan now { s with scan := none }
  | passed (slot : LeaseSlot) (rest : List LeaseSlot) (hfiring : scan.firing = none)
      (hrest : scan.rest = slot :: rest) :
      Proceeded s scan now { s with scan := some { scan with rest := rest } }
  | declared (slot : LeaseSlot) (rest : List LeaseSlot) (lease : WorkerLease)
      (coordinator : Option WorkerCoordinator)
      (hrest : scan.rest = slot :: rest) (hlease : s.objects slot.ref = some lease)
      (halive : lease.isAlive = true)
      (hexpired : lease.lastHeartbeat + s.deadThreshold < now) :
      Proceeded s scan now { s.edit slot.ref kill with
        coordinator := coordinator
        scan := some { scan with
          rest := rest
          firing := some ⟨slot.workerId, lease.runId, slot.ref, 0⟩ } }

theorem proceed_cases (s : LeaseMonitor) (scan : LeaseScan) (now : Nat) :
    Proceeded s scan now (s.proceed scan now) := by
  unfold proceed
  cases hfiring : scan.firing with
  | some firing =>
      dsimp only
      split
      · next hmore => exact .called firing hfiring hmore
      · exact .answered firing hfiring
  | none =>
      cases hrest : scan.rest with
      | nil => exact .ended hfiring
      | cons slot rest =>
          dsimp only
          unfold visit
          have hpassed : Proceeded s scan now _ := .passed slot rest hfiring hrest
          cases hlease : s.objects slot.ref with
          | none => exact hpassed
          | some lease =>
              dsimp only
              split
              · next hdead => exact .declared slot rest lease _ hrest hlease hdead.1 hdead.2
              · exact hpassed

/-- What a step comes to, once the clock has been read. -/
inductive Stepped (s : LeaseMonitor) (event : LeaseEvent) (now : Nat) (s' : LeaseMonitor) : Prop
  | acted (workerId : String) (h : Acted s s' workerId now)
  | began (hscan : s.scan = none) (h : s' = s.checkWorkers now)
  | proceeded (scan : LeaseScan) (hevent : event = .proceed) (hscan : s.scan = some scan)
      (h : Proceeded s scan now s')

theorem step_cases (hs : s.Sound) {event : LeaseEvent} {now : Nat}
    (h : s.step (event, now) = some s') :
    s.clock ≤ now ∧ Stepped { s with clock := now } event now s' := by
  have hs' : Sound { s with clock := now } := ⟨hs.owned, hs.bounded⟩
  unfold step at h
  split at h
  · cases h
  · next hclock =>
    refine ⟨Nat.le_of_not_lt hclock, ?_⟩
    dsimp only at h
    split at h
    · obtain ⟨_, hsome⟩ := Option.ite_none_right_eq_some.mp h
      obtain rfl := Option.some.inj hsome
      exact .acted _ (acted_register hs' _ _ now)
    · obtain ⟨_, hsome⟩ := Option.ite_none_right_eq_some.mp h
      obtain rfl := Option.some.inj hsome
      exact .acted _ (acted_unregister hs' _ now)
    · obtain ⟨_, hsome⟩ := Option.ite_none_right_eq_some.mp h
      obtain rfl := Option.some.inj hsome
      exact .acted _ (acted_recordHeartbeat hs' _ _ now)
    · next hscan => exact .began hscan (Option.some.inj h).symm
    · cases h
    · cases h
    · next scan hscan =>
      obtain rfl := Option.some.inj h
      exact .proceeded scan rfl hscan (proceed_cases _ scan now)

/-! ## What is counted -/

theorem callsSince_renewed (workerId : String) (callback : Nat) (notices : List Notice) :
    callsSince workerId callback (.renewed workerId :: notices) = 0 := if_pos rfl

theorem callsSince_renewed_of_ne {workerId other : String} (hne : other ≠ workerId)
    (callback : Nat) (notices : List Notice) :
    callsSince other callback (.renewed workerId :: notices) = callsSince other callback notices :=
  if_neg hne.symm

theorem callsSince_called_of_ne {workerId other : String} {index callback : Nat}
    (hne : other ≠ workerId ∨ callback ≠ index) (runId : String) (found : Option WorkerLease)
    (now : Nat) (notices : List Notice) :
    callsSince other callback (.called index workerId runId found now :: notices) =
      callsSince other callback notices := by
  apply if_neg
  intro h
  obtain ⟨rfl, rfl⟩ := h
  exact hne.elim (fun h => h rfl) fun h => h rfl

/-- A renewal breaks nothing. -/
theorem Fair.renewed (h : s.Fair) (hthreshold : s'.deadThreshold = s.deadThreshold)
    {workerId : String} (hnotices : s'.notices = .renewed workerId :: s.notices) : s'.Fair := by
  constructor
  · rw [hnotices, hthreshold]
    exact List.forall_mem_cons.mpr ⟨trivial, h.justified⟩
  · intro other callback
    rw [hnotices]
    by_cases hother : other = workerId
    · rw [hother, callsSince_renewed]
      exact Nat.zero_le _
    · rw [callsSince_renewed_of_ne hother]
      exact h.once other callback

theorem Fair.of_notices (h : s.Fair) (hthreshold : s'.deadThreshold = s.deadThreshold)
    (hnotices : s'.notices = s.notices) : s'.Fair :=
  ⟨by rw [hnotices, hthreshold]; exact h.justified, by rw [hnotices]; exact h.once⟩

/-! ## Scans whose leases stay held -/

/-- What the next callback of a dead worker relies on. -/
def Pending (s : LeaseMonitor) (firing : Firing) : Prop :=
  ∀ lease, s.view firing.workerId = some (firing.ref, lease) → lease.isAlive = false →
    lease.runId = firing.runId ∧ lease.lastHeartbeat + s.deadThreshold < s.clock ∧
      ∀ callback, firing.invoked ≤ callback → callsSince firing.workerId callback s.notices = 0

/-- No callback has been invoked for a lease that is alive, and those that are
still to be invoked for a dead one have not been. -/
structure Ready (s : LeaseMonitor) : Prop where
  sound : s.Sound
  alive : ∀ workerId ref lease, s.view workerId = some (ref, lease) → lease.isAlive = true →
    ∀ callback, callsSince workerId callback s.notices = 0
  pending : ∀ scan firing, s.scan = some scan → scan.firing = some firing → s.Pending firing
  fair : s.Fair

theorem Ready.tick (h : s.Ready) {now : Nat} (hclock : s.clock ≤ now) :
    Ready { s with clock := now } where
  sound := ⟨h.sound.owned, h.sound.bounded⟩
  alive := h.alive
  pending := by
    intro scan firing hscan hfiring lease hlease hdead
    obtain ⟨hrun, hexpired, hnone⟩ := h.pending scan firing hscan hfiring lease hlease hdead
    exact ⟨hrun, lt_of_lt_of_le hexpired hclock, hnone⟩
  fair := ⟨h.fair.justified, h.fair.once⟩

theorem Ready.acted (h : s.Ready) {workerId : String} {now : Nat}
    (hacted : Acted s s' workerId now) : s'.Ready := by
  obtain ⟨hsound, hthreshold, hscan, hclock, hothers, hself⟩ := hacted
  have hcount : ∀ other, other ≠ workerId → ∀ callback,
      callsSince other callback s'.notices = callsSince other callback s.notices := by
    intro other hne callback
    rcases hself with ⟨_, hnotices⟩ | ⟨_, _, _, _, _, hnotices⟩
    · rw [hnotices]
    · rw [hnotices, callsSince_renewed_of_ne hne]
  refine ⟨hsound, ?_, ?_, ?_⟩
  · intro other ref lease hview halive callback
    by_cases hother : other = workerId
    · subst hother
      rcases hself with ⟨hnone, _⟩ | ⟨_, _, _, _, _, hnotices⟩
      · cases hnone.symm.trans hview
      · rw [hnotices, callsSince_renewed]
    · rw [hcount other hother]
      exact h.alive other ref lease ((hothers other hother).symm.trans hview) halive callback
  · intro scan firing hscan' hfiring lease hview hdead
    by_cases hother : firing.workerId = workerId
    · -- its lease is gone, or alive
      rw [hother] at hview
      rcases hself with ⟨hnone, _⟩ | ⟨_, _, hsome, halive, _, _⟩
      · cases hnone.symm.trans hview
      · obtain ⟨_, rfl⟩ := Prod.mk.inj (Option.some.inj (hsome.symm.trans hview))
        rw [halive] at hdead
        cases hdead
    · obtain ⟨hrun, hexpired, hnone⟩ := h.pending scan firing (hscan ▸ hscan') hfiring lease
        ((hothers _ hother).symm.trans hview) hdead
      refine ⟨hrun, by rw [hthreshold, hclock]; exact hexpired, fun callback hle => ?_⟩
      rw [hcount _ hother]
      exact hnone callback hle
  · rcases hself with ⟨_, hnotices⟩ | ⟨_, _, _, _, _, hnotices⟩
    · exact h.fair.of_notices hthreshold hnotices
    · exact h.fair.renewed hthreshold hnotices

/-- What is stored once a lease has been declared dead was stored before. -/
theorem view_declared (s : LeaseMonitor) (ref : Nat) {found : Nat} {workerId : String}
    {lease : WorkerLease} (h : (s.edit ref kill).view workerId = some (found, lease)) :
    ∃ old, s.view workerId = some (found, old) ∧ lease = if found = ref then kill old else old := by
  rw [view_edit] at h
  obtain ⟨⟨found', old⟩, hold, heq⟩ := Option.map_eq_some_iff.mp h
  obtain ⟨rfl, rfl⟩ := Prod.mk.inj heq
  exact ⟨old, hold, rfl⟩

theorem Ready.proceeded (h : s.Ready) {scan : LeaseScan} {now : Nat} (hscan : s.scan = some scan)
    (hheld : ∀ firing, scan.firing = some firing → firing.invoked < s.callbacks →
      ∃ lease, s.view firing.workerId = some (firing.ref, lease) ∧ lease.isAlive = false)
    (hnow : s.clock = now) (hstep : Proceeded s scan now s') : s'.Ready := by
  cases hstep with
  | called firing hfiring hmore =>
      obtain ⟨held, hview, hdead⟩ := hheld firing hfiring hmore
      obtain ⟨hrun, hexpired, hnone⟩ := h.pending scan firing hscan hfiring held hview hdead
      have hcount : ∀ other callback, other ≠ firing.workerId ∨ callback ≠ firing.invoked →
          callsSince other callback (s.invoke scan firing now).notices =
            callsSince other callback s.notices := fun other callback hne =>
        callsSince_called_of_ne hne _ _ _ _
      refine ⟨⟨h.sound.owned, h.sound.bounded⟩, ?_, ?_, ?_, ?_⟩
      · intro other ref lease hother halive callback
        have hne : other ≠ firing.workerId := by
          intro h
          subst h
          obtain ⟨_, rfl⟩ := Prod.mk.inj (Option.some.inj (hview.symm.trans hother))
          rw [hdead] at halive
          cases halive
        rw [hcount other callback (Or.inl hne)]
        exact h.alive other ref lease hother halive callback
      · intro scan' firing' hscan' hfiring' lease hlease _
        obtain rfl := Option.some.inj hscan'
        obtain rfl := Option.some.inj hfiring'
        obtain ⟨_, rfl⟩ := Prod.mk.inj (Option.some.inj (hview.symm.trans hlease))
        refine ⟨hrun, hexpired, fun callback hle => ?_⟩
        rw [hcount _ _ (Or.inr (Nat.ne_of_gt hle))]
        exact hnone callback (Nat.le_of_succ_le hle)
      · refine List.forall_mem_cons.mpr ⟨⟨held, ?_, hrun, hnow ▸ hexpired⟩, h.fair.justified⟩
        rw [getLease_eq_view, hview, Option.map_some]
      · intro other callback
        by_cases hother : other = firing.workerId ∧ callback = firing.invoked
        · obtain ⟨rfl, rfl⟩ := hother
          refine le_of_eq ((if_pos ⟨rfl, rfl⟩).trans ?_)
          rw [hnone _ (le_refl _)]
        · rw [hcount other callback (not_and_or.mp hother)]
          exact h.fair.once other callback
  | answered firing hfiring =>
      refine ⟨⟨h.sound.owned, h.sound.bounded⟩, h.alive, fun scan' firing' hscan' hfiring' => ?_,
        ⟨h.fair.justified, h.fair.once⟩⟩
      obtain rfl := Option.some.inj hscan'
      cases hfiring'
  | ended hfiring =>
      refine ⟨⟨h.sound.owned, h.sound.bounded⟩, h.alive, fun scan' firing' hscan' => ?_,
        ⟨h.fair.justified, h.fair.once⟩⟩
      cases hscan'
  | passed slot rest hfiring hrest =>
      refine ⟨⟨h.sound.owned, h.sound.bounded⟩, h.alive, fun scan' firing' hscan' hfiring' => ?_,
        ⟨h.fair.justified, h.fair.once⟩⟩
      obtain rfl := Option.some.inj hscan'
      cases hfiring.symm.trans hfiring'
  | declared slot rest lease coordinator hrest hlease halive hexpired =>
      have hedited := h.sound.edit slot.ref (f := kill) fun _ => rfl
      refine ⟨⟨hedited.owned, hedited.bounded⟩, ?_, ?_, ⟨h.fair.justified, h.fair.once⟩⟩
      · intro other ref found hfound hfoundAlive
        -- a lease that is alive afterwards is another one
        obtain ⟨old, hold, rfl⟩ := view_declared s slot.ref hfound
        split at hfoundAlive
        · cases hfoundAlive
        · exact h.alive other ref old hold hfoundAlive
      · intro scan' firing' hscan' hfiring' found hfound _
        obtain rfl := Option.some.inj hscan'
        obtain rfl := Option.some.inj hfiring'
        obtain ⟨old, hold, rfl⟩ := view_declared s slot.ref hfound
        obtain rfl : lease = old :=
          Option.some.inj (hlease.symm.trans (view_eq_some_iff.mp hold).2)
        rw [if_pos rfl]
        exact ⟨rfl, hnow ▸ hexpired, fun callback _ =>
          h.alive slot.workerId slot.ref lease hold halive callback⟩

/-- **A step before which the lease is still held.** -/
theorem Ready.step (h : s.Ready) {event : LeaseEvent × Nat} (hheld : s.StillHeld event)
    (hstep : s.step event = some s') : s'.Ready := by
  obtain ⟨event, now⟩ := event
  obtain ⟨hclock, hcase⟩ := step_cases h.sound hstep
  have htick := h.tick hclock
  cases hcase with
  | acted workerId hacted => exact htick.acted hacted
  | began hscan heq =>
      subst heq
      refine ⟨⟨h.sound.owned, h.sound.bounded⟩, h.alive, fun scan firing hscan' hfiring => ?_,
        ⟨h.fair.justified, h.fair.once⟩⟩
      obtain rfl := Option.some.inj hscan'
      cases hfiring
  | proceeded scan hevent hscan hproceeded =>
      exact htick.proceeded hscan
        (fun firing hfiring hmore => hheld scan firing hevent hscan hfiring hmore) rfl hproceeded

/-! ## Scans that are quick -/

/-- What is stored for a worker in place of what a scan knows of it is younger
than the scan. -/
structure Recent (s : LeaseMonitor) : Prop where
  sound : s.Sound
  begun : ∀ scan, s.scan = some scan → scan.begun ≤ s.clock
  rest : ∀ scan, s.scan = some scan → ∀ slot ∈ scan.rest, ∀ ref lease,
    s.view slot.workerId = some (ref, lease) → ref ≠ slot.ref → scan.begun ≤ lease.lastHeartbeat
  firing : ∀ scan firing, s.scan = some scan → scan.firing = some firing → ∀ ref lease,
    s.view firing.workerId = some (ref, lease) → ref ≠ firing.ref ∨ lease.isAlive = true →
      scan.begun ≤ lease.lastHeartbeat

theorem Recent.tick (h : s.Recent) {now : Nat} (hclock : s.clock ≤ now) :
    Recent { s with clock := now } where
  sound := ⟨h.sound.owned, h.sound.bounded⟩
  begun := fun scan hscan => (h.begun scan hscan).trans hclock
  rest := h.rest
  firing := h.firing

theorem Recent.acted (h : s.Recent) {workerId : String} {now : Nat} (hnow : s.clock = now)
    (hacted : Acted s s' workerId now) : s'.Recent := by
  obtain ⟨hsound, _, hscan, hclock, hothers, hself⟩ := hacted
  have hyoung : ∀ scan, s'.scan = some scan → ∀ ref lease,
      s'.view workerId = some (ref, lease) → scan.begun ≤ lease.lastHeartbeat := by
    intro scan hscan' ref lease hview
    rcases hself with ⟨hnone, _⟩ | ⟨_, _, hsome, _, hrenewed, _⟩
    · cases hnone.symm.trans hview
    · obtain ⟨_, rfl⟩ := Prod.mk.inj (Option.some.inj (hsome.symm.trans hview))
      exact ((h.begun scan (hscan ▸ hscan')).trans (le_of_eq hnow)).trans hrenewed
  refine ⟨hsound, fun scan hscan' => ?_, fun scan hscan' slot hslot ref lease hview hne => ?_,
    fun scan firing hscan' hfiring ref lease hview hor => ?_⟩
  · exact hclock ▸ h.begun scan (hscan ▸ hscan')
  · by_cases hother : slot.workerId = workerId
    · exact hyoung scan hscan' ref lease (hother ▸ hview)
    · exact h.rest scan (hscan ▸ hscan') slot hslot ref lease
        ((hothers _ hother).symm.trans hview) hne
  · by_cases hother : firing.workerId = workerId
    · exact hyoung scan hscan' ref lease (hother ▸ hview)
    · exact h.firing scan firing (hscan ▸ hscan') hfiring ref lease
        ((hothers _ hother).symm.trans hview) hor

theorem Recent.proceeded (h : s.Recent) {scan : LeaseScan} {now : Nat}
    (hscan : s.scan = some scan) (hstep : Proceeded s scan now s') : s'.Recent := by
  have hbegun := h.begun scan hscan
  have hrest := h.rest scan hscan
  have hsound : ∀ scan' coordinator notices, Sound { s with
      scan := scan', coordinator := coordinator, notices := notices } :=
    fun _ _ _ => ⟨h.sound.owned, h.sound.bounded⟩
  -- the scan goes on with some of its slots, and fires for the same one if at all
  have hgoOn : ∀ (scan' : LeaseScan) coordinator notices, scan'.begun = scan.begun →
      (∀ slot ∈ scan'.rest, slot ∈ scan.rest) →
      (∀ firing', scan'.firing = some firing' → ∃ firing, scan.firing = some firing ∧
        firing'.workerId = firing.workerId ∧ firing'.ref = firing.ref) →
      Recent { s with scan := some scan', coordinator := coordinator, notices := notices } := by
    intro scan' coordinator notices hsame hsub hfires
    refine ⟨hsound _ _ _, fun _ hscan' => ?_, fun _ hscan' slot hslot => ?_,
      fun _ firing' hscan' hfiring' ref lease hview hor => ?_⟩
    · obtain rfl := Option.some.inj hscan'
      exact hsame ▸ hbegun
    · obtain rfl := Option.some.inj hscan'
      exact hsame ▸ hrest slot (hsub slot hslot)
    · obtain rfl := Option.some.inj hscan'
      obtain ⟨firing, hfiring, hid, href⟩ := hfires firing' hfiring'
      rw [hsame]
      exact h.firing scan firing hscan hfiring ref lease (hid ▸ hview) (href ▸ hor)
  cases hstep with
  | called firing hfiring hmore =>
      refine hgoOn _ _ _ rfl (fun _ hslot => hslot) ?_
      intro firing' hfiring'
      obtain rfl := Option.some.inj hfiring'
      exact ⟨firing, hfiring, rfl, rfl⟩
  | answered firing hfiring =>
      exact hgoOn _ _ _ rfl (fun _ hslot => hslot) fun _ hfiring' => (by cases hfiring')
  | ended hfiring =>
      exact ⟨hsound _ _ _, fun _ hscan' => (by cases hscan'), fun _ hscan' => (by cases hscan'),
        fun _ _ hscan' => (by cases hscan')⟩
  | passed slot rest hfiring heq =>
      exact hgoOn _ _ _ rfl (fun _ hslot => heq ▸ List.mem_cons_of_mem _ hslot)
        fun firing' hfiring' => ⟨firing', hfiring', rfl, rfl⟩
  | declared slot rest lease coordinator heq hlease halive hexpired =>
      have hedited := h.sound.edit slot.ref (f := kill) fun _ => rfl
      have hkept : ∀ slot' ∈ scan.rest, ∀ ref found,
          (s.edit slot.ref kill).view slot'.workerId = some (ref, found) → ref ≠ slot'.ref →
            scan.begun ≤ found.lastHeartbeat := by
        intro slot' hslot' ref found hfound hne
        obtain ⟨old, hold, rfl⟩ := view_declared s slot.ref hfound
        have hbefore := hrest slot' hslot' ref old hold hne
        split <;> exact hbefore
      refine ⟨⟨hedited.owned, hedited.bounded⟩, fun scan' hscan' => ?_,
        fun scan' hscan' slot' hslot' => ?_,
        fun scan' firing' hscan' hfiring' ref found hfound hor => ?_⟩
      · obtain rfl := Option.some.inj hscan'
        exact hbegun
      · obtain rfl := Option.some.inj hscan'
        exact hkept slot' (heq ▸ List.mem_cons_of_mem _ hslot')
      · obtain rfl := Option.some.inj hscan'
        obtain rfl := Option.some.inj hfiring'
        apply hkept slot (heq ▸ List.mem_cons_self) ref found hfound
        -- the lease that has been declared dead is not alive
        intro h
        subst h
        obtain ⟨old, _, rfl⟩ := view_declared s slot.ref hfound
        rw [if_pos rfl] at hor
        exact hor.elim (fun hne => hne rfl) fun hyes => by cases hyes

theorem Recent.step (h : s.Recent) {event : LeaseEvent × Nat} (hstep : s.step event = some s') :
    s'.Recent := by
  obtain ⟨event, now⟩ := event
  obtain ⟨hclock, hcase⟩ := step_cases h.sound hstep
  have htick := h.tick hclock
  cases hcase with
  | acted workerId hacted => exact htick.acted rfl hacted
  | began hscan heq =>
      subst heq
      refine ⟨⟨h.sound.owned, h.sound.bounded⟩, fun scan hscan' => ?_, fun scan hscan' => ?_,
        fun scan firing hscan' hfiring => ?_⟩
      · obtain rfl := Option.some.inj hscan'
        exact le_refl now
      · -- the snapshot is what is stored
        obtain rfl := Option.some.inj hscan'
        intro slot hslot ref lease hview hne
        have hstored : s.stored slot.workerId = some slot.ref := by
          rw [stored, s.leases.find_of_mem hslot, Option.map_some]
        exact absurd (Option.some.inj ((view_eq_some_iff.mp hview).1.symm.trans hstored)) hne
      · obtain rfl := Option.some.inj hscan'
        cases hfiring
  | proceeded scan hevent hscan hproceeded => exact htick.proceeded hscan hproceeded

theorem proceed_called {scan : LeaseScan} {firing : Firing} (hfiring : scan.firing = some firing)
    (hmore : firing.invoked < s.callbacks) (now : Nat) :
    s.proceed scan now = s.invoke scan firing now := by
  unfold proceed
  rw [hfiring]
  exact if_pos hmore

/-- A quick scan finds out: what has taken the place of an expired lease has not
expired. -/
theorem Recent.stillHeld (h : s.Recent) {event : LeaseEvent × Nat} (hquick : s.Quick event)
    (hstep : s.step event = some s') (hfair : s'.Fair) : s.StillHeld event := by
  obtain ⟨event, now⟩ := event
  intro scan firing h hscan hfiring hmore
  subst h
  have hclock := (step_cases h.sound hstep).1
  have hcalled : s.step (.proceed, now) =
      some (({ s with clock := now } : LeaseMonitor).proceed scan now) := by
    unfold LeaseMonitor.step
    rw [if_neg (Nat.not_lt.mpr hclock)]
    dsimp only
    rw [hscan]
  obtain rfl := Option.some.inj (hcalled.symm.trans hstep)
  rw [proceed_called (s := { s with clock := now }) hfiring hmore] at hfair
  obtain ⟨lease, hlease, _, hexpired⟩ := hfair.justified _ List.mem_cons_self
  rw [getLease_eq_view] at hlease
  obtain ⟨⟨ref, found⟩, hview, rfl⟩ := Option.map_eq_some_iff.mp hlease
  have hold : ¬ (ref ≠ firing.ref ∨ found.isAlive = true) := by
    intro hor
    have hyoung := h.firing scan firing hscan hfiring ref found hview hor
    have hsoon := hquick scan hscan
    exact absurd hexpired (Nat.not_lt.mpr (hsoon.trans (Nat.add_le_add_right hyoung _)))
  obtain ⟨href, hdead⟩ := not_or.mp hold
  obtain rfl := not_not.mp href
  exact ⟨found, hview, (Bool.not_eq_true _).mp hdead⟩

/-! ## Runs -/

theorem sound_init (deadThreshold callbacks : Nat) (coordinator : Option WorkerCoordinator) :
    (init deadThreshold callbacks coordinator).Sound :=
  ⟨fun _ _ h => (by cases h), fun _ _ h => (by cases h)⟩

theorem ready_init (deadThreshold callbacks : Nat) (coordinator : Option WorkerCoordinator) :
    (init deadThreshold callbacks coordinator).Ready where
  sound := sound_init deadThreshold callbacks coordinator
  alive := fun _ _ _ h => by cases h
  pending := fun _ _ h => by cases h
  fair := ⟨fun _ h => (by cases h), fun _ _ => Nat.zero_le _⟩

theorem recent_init (deadThreshold callbacks : Nat) (coordinator : Option WorkerCoordinator) :
    (init deadThreshold callbacks coordinator).Recent where
  sound := sound_init deadThreshold callbacks coordinator
  begun := fun _ h => by cases h
  rest := fun _ h => by cases h
  firing := fun _ _ h => by cases h

/-- **Failure callbacks.**  They are justified and come once, as long as the
lease that a scan has found expired is still held whenever a callback comes
next; and where no scan takes longer than the threshold, only as long. -/
theorem callbacks_fair (deadThreshold callbacks : Nat) (coordinator : Option WorkerCoordinator)
    (events : List (LeaseEvent × Nat)) :
    let start := init deadThreshold callbacks coordinator
    (Guarded step StillHeld start events → Throughout step Fair start events) ∧
      (Guarded step Quick start events →
        (Throughout step Fair start events ↔ Guarded step StillHeld start events)) := by
  have hforward : Guarded step StillHeld (init deadThreshold callbacks coordinator) events →
      Throughout step Fair (init deadThreshold callbacks coordinator) events :=
    throughout_of_guarded step (fun _ _ _ h hheld hstep => h.step hheld hstep)
      (fun _ h => h.fair) (ready_init deadThreshold callbacks coordinator)
  refine ⟨hforward, fun hquick => ⟨fun hfair => ?_, hforward⟩⟩
  exact guarded_of_throughout step (fun _ _ _ h hstep => h.step hstep)
    (fun _ _ _ h _ hpre hstep hgood => h.stillHeld hpre hstep hgood)
    (recent_init deadThreshold callbacks coordinator) hquick hfair

end

/-- The callback for `w1` registers `w2` anew while the scan still has the old
lease of `w2` before it. -/
def replacedInScan : List (LeaseEvent × Nat) :=
  [(.register "w1" "a1", 0), (.register "w2" "a1", 0), (.checkWorkers, 100), (.proceed, 100),
    (.proceed, 100), (.register "w2" "a1", 101), (.proceed, 102), (.proceed, 102), (.proceed, 102)]

/-- The first of two callbacks renews the lease of its worker. -/
def renewedInScan : List (LeaseEvent × Nat) :=
  [(.register "w1" "a1", 0), (.checkWorkers, 100), (.proceed, 100), (.proceed, 100),
    (.recordHeartbeat "w1" 7, 101), (.proceed, 102)]

/-- A callback comes for a worker that has just registered, and one for a worker
that has just been heard from. -/
theorem callbacks_stale :
    ¬ Throughout step Fair (init 60 1 none) replacedInScan ∧
      ¬ Throughout step Fair (init 60 2 none) renewedInScan := by
  constructor
  · intro h
    let last := (run step (init 60 1 none) replacedInScan).get (by decide)
    have hrun : run step (init 60 1 none) replacedInScan = some last := (Option.some_get _).symm
    have hstale : Notice.called 0 "w2" "a1" (some ⟨"w2", "a1", 101, 0, true⟩) 102 ∈
        last.notices := by decide
    obtain ⟨lease, hlease, _, hexpired⟩ := (h.at_end step hrun).justified _ hstale
    obtain rfl := Option.some.inj hlease
    exact absurd hexpired (by decide)
  · intro h
    let last := (run step (init 60 2 none) renewedInScan).get (by decide)
    have hrun : run step (init 60 2 none) renewedInScan = some last := (Option.some_get _).symm
    have hstale : Notice.called 1 "w1" "a1" (some ⟨"w1", "a1", 101, 7, true⟩) 102 ∈
        last.notices := by decide
    obtain ⟨lease, hlease, _, hexpired⟩ := (h.at_end step hrun).justified _ hstale
    obtain rfl := Option.some.inj hlease
    exact absurd hexpired (by decide)

end LeaseMonitor

end CheckpointRuntime
