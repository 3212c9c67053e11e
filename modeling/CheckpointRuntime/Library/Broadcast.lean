import CheckpointRuntime.Library.PartialRun

/-!
# Broadcasting into bounded queues

A hub hands every message that is published on a topic to the subscribers of
the topic, through one queue of bounded length for each of them.  A message
that finds a queue full is dropped for that subscriber and for no other.
Subscribers are named by the order in which they came.

`kept_of_run` is the delivery theorem: what a subscriber has received or still
has waiting is what it had before, followed by a sublist of what was published
on its topic in the meantime, and by all of it exactly when the queue had room
at each publication.
-/

namespace Broadcast

open PartialRun

/-- A subscriber with the messages that wait for it and those it has taken. -/
structure Subscriber (τ μ : Type) where
  topic : τ
  waiting : List μ := []
  received : List μ := []
  isOpen : Bool := true

/-- All subscribers, the closed ones included. -/
abbrev Hub (τ μ : Type) := List (Subscriber τ μ)

inductive Op (τ μ : Type)
  | subscribe (topic : τ)
  | publish (topic : τ) (message : μ)
  | take (subscriber : Nat)
  | close (subscriber : Nat)

variable {τ μ : Type}

namespace Subscriber

/-- Put a message into the queue, unless the queue is full. -/
def offer (capacity : Nat) (message : μ) (s : Subscriber τ μ) : Subscriber τ μ :=
  if s.waiting.length < capacity then { s with waiting := s.waiting ++ [message] } else s

/-- What the subscriber has been given, taken or not. -/
def given (s : Subscriber τ μ) : List μ := s.received ++ s.waiting

@[simp] theorem topic_offer (capacity : Nat) (message : μ) (s : Subscriber τ μ) :
    (s.offer capacity message).topic = s.topic := by
  unfold offer
  split <;> rfl

@[simp] theorem isOpen_offer (capacity : Nat) (message : μ) (s : Subscriber τ μ) :
    (s.offer capacity message).isOpen = s.isOpen := by
  unfold offer
  split <;> rfl

@[simp] theorem received_offer (capacity : Nat) (message : μ) (s : Subscriber τ μ) :
    (s.offer capacity message).received = s.received := by
  unfold offer
  split <;> rfl

theorem given_offer (capacity : Nat) (message : μ) (s : Subscriber τ μ) :
    (s.offer capacity message).given =
      s.given ++ if s.waiting.length < capacity then [message] else [] := by
  by_cases hroom : s.waiting.length < capacity
  · simp [offer, given, hroom]
  · simp [offer, given, hroom]

end Subscriber

/-- A change to one subscriber that gives it nothing and does not open it does neither to
any other. -/
theorem subscriber_set {hub : Hub τ μ} {changed subscriber : Nat} {found s : Subscriber τ μ}
    (hfound : hub[changed]? = some found) (found' : Subscriber τ μ)
    (htopic : found'.topic = found.topic)
    (hopen : found'.isOpen = true → found.isOpen = true) (hgiven : found'.given = found.given)
    (hs : hub[subscriber]? = some s) :
    ∃ s', (hub.set changed found')[subscriber]? = some s' ∧ s'.topic = s.topic ∧
      (s'.isOpen = true → s.isOpen = true) ∧ s'.given = s.given := by
  by_cases hchanged : changed = subscriber
  · subst hchanged
    obtain rfl := Option.some.inj (hs.symm.trans hfound)
    have hlen := (List.getElem?_eq_some_iff.mp hs).1
    exact ⟨found', List.getElem?_set_self hlen, htopic, hopen, hgiven⟩
  · exact ⟨s, (List.getElem?_set_ne hchanged).trans hs, rfl, id, rfl⟩

section
variable [DecidableEq τ]

/-- Offer a message to the open subscribers of a topic. -/
def publish (capacity : Nat) (hub : Hub τ μ) (topic : τ) (message : μ) : Hub τ μ :=
  hub.map fun s => if s.isOpen ∧ s.topic = topic then s.offer capacity message else s

/-- One operation.  Only an open subscriber takes a message, and only one that
waits; a subscriber is closed once. -/
def step (capacity : Nat) (hub : Hub τ μ) : Op τ μ → Option (Hub τ μ)
  | .subscribe topic => some (hub ++ [{ topic := topic }])
  | .publish topic message => some (publish capacity hub topic message)
  | .take subscriber => do
      let s ← hub[subscriber]?
      match s.isOpen, s.waiting with
      | true, message :: rest =>
          some (hub.set subscriber
            { s with waiting := rest, received := s.received ++ [message] })
      | _, _ => none
  | .close subscriber => do
      let s ← hub[subscriber]?
      if s.isOpen then some (hub.set subscriber { s with isOpen := false }) else none

/-- The messages that some operations publish on a topic. -/
def published (topic : τ) (ops : List (Op τ μ)) : List μ :=
  ops.filterMap fun
    | .publish t message => if t = topic then some message else none
    | _ => none

@[simp] theorem published_nil (topic : τ) : published topic ([] : List (Op τ μ)) = [] := rfl

theorem published_cons (topic : τ) (op : Op τ μ) (ops : List (Op τ μ)) :
    published topic (op :: ops) = published topic [op] ++ published topic ops := by
  simp only [published]
  rw [← List.filterMap_append, List.singleton_append]

/-- The subscriber misses nothing that the operation publishes: if it is on the
subscriber's topic, the subscriber is open and its queue has room. -/
def HasRoom (capacity subscriber : Nat) (hub : Hub τ μ) (op : Op τ μ) : Prop :=
  ∀ s, hub[subscriber]? = some s → ∀ message, op = .publish s.topic message →
    s.isOpen = true ∧ s.waiting.length < capacity

variable {capacity subscriber : Nat} {hub hub' : Hub τ μ}

/-- An operation that publishes nothing on the topic of a subscriber gives it nothing. -/
theorem kept_of_unpublished {op : Op τ μ} {s s' : Subscriber τ μ}
    (hs : hub[subscriber]? = some s) (hother : ∀ message, op ≠ .publish s.topic message)
    (hs' : hub'[subscriber]? = some s') (htopic : s'.topic = s.topic)
    (hopen : s'.isOpen = true → s.isOpen = true) (hgiven : s'.given = s.given) :
    ∃ s' kept, hub'[subscriber]? = some s' ∧ s'.topic = s.topic ∧
      (s'.isOpen = true → s.isOpen = true) ∧ s'.given = s.given ++ kept ∧
      kept.Sublist (published s.topic [op]) ∧
      (kept = published s.topic [op] ↔ HasRoom capacity subscriber hub op) := by
  have hpublished : published s.topic [op] = [] := by
    cases op with
    | publish topic message =>
        have htopic : topic ≠ s.topic := fun h => hother message (h ▸ rfl)
        simp [published, htopic]
    | subscribe topic => rfl
    | take taker => rfl
    | close closer => rfl
  refine ⟨s', [], hs', htopic, hopen, ?_, List.nil_sublist _, iff_of_true hpublished.symm ?_⟩
  · rw [hgiven, List.append_nil]
  · intro found hfound message hop
    obtain rfl := Option.some.inj (hs.symm.trans hfound)
    exact absurd hop (hother message)

/-- A message on the topic of a subscriber reaches it exactly if it is open and its
queue has room. -/
theorem kept_of_publish {s : Subscriber τ μ} (hs : hub[subscriber]? = some s) (message : μ) :
    ∃ s' kept, (publish capacity hub s.topic message)[subscriber]? = some s' ∧
      s'.topic = s.topic ∧ (s'.isOpen = true → s.isOpen = true) ∧ s'.given = s.given ++ kept ∧
      kept.Sublist (published s.topic [Op.publish s.topic message]) ∧
      (kept = published s.topic [Op.publish s.topic message] ↔
        HasRoom capacity subscriber hub (.publish s.topic message)) := by
  have hpublished : published s.topic [Op.publish s.topic message] = [message] := by
    simp [published]
  have hroom : HasRoom capacity subscriber hub (.publish s.topic message) ↔
      s.isOpen = true ∧ s.waiting.length < capacity := by
    constructor
    · exact fun h => h s hs message rfl
    · intro h found hfound other _
      obtain rfl := Option.some.inj (hs.symm.trans hfound)
      exact h
  rw [hpublished, hroom]
  by_cases hopen : s.isOpen = true
  · refine ⟨s.offer capacity message, _, ?_, s.topic_offer .., ?_,
      s.given_offer capacity message, ?_, ?_⟩
    · simp [publish, hs, hopen]
    · rw [Subscriber.isOpen_offer]
      exact id
    · split
      · exact List.Sublist.refl _
      · exact List.nil_sublist _
    · by_cases hfull : s.waiting.length < capacity <;> simp [hfull, hopen]
  · refine ⟨s, [], ?_, rfl, id, (List.append_nil _).symm, List.nil_sublist _, ?_⟩
    · simp [publish, hs, hopen]
    · simp [hopen]

/-- What one operation does to one subscriber. -/
theorem kept_of_step {op : Op τ μ} {s : Subscriber τ μ} (hs : hub[subscriber]? = some s)
    (hstep : step capacity hub op = some hub') :
    ∃ s' kept, hub'[subscriber]? = some s' ∧ s'.topic = s.topic ∧
      (s'.isOpen = true → s.isOpen = true) ∧ s'.given = s.given ++ kept ∧
      kept.Sublist (published s.topic [op]) ∧
      (kept = published s.topic [op] ↔ HasRoom capacity subscriber hub op) := by
  cases op with
  | subscribe topic =>
      obtain rfl := Option.some.inj hstep
      have hs' : (hub ++ [{ topic := topic }])[subscriber]? = some s := by
        rw [List.getElem?_append_left (List.getElem?_eq_some_iff.mp hs).1, hs]
      exact kept_of_unpublished hs (fun _ h => (by cases h)) hs' rfl id rfl
  | publish topic message =>
      obtain rfl := Option.some.inj hstep
      by_cases htopic : s.topic = topic
      · subst htopic
        exact kept_of_publish hs message
      · have hs' : (publish capacity hub topic message)[subscriber]? = some s := by
          simp [publish, hs, htopic]
        refine kept_of_unpublished hs (fun _ h => ?_) hs' rfl id rfl
        injection h with h _
        exact htopic h.symm
  | take taker =>
      obtain ⟨found, hfound, hstep⟩ := Option.bind_eq_some_iff.mp hstep
      split at hstep
      · next message rest hopen hwaiting =>
        obtain rfl := Option.some.inj hstep
        obtain ⟨s', hs', htopic, hopen', hgiven⟩ := subscriber_set hfound
          { found with waiting := rest, received := found.received ++ [message] } rfl id
          (by simp [Subscriber.given, hwaiting]) hs
        exact kept_of_unpublished hs (fun _ h => (by cases h)) hs' htopic hopen' hgiven
      · cases hstep
  | close closer =>
      obtain ⟨found, hfound, hstep⟩ := Option.bind_eq_some_iff.mp hstep
      split at hstep
      · next hopen =>
        obtain rfl := Option.some.inj hstep
        obtain ⟨s', hs', htopic, hopen', hgiven⟩ := subscriber_set hfound
          { found with isOpen := false } rfl (fun _ => hopen) rfl hs
        exact kept_of_unpublished hs (fun _ h => (by cases h)) hs' htopic hopen' hgiven
      · cases hstep

/-- Two sublists fill two lists exactly when together they fill their
concatenation. -/
theorem append_eq_append_iff_of_sublist {α : Type} {as bs cs ds : List α} (hab : as.Sublist bs)
    (hcd : cs.Sublist ds) : as ++ cs = bs ++ ds ↔ as = bs ∧ cs = ds := by
  constructor
  · intro h
    have hlength := congrArg List.length h
    simp only [List.length_append] at hlength
    have hfirst := hab.length_le
    have hsecond := hcd.length_le
    exact ⟨hab.eq_of_length (by omega), hcd.eq_of_length (by omega)⟩
  · intro h
    rw [h.1, h.2]

/-- **Delivery.**  Over any operations, a subscriber is given a sublist of what
they publish on its topic, in the order of publication; it is given all of it
exactly when its queue has room at each publication. -/
theorem kept_of_run {ops : List (Op τ μ)} {s : Subscriber τ μ} (hs : hub[subscriber]? = some s)
    (hrun : run (step capacity) hub ops = some hub') :
    ∃ s' kept, hub'[subscriber]? = some s' ∧ s'.topic = s.topic ∧
      (s'.isOpen = true → s.isOpen = true) ∧ s'.given = s.given ++ kept ∧
      kept.Sublist (published s.topic ops) ∧
      (kept = published s.topic ops ↔
        Guarded (step capacity) (HasRoom capacity subscriber) hub ops) := by
  induction ops generalizing hub s with
  | nil =>
      obtain rfl := Option.some.inj hrun
      exact ⟨s, [], hs, rfl, id, (List.append_nil _).symm, List.Sublist.refl _,
        iff_of_true rfl trivial⟩
  | cons op ops ih =>
      obtain ⟨next, hnext, hrest⟩ := run_cons_some _ hrun
      obtain ⟨mid, first, hmid, hmidTopic, hmidOpen, hfirst, hfirstSub, hfirstRoom⟩ :=
        kept_of_step hs hnext
      obtain ⟨s', second, hs', htopic, hopen, hsecond, hsecondSub, hsecondRoom⟩ := ih hmid hrest
      rw [hmidTopic] at htopic hsecondSub hsecondRoom
      refine ⟨s', first ++ second, hs', htopic, fun h => hmidOpen (hopen h), ?_, ?_, ?_⟩
      · rw [hsecond, hfirst, List.append_assoc]
      · rw [published_cons]
        exact hfirstSub.append hsecondSub
      · rw [published_cons, append_eq_append_iff_of_sublist hfirstSub hsecondSub, hfirstRoom,
          hsecondRoom]
        constructor
        · intro h other hother
          obtain rfl := Option.some.inj (hnext.symm.trans hother)
          exact h
        · exact fun h => h next hnext

/-- No queue ever holds more than its capacity. -/
theorem waiting_le_of_run {ops : List (Op τ μ)}
    (hbound : ∀ s ∈ hub, s.waiting.length ≤ capacity)
    (hrun : run (step capacity) hub ops = some hub') :
    ∀ s ∈ hub', s.waiting.length ≤ capacity := by
  refine run_invariant (step capacity)
    (I := fun hub => ∀ s ∈ hub, s.waiting.length ≤ capacity) ?_ hbound hrun
  intro hub op hub' hbound hstep s hs
  cases op with
  | subscribe topic =>
      obtain rfl := Option.some.inj hstep
      rcases List.mem_append.mp hs with hold | hnew
      · exact hbound s hold
      · rw [List.mem_singleton.mp hnew]
        exact Nat.zero_le _
  | publish topic message =>
      obtain rfl := Option.some.inj hstep
      obtain ⟨old, hold, rfl⟩ := List.mem_map.mp hs
      have hle := hbound old hold
      split
      · unfold Subscriber.offer
        split
        · simp only [List.length_append, List.length_singleton]
          omega
        · exact hle
      · exact hle
  | take taker =>
      obtain ⟨found, hfound, hstep⟩ := Option.bind_eq_some_iff.mp hstep
      have hle := hbound found (List.mem_of_getElem? hfound)
      split at hstep
      · next message rest _ hwaiting =>
        obtain rfl := Option.some.inj hstep
        rcases List.mem_or_eq_of_mem_set hs with hold | rfl
        · exact hbound s hold
        · rw [hwaiting, List.length_cons] at hle
          exact Nat.le_of_succ_le hle
      · cases hstep
  | close closer =>
      obtain ⟨found, hfound, hstep⟩ := Option.bind_eq_some_iff.mp hstep
      split at hstep
      · obtain rfl := Option.some.inj hstep
        rcases List.mem_or_eq_of_mem_set hs with hold | rfl
        · exact hbound s hold
        · exact hbound found (List.mem_of_getElem? hfound)
      · cases hstep

/-- What holds of every topic subscribed to and of every message published on such
a topic holds of all subscribers and of all that they are given. -/
theorem given_of_step {T : τ → Prop} {P : τ → μ → Prop} {op : Op τ μ}
    (hhub : ∀ s ∈ hub, T s.topic ∧ ∀ m ∈ s.given, P s.topic m)
    (hsubscribe : ∀ topic, op = .subscribe topic → T topic)
    (hpublish : ∀ topic m, op = .publish topic m → T topic → P topic m)
    (hstep : step capacity hub op = some hub') :
    ∀ s ∈ hub', T s.topic ∧ ∀ m ∈ s.given, P s.topic m := by
  intro s hs
  cases op with
  | subscribe topic =>
      obtain rfl := Option.some.inj hstep
      rcases List.mem_append.mp hs with hold | hnew
      · exact hhub s hold
      · rw [List.mem_singleton.mp hnew]
        exact ⟨hsubscribe topic rfl, fun m hm => nomatch hm⟩
  | publish topic message =>
      obtain rfl := Option.some.inj hstep
      obtain ⟨old, hold, rfl⟩ := List.mem_map.mp hs
      obtain ⟨htopic, hgiven⟩ := hhub old hold
      split
      · next hmatch =>
        rw [Subscriber.topic_offer, Subscriber.given_offer]
        refine ⟨htopic, ?_⟩
        intro m hm
        rcases List.mem_append.mp hm with hm | hm
        · exact hgiven m hm
        · split at hm
          · rw [List.mem_singleton.mp hm]
            exact hpublish old.topic message (hmatch.2 ▸ rfl) htopic
          · cases hm
      · exact ⟨htopic, hgiven⟩
  | take taker =>
      obtain ⟨found, hfound, hstep⟩ := Option.bind_eq_some_iff.mp hstep
      obtain ⟨htopic, hgiven⟩ := hhub found (List.mem_of_getElem? hfound)
      split at hstep
      · next message rest _ hwaiting =>
        obtain rfl := Option.some.inj hstep
        rcases List.mem_or_eq_of_mem_set hs with hold | rfl
        · exact hhub s hold
        · refine ⟨htopic, ?_⟩
          intro m hm
          apply hgiven m
          simpa [Subscriber.given, hwaiting] using hm
      · cases hstep
  | close closer =>
      obtain ⟨found, hfound, hstep⟩ := Option.bind_eq_some_iff.mp hstep
      split at hstep
      · obtain rfl := Option.some.inj hstep
        rcases List.mem_or_eq_of_mem_set hs with hold | rfl
        · exact hhub s hold
        · exact hhub found (List.mem_of_getElem? hfound)
      · cases hstep

end

end Broadcast
