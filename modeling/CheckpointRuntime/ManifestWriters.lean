import CheckpointRuntime.StorageKeys
import CheckpointRuntime.Library.PartialRun

/-!
# Is a manifest written once?

Any number of `write_manifest` calls, stepped one S3 call at a time, every call
free to fail.  A writer probes the key and then puts; nothing holds the key in
between, and the probe takes every error for absence, so a put may come upon a
manifest.  A manifest is written once exactly in the runs whose puts never come
upon another content.
-/

namespace CheckpointRuntime

open CallProgram PartialRun

/-- A `write_manifest` and what is left of it. -/
structure ManifestWriter where
  manifest : Manifest
  program : S3Program (Except String String)

/-- The writers that have been called, over one bucket. -/
structure WriterPool where
  bucket : Bucket
  writers : List ManifestWriter

/-- A writer is called, or the next S3 call of a writer takes place. -/
inductive WriterEvent
  | begin (manifest : Manifest)
  | call (writer : Nat) (fault : Fault)

/-- The key of a manifest. -/
def Manifest.key (manifest : Manifest) : String :=
  manifestKey manifest.runId manifest.checkpointId

namespace WriterPool

/-- Nobody has been called yet. -/
def init (bucket : Bucket) : WriterPool where
  bucket := bucket
  writers := []

def step (s : WriterPool) : WriterEvent → Option WriterPool
  | .begin manifest =>
      some { s with
        writers := s.writers ++
          [{ manifest := manifest, program := (writeManifest manifest).run }] }
  | .call writer fault => do
      let w ← s.writers[writer]?
      let (program, bucket) ← w.program.step bucketService fault s.bucket
      return { bucket := bucket, writers := s.writers.set writer { w with program := program } }

/-- What a bucket holds under the key of a manifest stays there. -/
def KeepsManifests (s s' : WriterPool) : Prop :=
  ∀ runId checkpointId body, s.bucket.get? (manifestKey runId checkpointId) = some body →
    s'.bucket.get? (manifestKey runId checkpointId) = some body

/-- Every writer that has returned a key has returned the key of its manifest,
and a manifest is there. -/
def Acknowledged (s : WriterPool) : Prop :=
  ∀ w ∈ s.writers, ∀ key, w.program.value? = some (.ok key) →
    key = w.manifest.key ∧ ∃ manifest, s.bucket.get? key = some (.manifest manifest)

/-- A put that takes effect finds nothing under its key, or what it writes. -/
def PutsFirst (s : WriterPool) : WriterEvent → Prop
  | .begin _ => True
  | .call writer fault =>
      match (s.writers[writer]?).bind (fun w => w.program.nextOp?) with
      | some (.putObject key body) =>
          fault = .refused ∨ s.bucket.get? key = none ∨ s.bucket.get? key = some body
      | _ => True

instance (s : WriterPool) (e : WriterEvent) : Decidable (s.PutsFirst e) := by
  cases e with
  | begin manifest => exact isTrue trivial
  | call writer fault =>
      unfold PutsFirst
      dsimp only
      split <;> infer_instance

/-! ## The phases of a writer -/

/-- What is left of a writer whose probe has not found the manifest. -/
def putManifest (manifest : Manifest) : S3Program (Except String String) :=
  .call (.putObject manifest.key (.manifest manifest)) fun put =>
    match put with
    | .ok _ => .done (.ok manifest.key)
    | .error e => .done (.error e.message)

theorem writeManifest_run (manifest : Manifest) :
    (writeManifest manifest).run =
      .call (.headObject manifest.key) fun probe =>
        match probe with
        | .ok _ => .done (.ok manifest.key)
        | .error _ => putManifest manifest := by
  unfold writeManifest
  show Program.call _ _ = _
  congr 1
  funext probe
  cases probe with
  | ok _ => rfl
  | error _ =>
      show Program.call _ _ = Program.call _ _
      congr 1
      funext put
      cases put <;> rfl

/-- The put of a writer: it takes effect unless it is refused, and the writer
learns of it unless the reply is lost. -/
theorem putManifest_step (manifest : Manifest) (fault : Fault) (b : Bucket) :
    (putManifest manifest).step bucketService fault b =
      match fault with
      | .none => some (.done (.ok manifest.key), b.store manifest.key (.manifest manifest))
      | .refused => some (.done (.error S3Error.dispatch.message), b)
      | .lost =>
          some (.done (.error S3Error.timeout.message),
            b.store manifest.key (.manifest manifest)) := by
  cases fault <;> rfl

/-- How far a writer has come: it probes, it puts, it has returned a key under
which there is an object, or it has failed. -/
inductive Progress (b : Bucket) (manifest : Manifest)
    (program : S3Program (Except String String)) : Prop
  | probing (h : program = (writeManifest manifest).run)
  | putting (h : program = putManifest manifest)
  | returned (h : program = .done (.ok manifest.key)) (hkey : b.get? manifest.key ≠ none)
  | failed (message : String) (h : program = .done (.error message))

/-- Every writer is somewhere on its way. -/
def Underway (s : WriterPool) : Prop :=
  ∀ w ∈ s.writers, Progress s.bucket w.manifest w.program

/-- What a step does: a writer is called, a call leaves the bucket alone, or a
put takes effect. -/
inductive WriterMove (s : WriterPool) : WriterEvent → WriterPool → Prop
  | begin (manifest : Manifest) :
      WriterMove s (.begin manifest) { s with
        writers := s.writers ++
          [{ manifest := manifest, program := (writeManifest manifest).run }] }
  | quiet {writer : Nat} {fault : Fault} {w : ManifestWriter}
      {program : S3Program (Except String String)} (hw : s.writers[writer]? = some w)
      (hquiet : fault = .refused ∨ w.program.nextOp? = some (.headObject w.manifest.key))
      (hprogram : Progress s.bucket w.manifest program) :
      WriterMove s (.call writer fault)
        { s with writers := s.writers.set writer { w with program := program } }
  | put {writer : Nat} {fault : Fault} {w : ManifestWriter}
      {program : S3Program (Except String String)} (hw : s.writers[writer]? = some w)
      (hfault : fault ≠ .refused) (hput : w.program = putManifest w.manifest)
      (hprogram : ∀ b, b.get? w.manifest.key ≠ none → Progress b w.manifest program) :
      WriterMove s (.call writer fault)
        { bucket := s.bucket.store w.manifest.key (.manifest w.manifest)
          writers := s.writers.set writer { w with program := program } }

theorem step_cases {s s' : WriterPool} {e : WriterEvent} (hs : s.Underway)
    (h : s.step e = some s') : WriterMove s e s' := by
  cases e with
  | begin manifest =>
      obtain rfl := Option.some.inj h
      exact .begin manifest
  | call writer fault =>
      simp only [step, Option.bind_eq_bind, Option.bind_eq_some_iff] at h
      obtain ⟨w, hw, ⟨program, bucket⟩, hcall, hs'⟩ := h
      obtain rfl := Option.some.inj hs'
      have hprogress := hs w (List.mem_of_getElem? hw)
      obtain ⟨manifest, rest⟩ := w
      dsimp only at hcall hprogress
      cases hprogress with
      | probing hrest =>
          rw [hrest, writeManifest_run] at hcall
          obtain ⟨rfl, rfl⟩ := Prod.mk.inj (Option.some.inj hcall)
          have hprobe : rest.nextOp? = some (.headObject manifest.key) := by
            rw [hrest, writeManifest_run]
            rfl
          rcases answer_headObject fault s.bucket manifest.key with
            ⟨hkey, _, hanswer⟩ | ⟨_, e, hanswer⟩
          · rw [hanswer]
            exact .quiet hw (Or.inr hprobe) (.returned rfl hkey)
          · rw [hanswer]
            exact .quiet hw (Or.inr hprobe) (.putting rfl)
      | putting hrest =>
          rw [hrest, putManifest_step] at hcall
          cases fault with
          | none =>
              obtain ⟨rfl, rfl⟩ := Prod.mk.inj (Option.some.inj hcall)
              exact .put (w := ⟨manifest, rest⟩) hw (by decide) hrest fun _ hb => .returned rfl hb
          | refused =>
              obtain ⟨rfl, rfl⟩ := Prod.mk.inj (Option.some.inj hcall)
              exact .quiet hw (Or.inl rfl) (.failed _ rfl)
          | lost =>
              obtain ⟨rfl, rfl⟩ := Prod.mk.inj (Option.some.inj hcall)
              exact .put (w := ⟨manifest, rest⟩) hw (by decide) hrest fun _ _ => .failed _ rfl
      | returned hrest _ =>
          subst hrest
          cases hcall
      | failed message hrest =>
          subst hrest
          cases hcall

/-- An object that is there stays there, so a writer stays on its way. -/
theorem Progress.mono {b b' : Bucket} {manifest : Manifest}
    {program : S3Program (Except String String)} (h : Progress b manifest program)
    (hkept : b.get? manifest.key ≠ none → b'.get? manifest.key ≠ none) :
    Progress b' manifest program := by
  cases h with
  | probing hrest => exact .probing hrest
  | putting hrest => exact .putting hrest
  | returned hrest hkey => exact .returned hrest (hkept hkey)
  | failed message hrest => exact .failed message hrest

theorem Underway.step {s s' : WriterPool} {e : WriterEvent} (hs : s.Underway)
    (h : s.step e = some s') : s'.Underway := by
  intro w hw
  cases step_cases hs h with
  | begin manifest =>
      rcases List.mem_append.mp hw with hold | hnew
      · exact hs w hold
      · obtain rfl := List.mem_singleton.mp hnew
        exact .probing rfl
  | quiet hw' _ hprogram =>
      rcases List.mem_or_eq_of_mem_set hw with hold | rfl
      · exact hs w hold
      · exact hprogram
  | @put writer fault w' program hw' _ _ hprogram =>
      have hpresent : ∀ key, key = w'.manifest.key ∨ s.bucket.get? key ≠ none →
          (s.bucket.store w'.manifest.key (.manifest w'.manifest)).get? key ≠ none := by
        intro key hkey
        rw [Bucket.get?_store]
        split
        · simp
        · next hne => exact hkey.resolve_left hne
      rcases List.mem_or_eq_of_mem_set hw with hold | rfl
      · exact (hs w hold).mono fun hkey => hpresent _ (Or.inr hkey)
      · exact hprogram _ (hpresent _ (Or.inl rfl))

/-- A step keeps the manifests exactly when its put comes first. -/
theorem keepsManifests_iff_putsFirst {s s' : WriterPool} {e : WriterEvent} (hs : s.Underway)
    (h : s.step e = some s') : KeepsManifests s s' ↔ s.PutsFirst e := by
  cases step_cases hs h with
  | begin manifest => exact ⟨fun _ => trivial, fun _ _ _ _ hkey => hkey⟩
  | @quiet writer fault w program hw hquiet _ =>
      refine ⟨fun _ => ?_, fun _ _ _ _ hkey => hkey⟩
      rcases hquiet with rfl | hprobe
      · unfold PutsFirst
        dsimp only
        split
        · exact Or.inl rfl
        · exact trivial
      · simp [PutsFirst, hw, hprobe]
  | @put writer fault w program hw hfault hput _ =>
      have hnext : w.program.nextOp? = some (.putObject w.manifest.key (.manifest w.manifest)) := by
        rw [hput]
        rfl
      simp only [PutsFirst, hw, Option.bind_some, hnext, hfault, false_or]
      constructor
      · intro hkeeps
        cases hkey : s.bucket.get? w.manifest.key with
        | none => exact Or.inl rfl
        | some body =>
            right
            have hstays : (s.bucket.store w.manifest.key (.manifest w.manifest)).get?
                w.manifest.key = some body := hkeeps _ _ body hkey
            rw [Bucket.get?_store, if_pos rfl] at hstays
            exact hstays.symm
      · intro hfirst runId checkpointId body hkey
        rw [Bucket.get?_store]
        split
        · next hsame =>
          rw [hsame] at hkey
          rcases hfirst with hnone | hbody
          · rw [hnone] at hkey
            cases hkey
          · exact hbody.symm.trans hkey
        · exact hkey

/-- Only manifests are stored under keys of manifests. -/
def ManifestsOnly (b : Bucket) : Prop :=
  ∀ runId checkpointId body, b.get? (manifestKey runId checkpointId) = some body →
    ∃ manifest, body = .manifest manifest

theorem ManifestsOnly.step {s s' : WriterPool} {e : WriterEvent} (hs : s.Underway)
    (hb : ManifestsOnly s.bucket) (h : s.step e = some s') : ManifestsOnly s'.bucket := by
  cases step_cases hs h with
  | begin manifest => exact hb
  | quiet _ _ _ => exact hb
  | put _ _ _ _ =>
      intro runId checkpointId body hkey
      rw [Bucket.get?_store] at hkey
      split at hkey
      · exact ⟨_, (Option.some.inj hkey).symm⟩
      · exact hb _ _ body hkey

theorem acknowledged_of_underway {s : WriterPool} (hs : s.Underway)
    (hb : ManifestsOnly s.bucket) : s.Acknowledged := by
  intro w hw key hvalue
  have hprogress := hs w hw
  obtain ⟨manifest, program⟩ := w
  dsimp only at hvalue hprogress
  cases hprogress with
  | probing hrest =>
      rw [hrest, writeManifest_run] at hvalue
      cases hvalue
  | putting hrest =>
      subst hrest
      cases hvalue
  | failed message hrest =>
      subst hrest
      cases hvalue
  | returned hrest hpresent =>
      subst hrest
      obtain rfl := Except.ok.inj (Option.some.inj hvalue)
      refine ⟨rfl, ?_⟩
      obtain ⟨body, hbody⟩ := Option.ne_none_iff_exists'.mp hpresent
      obtain ⟨found, rfl⟩ := hb _ _ body hbody
      exact ⟨found, hbody⟩

theorem underway_init (bucket : Bucket) : (init bucket).Underway := by
  intro w hw
  cases hw

/-- The manifests of a run are kept exactly when every put comes first. -/
theorem ordered_iff_putsFirst (bucket : Bucket) (es : List WriterEvent) :
    Ordered step KeepsManifests (init bucket) es ↔ Guarded step PutsFirst (init bucket) es := by
  rw [ordered_iff_guarded step (R := KeepsManifests) (fun _ _ _ _ h => h)
    (fun _ _ _ hab hbc _ _ _ h => hbc _ _ _ (hab _ _ _ h))]
  refine guarded_next_congr step (I := Underway) (fun _ _ _ hs h => hs.step h) ?_
    (underway_init bucket)
  intro s e s' hs h
  exact keepsManifests_iff_putsFirst hs h

/-- **Write-once, exactly.**  Over any bucket, and whichever calls fail, the
manifests that a run finds or writes keep their content and every returned key
has a manifest, exactly when no put that takes effect finds another content
under its key. -/
theorem writeOnce_iff {bucket : Bucket} (hbucket : ManifestsOnly bucket)
    (es : List WriterEvent) :
    (Ordered step KeepsManifests (init bucket) es ∧
      Throughout step Acknowledged (init bucket) es) ↔
    Guarded step PutsFirst (init bucket) es := by
  rw [ordered_iff_putsFirst]
  refine ⟨fun h => h.1, fun h => ⟨h, ?_⟩⟩
  exact throughout_of_guarded step (I := fun s => s.Underway ∧ ManifestsOnly s.bucket)
    (fun _ _ _ hs _ hstep => ⟨hs.1.step hstep, hs.2.step hs.1 hstep⟩)
    (fun _ hs => acknowledged_of_underway hs.1 hs.2) ⟨underway_init bucket, hbucket⟩ h

/-- The manifest of one checkpoint, as a commit at a given time writes it. -/
def committedAt (now : Nat) : Manifest where
  checkpointId := "00000000000000c1"
  runId := "00000000000000a1"
  step := 10
  createdAt := now
  numShards := 0
  totalBytes := 0
  shards := []
  metadata := []

/-- A second writer whose probe finds the manifest of the first one. -/
theorem writeOnce_found :
    ManifestsOnly .empty ∧
      (let es := [.begin (committedAt 1), .call 0 .none, .call 0 .none,
        .begin (committedAt 2), .call 1 .none]
      Ordered step KeepsManifests (init .empty) es ∧
        Throughout step Acknowledged (init .empty) es) := by
  have hempty : ManifestsOnly .empty := by
    intro runId checkpointId body hkey
    cases hkey
  exact ⟨hempty, (writeOnce_iff hempty _).mpr (by decide +kernel)⟩

/-- Two writers that both probe before either puts, and a writer whose probe
fails while the manifest is there: the second put replaces the first content. -/
theorem manifest_replaced :
    ¬ Ordered step KeepsManifests (init .empty)
      [.begin (committedAt 1), .begin (committedAt 2), .call 0 .none, .call 1 .none,
        .call 0 .none, .call 1 .none] ∧
    ¬ Ordered step KeepsManifests (init .empty)
      [.begin (committedAt 1), .call 0 .none, .call 0 .none,
        .begin (committedAt 2), .call 1 .refused, .call 1 .none] := by
  rw [ordered_iff_putsFirst, ordered_iff_putsFirst]
  decide +kernel

end WriterPool

end CheckpointRuntime
