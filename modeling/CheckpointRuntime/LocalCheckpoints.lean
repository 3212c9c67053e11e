import CheckpointRuntime.CheckpointedTraining
import CheckpointRuntime.TrainingLogs

/-!
# Local checkpoints

Without a control plane `train.py` keeps its checkpoints on the local disk, one file a
step and rank.  The directory is all that a restarted rank goes by: which files are its
own, and which of them is the newest, is read off their names.  A save is not atomic, so
that a killed process may leave a file that is cut off.

`resumes_newest` says what a start with `--resume` takes up after any history,
`cut_save_wedges` what becomes of a rank whose newest file is cut off, and
`resume_together_iff` when the ranks of a group take up the same step.
-/

namespace CheckpointRuntime

open KeyedTable PartialRun StableListing TextPatterns

/-! ## The names of the files -/

/-- `f"checkpoint_step{step}_rank{rank}.pt"`. -/
def checkpointName (step rank : Nat) : Text :=
  "checkpoint_step".toList ++ (decimal step ++
    ("_rank".toList ++ (decimal rank ++ ".pt".toList)))

/-- `glob(f"checkpoint_step*_rank{rank}.pt")`, for one name. -/
def globsRank (rank : Nat) (name : Text) : Bool :=
  let front := "checkpoint_step".toList
  let back := "_rank".toList ++ (decimal rank ++ ".pt".toList)
  front.isPrefixOf name && back.isSuffixOf (name.drop front.length)

/-- `step(\d+)`. -/
def stepPattern : Pattern := word "step" ++ [.run 1 Char.isDigit true]

/-- The sort key of a file. -/
def stepInName (name : Text) : Nat :=
  match exec stepPattern name with
  | some [digits] => Nat.ofDigitChars 10 digits 0
  | _ => 0

structure CheckpointFile where
  name : Text
  content : Bytes

abbrev CheckpointDir := Table CheckpointFile CheckpointFile.name

/-- The files of a rank, in the order of `sorted`.  The directory may list its files in
any order. -/
def localCheckpoints (listing : List Text) (rank : Nat) : List Text :=
  byKey stepInName (listing.filter (globsRank rank))

/-! ## The training -/

/-- What local checkpoints need of PyTorch besides: the dictionary has the step, and a
file that is cut off does not load. -/
structure LocalTorch extends Torch where
  /-- `torch.load`, `load_state_dict` of the two states, and `state["step"]`. -/
  restore : Bytes → Option (Nat × Model)
  restore_save : ∀ (step : Nat) loss model, restore (save step loss model) = some (step, model)
  restore_cut : ∀ (step : Nat) loss model k, k < (save step loss model).length →
    restore ((save step loss model).take k) = none

/-- What `load_checkpoint_local` does: there is no file, or it returns a step and a
model, or raises. -/
inductive LocalLoad (torch : LocalTorch)
  | none
  | returned (step : Nat) (model : torch.Model)
  | raised

/-- Where a process stands: in the loop, before a save, or while the file is written. -/
inductive LocalPlace
  | looping
  | saving (final : Bool)
  | writing (final : Bool) (body : Bytes)

structure LocalProcess (torch : LocalTorch) where
  model : torch.Model
  step : Nat
  /-- `last_successful_checkpoint_step`. -/
  lastSuccessful : Option Nat
  place : LocalPlace

/-- The checkpoint directory, and the process of each rank, if it has one. -/
structure LocalTraining (torch : LocalTorch) where
  files : CheckpointDir
  processes : Nat → Option (LocalProcess torch)

/-- The step that a start begins with. -/
def LocalLoad.startStep? {torch : LocalTorch} : LocalLoad torch → Option Nat
  | .none => some 0
  | .returned step _ => some step
  | .raised => Option.none

/-- What a process may do. -/
inductive LocalAct (torch : LocalTorch)
  | batch (batch : torch.Batch)
  /-- The loop ends; a stop signal may have arrived. -/
  | leave (stopRequested : Bool)
  /-- `torch.save` creates the file, or empties it. -/
  | openFile (loss : torch.Loss)
  /-- So much has been written. -/
  | write (size : Nat)
  | closeFile
  /-- The save raises. -/
  | saveFails
  /-- The process is killed, or raises elsewhere. -/
  | die

inductive LocalEvent (torch : LocalTorch)
  | start (rank : Nat) (resume : Bool) (seed : Nat) (listing : List Text)
  | act (rank : Nat) (act : LocalAct torch)

/-- A process of the rank starts without `--resume`. -/
def LocalEvent.StartsOver {torch : LocalTorch} (rank : Nat) : LocalEvent torch → Prop
  | .start r resume _ _ => r = rank ∧ resume = false
  | .act _ _ => False

/-- Only rank 0 or a process that is alone saves checkpoints. -/
def SavesLocally (args : TrainArgs) (rank : Nat) : Prop := rank = 0 ∨ args.isDistributed = false

instance (args : TrainArgs) (rank : Nat) : Decidable (SavesLocally args rank) :=
  inferInstanceAs (Decidable (_ ∨ _))

namespace LocalProcess

variable {torch : LocalTorch}

/-- The loop is about to begin. -/
def begin (model : torch.Model) (step : Nat) : LocalProcess torch where
  model := model
  step := step
  lastSuccessful := if step > 0 then some step else none
  place := .looping

/-- A batch has been trained. -/
def trained (args : TrainArgs) (rank : Nat) (p : LocalProcess torch) (batch : torch.Batch) :
    LocalProcess torch :=
  let step := p.step + 1
  { p with
    model := torch.optimizerStep p.model batch
    step := step
    place :=
      if args.checkpointEvery > 0 ∧ (step : Int) % args.checkpointEvery = 0 ∧
          SavesLocally args rank then
        .saving false
      else
        .looping }

/-- A save has returned.  The final one is the last thing that a process does. -/
def saved (p : LocalProcess torch) (final : Bool) : Option (LocalProcess torch) :=
  if final then none else some { p with place := .looping, lastSuccessful := some p.step }

/-- A save has raised: in the loop this is logged. -/
def saveFailed (p : LocalProcess torch) (final : Bool) : Option (LocalProcess torch) :=
  if final then none else some { p with place := .looping }

end LocalProcess

namespace LocalTraining

variable {torch : LocalTorch}

/-- An empty directory, and nothing runs. -/
def init (torch : LocalTorch) : LocalTraining torch where
  files := .empty
  processes := fun _ => none

def names (t : LocalTraining torch) : List Text := t.files.rows.map (·.name)

def setProcess (t : LocalTraining torch) (rank : Nat) (p : Option (LocalProcess torch)) :
    LocalTraining torch :=
  { t with processes := fun r => if r = rank then p else t.processes r }

def setFile (t : LocalTraining torch) (name : Text) (content : Bytes) : LocalTraining torch :=
  { t with files := t.files.put .atEnd ⟨name, content⟩ }

/-- `load_checkpoint_local`. -/
def loadCheckpointLocal (t : LocalTraining torch) (listing : List Text) (rank : Nat) :
    LocalLoad torch :=
  match (localCheckpoints listing rank).getLast? with
  | none => .none
  | some latest =>
      match (t.files.find latest).bind fun file => torch.restore file.content with
      | none => .raised
      | some (step, model) => .returned step model

/-- `train` up to its loop. -/
def boot (t : LocalTraining torch) (rank : Nat) (resume : Bool) (seed : Nat)
    (listing : List Text) : Option (LocalProcess torch) :=
  let built := torch.buildModel seed
  if resume then
    match t.loadCheckpointLocal listing rank with
    | .none => some (.begin built 0)
    | .returned step model => some (.begin model step)
    | .raised => none
  else
    some (.begin built 0)

/-- What a process does next, if it can. -/
def act (args : TrainArgs) (t : LocalTraining torch) (rank : Nat) (p : LocalProcess torch) :
    LocalAct torch → Option (LocalTraining torch)
  | .batch batch =>
      match p.place with
      | .looping =>
          if (p.step : Int) < args.steps then
            some (t.setProcess rank (some (p.trained args rank batch)))
          else
            none
      | _ => none
  | .leave stopRequested =>
      match p.place with
      | .looping =>
          if args.steps ≤ p.step ∨ stopRequested then
            if p.lastSuccessful ≠ some p.step ∧ SavesLocally args rank then
              some (t.setProcess rank (some { p with place := .saving true }))
            else
              some (t.setProcess rank none)
          else
            none
      | _ => none
  | .openFile loss =>
      match p.place with
      | .saving final =>
          let body := torch.save p.step loss p.model
          some ((t.setFile (checkpointName p.step rank) []).setProcess rank
            (some { p with place := .writing final body }))
      | _ => none
  | .write size =>
      match p.place with
      | .writing _ body => some (t.setFile (checkpointName p.step rank) (body.take size))
      | _ => none
  | .closeFile =>
      match p.place with
      | .writing final body =>
          some ((t.setFile (checkpointName p.step rank) body).setProcess rank (p.saved final))
      | _ => none
  | .saveFails =>
      match p.place with
      | .saving final | .writing final _ => some (t.setProcess rank (p.saveFailed final))
      | _ => none
  | .die => some (t.setProcess rank none)

/-- Let one thing happen, if it can.  A rank has one process at a time. -/
def step (args : TrainArgs) (t : LocalTraining torch) :
    LocalEvent torch → Option (LocalTraining torch)
  | .start rank resume seed listing =>
      if (t.processes rank).isNone ∧ listing.Perm t.names then
        some (t.setProcess rank (t.boot rank resume seed listing))
      else
        none
  | .act rank act => (t.processes rank).bind fun p => t.act args rank p act

end LocalTraining

/-! ## What the names say -/

/-- What stands behind the last occurrence of a character. -/
theorem eq_of_append_cons_eq {α : Type} {c : α} {a b x y : List α} (hx : c ∉ x) (hy : c ∉ y)
    (h : a ++ c :: x = b ++ c :: y) : x = y := by
  rcases List.append_eq_append_iff.mp h with ⟨l, -, hl⟩ | ⟨l, -, hl⟩
  · cases l with
    | nil => exact (List.cons.inj hl).2
    | cons d l =>
        obtain ⟨-, rfl⟩ := List.cons.inj hl
        exact absurd (List.mem_append_right l List.mem_cons_self) hx
  · cases l with
    | nil => exact (List.cons.inj hl).2.symm
    | cons d l =>
        obtain ⟨-, rfl⟩ := List.cons.inj hl
        exact absurd (List.mem_append_right l List.mem_cons_self) hy

theorem decimal_injective {m n : Nat} (h : decimal m = decimal n) : m = n := by
  have hvalue := congrArg (fun digits => Nat.ofDigitChars 10 digits 0) h
  simpa only [decimal, Nat.ofDigitChars_ten_toDigits] using hvalue

/-- The part of a name behind its last underscore. -/
theorem rank_part_eq_iff {front front' : Text} {rank rank' : Nat} :
    front ++ ("_rank".toList ++ (decimal rank ++ ".pt".toList)) =
        front' ++ ("_rank".toList ++ (decimal rank' ++ ".pt".toList)) ↔
      front = front' ∧ rank = rank' := by
  constructor
  · intro h
    have hplain : ∀ n, '_' ∉ "rank".toList ++ (decimal n ++ ".pt".toList) := by
      intro n
      rw [List.mem_append, List.mem_append]
      have hword : '_' ∉ "rank".toList := by decide
      have hsuffix : '_' ∉ ".pt".toList := by decide
      have hdigits : '_' ∉ decimal n := notMem_decimal_of_isDigit (by decide) n
      exact fun hmem => hmem.elim hword fun hmem => hmem.elim hdigits hsuffix
    have htails := eq_of_append_cons_eq (hplain rank) (hplain rank') h
    have hdigits : decimal rank = decimal rank' :=
      List.append_cancel_right (List.append_cancel_left htails)
    obtain rfl := decimal_injective hdigits
    exact ⟨List.append_cancel_right h, rfl⟩
  · intro h
    rw [h.1, h.2]

theorem checkpointName_inj {step step' rank rank' : Nat} :
    checkpointName step rank = checkpointName step' rank' ↔ step = step' ∧ rank = rank' := by
  constructor
  · intro h
    obtain ⟨hstep, hrank⟩ := rank_part_eq_iff.mp (List.append_cancel_left h)
    exact ⟨decimal_injective hstep, hrank⟩
  · intro h
    rw [h.1, h.2]

/-- The pattern of a rank finds the files of this rank and of no other. -/
theorem globsRank_checkpointName {step rank rank' : Nat} :
    globsRank rank (checkpointName step rank') = true ↔ rank = rank' := by
  unfold globsRank checkpointName
  dsimp only
  rw [Bool.and_eq_true, List.isPrefixOf_iff_prefix, List.isSuffixOf_iff_suffix, List.drop_left]
  constructor
  · intro h
    obtain ⟨front, hfront⟩ := h.2
    exact (rank_part_eq_iff.mp hfront).2
  · intro h
    subst h
    exact ⟨List.prefix_append _ _, List.suffix_append _ _⟩

/-- The sort key of a file is its step. -/
theorem stepInName_checkpointName (step rank : Nat) :
    stepInName (checkpointName step rank) = step := by
  have hmatch : matchHere stepPattern ("step".toList ++ (decimal step ++
      ("_rank".toList ++ (decimal rank ++ ".pt".toList)))) = some [decimal step] := by
    unfold stepPattern
    rw [matchHere_word]
    refine matchHere_last_run (fun c hc => isDigit_of_mem_decimal hc)
      (one_le_length (decimal_ne_nil step)) ?_
    intro c hc
    obtain rfl := Option.some.inj hc
    rfl
  have hexec : exec stepPattern (checkpointName step rank) = some [decimal step] := by
    show exec (.literal 's' :: _) ("checkpoint_".toList ++ _) = _
    rw [exec_append_of_notMem (by decide)]
    exact exec_of_matchHere hmatch
  unfold stepInName
  rw [hexec]
  exact Nat.ofDigitChars_ten_toDigits

/-! ## What a start finds -/

namespace LocalTraining

variable {torch : LocalTorch} {args : TrainArgs} {t t' : LocalTraining torch}

/-- The file of a step and rank. -/
def file (t : LocalTraining torch) (step rank : Nat) : Option CheckpointFile :=
  t.files.find (checkpointName step rank)

/-- The newest step that a rank has a file of. -/
def Newest (t : LocalTraining torch) (rank step : Nat) : Prop :=
  (t.file step rank).isSome ∧ ∀ other, (t.file other rank).isSome → other ≤ step

/-- The file of a step and rank does not load. -/
def Cut (t : LocalTraining torch) (rank step : Nat) : Prop :=
  ∀ file, t.file step rank = some file → torch.restore file.content = none

/-- Every file is a save of some rank, or as much of one as has been written. -/
def Saves (args : TrainArgs) (t : LocalTraining torch) : Prop :=
  ∀ file ∈ t.files.rows, ∃ step rank loss model size, SavesLocally args rank ∧
    file.name = checkpointName step rank ∧ TrainedFor torch.toTorch step model ∧
    file.content = (torch.save step loss model).take size

/-- A save that has been written up to some size. -/
theorem restore_take (step : Nat) (loss : torch.Loss) (model : torch.Model) (size : Nat) :
    torch.restore ((torch.save step loss model).take size) = none ∨
      torch.restore ((torch.save step loss model).take size) = some (step, model) := by
  by_cases hsize : size < (torch.save step loss model).length
  · exact Or.inl (torch.restore_cut step loss model size hsize)
  · rw [List.take_of_length_le (by omega)]
    exact Or.inr (torch.restore_save step loss model)

/-- What a file that loads has in it. -/
theorem Saves.restore (h : t.Saves args) {step rank : Nat} {file : CheckpointFile}
    (hfile : t.file step rank = some file) :
    SavesLocally args rank ∧ ∀ found model, torch.restore file.content = some (found, model) →
      found = step ∧ TrainedFor torch.toTorch step model := by
  obtain ⟨n, r, loss, model, size, hsaves, hname, hmodel, hcontent⟩ :=
    h file (t.files.mem_of_find hfile)
  have hsame := hname.symm.trans (t.files.key_of_find hfile)
  obtain ⟨rfl, rfl⟩ := checkpointName_inj.mp hsame
  refine ⟨hsaves, ?_⟩
  intro found model' hfound
  rw [hcontent] at hfound
  rcases restore_take n loss model size with hcut | hwhole
  · rw [hcut] at hfound
    cases hfound
  · obtain ⟨rfl, rfl⟩ := Prod.mk.inj (Option.some.inj (hwhole.symm.trans hfound))
    exact ⟨rfl, hmodel⟩

/-- The files of a rank are those that the pattern finds. -/
theorem Saves.mem_localCheckpoints (h : t.Saves args) {listing : List Text}
    (hlisting : listing.Perm t.names) {rank : Nat} {name : Text} :
    name ∈ localCheckpoints listing rank ↔
      ∃ step, name = checkpointName step rank ∧ (t.file step rank).isSome := by
  unfold localCheckpoints
  rw [mem_byKey, List.mem_filter, hlisting.mem_iff]
  constructor
  · intro hmem
    obtain ⟨hname, hglob⟩ := hmem
    obtain ⟨file, hfile, rfl⟩ := List.mem_map.mp hname
    obtain ⟨step, r, _, _, _, _, hsame, _, _⟩ := h file hfile
    rw [hsame] at hglob ⊢
    obtain rfl := globsRank_checkpointName.mp hglob
    refine ⟨step, rfl, Option.isSome_iff_exists.mpr ⟨file, ?_⟩⟩
    rw [LocalTraining.file, ← hsame]
    exact t.files.find_of_mem hfile
  · intro hstep
    obtain ⟨step, rfl, hsome⟩ := hstep
    obtain ⟨file, hfile⟩ := Option.isSome_iff_exists.mp hsome
    refine ⟨List.mem_map.mpr ⟨file, t.files.mem_of_find hfile, t.files.key_of_find hfile⟩, ?_⟩
    exact globsRank_checkpointName.mpr rfl

/-- The last of the sorted files is the newest, whatever order the directory is listed
in. -/
theorem Saves.newest_iff (h : t.Saves args) {listing : List Text}
    (hlisting : listing.Perm t.names) {rank step : Nat} :
    (localCheckpoints listing rank).getLast? = some (checkpointName step rank) ↔
      t.Newest rank step := by
  have hmem : ∀ name, name ∈ localCheckpoints listing rank ↔
      ∃ step, name = checkpointName step rank ∧ (t.file step rank).isSome :=
    fun _ => h.mem_localCheckpoints hlisting
  have hle : ∀ latest name, (localCheckpoints listing rank).getLast? = some latest →
      name ∈ localCheckpoints listing rank → stepInName name ≤ stepInName latest := by
    intro latest name hlast hname
    obtain ⟨front, hfront⟩ := List.getLast?_eq_some_iff.mp hlast
    have hsorted := pairwise_byKey stepInName (listing.filter (globsRank rank))
    rw [show byKey stepInName _ = front ++ [latest] from hfront, List.pairwise_append] at hsorted
    rw [hfront] at hname
    rcases List.mem_append.mp hname with hbefore | hsame
    · exact hsorted.2.2 name hbefore latest (List.mem_singleton_self _)
    · rw [List.mem_singleton.mp hsame]
  constructor
  · intro hlast
    obtain ⟨n, hname, hsome⟩ := (hmem _).mp (List.mem_of_getLast? hlast)
    obtain ⟨rfl, -⟩ := checkpointName_inj.mp hname
    refine ⟨hsome, fun other hother => ?_⟩
    have hother' := hle _ _ hlast ((hmem _).mpr ⟨other, rfl, hother⟩)
    rwa [stepInName_checkpointName, stepInName_checkpointName] at hother'
  · intro hnewest
    have hin := (hmem (checkpointName step rank)).mpr ⟨step, rfl, hnewest.1⟩
    obtain ⟨latest, hlast⟩ := Option.isSome_iff_exists.mp
      (List.getLast?_isSome.mpr (List.ne_nil_of_mem hin))
    obtain ⟨n, rfl, hsome⟩ := (hmem _).mp (List.mem_of_getLast? hlast)
    have hup := hle _ _ hlast hin
    rw [stepInName_checkpointName, stepInName_checkpointName] at hup
    rw [hlast, le_antisymm (hnewest.2 n hsome) hup]

/-- What a start of a rank has to answer, by the files that there are. -/
def Answers (t : LocalTraining torch) (rank : Nat) : LocalLoad torch → Prop
  | .none => ∀ step, t.file step rank = none
  | .returned step model =>
      t.Newest rank step ∧ ¬ t.Cut rank step ∧ TrainedFor torch.toTorch step model
  | .raised => ∃ step, t.Newest rank step ∧ t.Cut rank step

/-- **What `load_checkpoint_local` answers.** -/
theorem Saves.answers (h : t.Saves args) {listing : List Text} (hlisting : listing.Perm t.names)
    (rank : Nat) : t.Answers rank (t.loadCheckpointLocal listing rank) := by
  unfold loadCheckpointLocal
  cases hlast : (localCheckpoints listing rank).getLast? with
  | none =>
      intro step
      have hnil := List.getLast?_eq_none_iff.mp hlast
      cases hfile : t.file step rank with
      | none => rfl
      | some file =>
          have hmem : checkpointName step rank ∈ localCheckpoints listing rank :=
            (h.mem_localCheckpoints hlisting).mpr ⟨step, rfl, by rw [hfile]; rfl⟩
          rw [hnil] at hmem
          cases hmem
  | some latest =>
      obtain ⟨step, rfl, hsome⟩ :=
        (h.mem_localCheckpoints hlisting).mp (List.mem_of_getLast? hlast)
      have hnewest := (h.newest_iff hlisting).mp hlast
      obtain ⟨file, hfile⟩ := Option.isSome_iff_exists.mp hsome
      have hfind : t.files.find (checkpointName step rank) = some file := hfile
      dsimp only
      rw [hfind, Option.bind_some]
      cases hrestore : torch.restore file.content with
      | none =>
          refine ⟨step, hnewest, fun other hother => ?_⟩
          obtain rfl := Option.some.inj (hfile.symm.trans hother)
          exact hrestore
      | some found =>
          obtain ⟨n, model⟩ := found
          obtain ⟨rfl, hmodel⟩ := (h.restore hfile).2 n model hrestore
          refine ⟨hnewest, fun hcut => ?_, hmodel⟩
          rw [hcut file hfile] at hrestore
          cases hrestore

end LocalTraining

/-! ## What holds in every run -/

/-- A process has the model of its step, and saves only if it is the one that saves. -/
structure LocalProcess.Sound {torch : LocalTorch} (args : TrainArgs) (rank : Nat)
    (p : LocalProcess torch) : Prop where
  model : TrainedFor torch.toTorch p.step p.model
  saves : p.place ≠ .looping → SavesLocally args rank
  body : ∀ final body, p.place = .writing final body →
    ∃ loss, body = torch.save p.step loss p.model

namespace LocalProcess.Sound

variable {torch : LocalTorch} {args : TrainArgs} {rank : Nat} {p q : LocalProcess torch}

theorem begin {model : torch.Model} {step : Nat}
    (hmodel : TrainedFor torch.toTorch step model) :
    (LocalProcess.begin model step).Sound args rank :=
  ⟨hmodel, fun h => absurd rfl h, fun _ _ h => (by cases h)⟩

theorem trained (h : p.Sound args rank) (batch : torch.Batch) :
    (p.trained args rank batch).Sound args rank := by
  refine ⟨h.model.stepped batch, ?_, ?_⟩
  · unfold LocalProcess.trained
    dsimp only
    split
    · next hsave => exact fun _ => hsave.2.2
    · exact fun h => absurd rfl h
  · intro final body hbody
    unfold LocalProcess.trained at hbody
    dsimp only at hbody
    split at hbody
    · cases hbody
    · cases hbody

/-- Back in the loop. -/
theorem looping (h : p.Sound args rank) (lastSuccessful : Option Nat) :
    { p with place := .looping, lastSuccessful := lastSuccessful }.Sound args rank :=
  ⟨h.model, fun h => absurd rfl h, fun _ _ h => (by cases h)⟩

theorem saved (h : p.Sound args rank) (final : Bool) (hq : p.saved final = some q) :
    q.Sound args rank := by
  unfold LocalProcess.saved at hq
  split at hq
  · cases hq
  · obtain rfl := Option.some.inj hq
    exact h.looping _

theorem saveFailed (h : p.Sound args rank) (final : Bool) (hq : p.saveFailed final = some q) :
    q.Sound args rank := by
  unfold LocalProcess.saveFailed at hq
  split at hq
  · cases hq
  · obtain rfl := Option.some.inj hq
    exact h.looping _

end LocalProcess.Sound

namespace LocalTraining

variable {torch : LocalTorch} {args : TrainArgs} {t t' : LocalTraining torch} {rank : Nat}
  {p : LocalProcess torch}

/-- What the process of a rank can do. -/
structure Acted (args : TrainArgs) (rank : Nat) (t : LocalTraining torch) (p : LocalProcess torch)
    (t' : LocalTraining torch) : Prop where
  others : ∀ r, r ≠ rank → t'.processes r = t.processes r
  sound : ∀ q, t'.processes rank = some q → q.Sound args rank
  files : t'.files = t.files ∨ ∃ loss size, SavesLocally args rank ∧
    t'.files = t.files.put .atEnd
      ⟨checkpointName p.step rank, (torch.save p.step loss p.model).take size⟩

/-- The process changes itself only. -/
theorem Acted.setProcess {after : Option (LocalProcess torch)}
    (hafter : ∀ q, after = some q → q.Sound args rank) :
    Acted args rank t p (t.setProcess rank after) where
  others := fun _ hr => if_neg hr
  sound := fun q hq => hafter q ((if_pos rfl).symm.trans hq)
  files := Or.inl rfl

/-- It also writes to the file of its step. -/
theorem Acted.setFile {after : Option (LocalProcess torch)}
    (hafter : ∀ q, after = some q → q.Sound args rank) (hsaves : SavesLocally args rank)
    (loss : torch.Loss) {content : Bytes} {size : Nat}
    (hcontent : content = (torch.save p.step loss p.model).take size) :
    Acted args rank t p
      ((t.setFile (checkpointName p.step rank) content).setProcess rank after) where
  others := fun _ hr => if_neg hr
  sound := fun q hq => hafter q ((if_pos rfl).symm.trans hq)
  files := Or.inr ⟨loss, size, hsaves, by rw [hcontent]; rfl⟩

theorem setProcess_self (hp : t.processes rank = some p) : t.setProcess rank (some p) = t := by
  unfold setProcess
  congr
  funext r
  split
  · next hr => rw [hr, hp]
  · rfl

theorem acted_of_act (hp : t.processes rank = some p) (hsound : p.Sound args rank)
    {act : LocalAct torch} (h : t.act args rank p act = some t') : Acted args rank t p t' := by
  cases act with
  | batch batch =>
      simp only [LocalTraining.act] at h
      split at h
      · obtain ⟨-, h⟩ := Option.ite_none_right_eq_some.mp h
        obtain rfl := Option.some.inj h
        refine .setProcess fun q hq => ?_
        obtain rfl := Option.some.inj hq
        exact hsound.trained batch
      · cases h
  | leave stopRequested =>
      simp only [LocalTraining.act] at h
      split at h
      · obtain ⟨-, h⟩ := Option.ite_none_right_eq_some.mp h
        split at h
        · next hfinal =>
          obtain rfl := Option.some.inj h
          refine .setProcess fun q hq => ?_
          obtain rfl := Option.some.inj hq
          exact ⟨hsound.model, fun _ => hfinal.2, fun _ _ h => (by cases h)⟩
        · obtain rfl := Option.some.inj h
          exact .setProcess fun _ h => (by cases h)
      · cases h
  | openFile loss =>
      simp only [LocalTraining.act] at h
      split at h
      · next final hplace =>
        obtain rfl := Option.some.inj h
        have hsaves : SavesLocally args rank :=
          hsound.saves fun h => (by cases hplace.symm.trans h)
        have hempty : [] = (torch.save p.step loss p.model).take 0 := rfl
        refine .setFile (fun q hq => ?_) hsaves loss hempty
        obtain rfl := Option.some.inj hq
        refine ⟨hsound.model, fun _ => hsaves, fun final body hbody => ⟨loss, ?_⟩⟩
        exact (LocalPlace.writing.inj hbody).2.symm
      · cases h
  | write size =>
      simp only [LocalTraining.act] at h
      split at h
      · next final body hplace =>
        obtain rfl := Option.some.inj h
        have hsaves : SavesLocally args rank :=
          hsound.saves fun h => (by cases hplace.symm.trans h)
        obtain ⟨loss, rfl⟩ := hsound.body final body hplace
        have hwrite : Acted args rank t p ((t.setFile (checkpointName p.step rank)
            ((torch.save p.step loss p.model).take size)).setProcess rank (some p)) := by
          refine .setFile (fun q hq => ?_) hsaves loss rfl
          obtain rfl := Option.some.inj hq
          exact hsound
        rwa [setProcess_self (by exact hp)] at hwrite
      · cases h
  | closeFile =>
      simp only [LocalTraining.act] at h
      split at h
      · next final body hplace =>
        obtain rfl := Option.some.inj h
        have hsaves : SavesLocally args rank :=
          hsound.saves fun h => (by cases hplace.symm.trans h)
        obtain ⟨loss, rfl⟩ := hsound.body final body hplace
        exact .setFile (fun q hq => hsound.saved final hq) hsaves loss List.take_length.symm
      · cases h
  | saveFails =>
      simp only [LocalTraining.act] at h
      split at h
      · obtain rfl := Option.some.inj h
        exact .setProcess fun q hq => hsound.saveFailed _ hq
      · obtain rfl := Option.some.inj h
        exact .setProcess fun q hq => hsound.saveFailed _ hq
      · cases h
  | die =>
      obtain rfl := Option.some.inj h
      exact .setProcess fun _ h => (by cases h)

/-- The files are saves, and the processes have the models of their steps. -/
structure Sound (args : TrainArgs) (t : LocalTraining torch) : Prop where
  saves : t.Saves args
  processes : ∀ rank p, t.processes rank = some p → p.Sound args rank

theorem sound_init (torch : LocalTorch) (args : TrainArgs) : (init torch).Sound args :=
  ⟨fun _ h => absurd h List.not_mem_nil, fun _ _ h => (by cases h)⟩

/-- A process that has been started has the model of its step. -/
theorem Sound.boot (h : t.Sound args) {resume : Bool} {seed : Nat} {listing : List Text}
    (hlisting : listing.Perm t.names) (hp : t.boot rank resume seed listing = some p) :
    p.Sound args rank := by
  have hbuilt : (LocalProcess.begin (torch.buildModel seed) 0 : LocalProcess torch).Sound args
      rank :=
    .begin (TrainedFor.built seed)
  have hanswers := h.saves.answers hlisting rank
  unfold LocalTraining.boot at hp
  dsimp only at hp
  split at hp
  · split at hp
    · obtain rfl := Option.some.inj hp
      exact hbuilt
    · next step model hload =>
      obtain rfl := Option.some.inj hp
      rw [hload] at hanswers
      exact .begin hanswers.2.2
    · cases hp
  · obtain rfl := Option.some.inj hp
    exact hbuilt

/-- What one event can do: the process of a rank starts or acts. -/
inductive Stepped (args : TrainArgs) (t : LocalTraining torch) :
    LocalEvent torch → LocalTraining torch → Prop
  | start {rank seed : Nat} {resume : Bool} {listing : List Text}
      (hnone : t.processes rank = none) (hlisting : listing.Perm t.names) :
      Stepped args t (.start rank resume seed listing)
        (t.setProcess rank (t.boot rank resume seed listing))
  | acted {rank : Nat} {act : LocalAct torch} {p : LocalProcess torch} {t' : LocalTraining torch}
      (hp : t.processes rank = some p) (hacted : Acted args rank t p t') :
      Stepped args t (.act rank act) t'

theorem Sound.stepped (h : t.Sound args) {event : LocalEvent torch}
    (hstep : t.step args event = some t') : Stepped args t event t' := by
  cases event with
  | start rank resume seed listing =>
      obtain ⟨⟨hnone, hlisting⟩, hsome⟩ := Option.ite_none_right_eq_some.mp hstep
      obtain rfl := Option.some.inj hsome
      exact .start (Option.isNone_iff_eq_none.mp hnone) hlisting
  | act rank act =>
      obtain ⟨p, hp, hact⟩ := Option.bind_eq_some_iff.mp hstep
      exact .acted hp (acted_of_act hp (h.processes rank p hp) hact)

theorem Sound.step (h : t.Sound args) {event : LocalEvent torch}
    (hstep : t.step args event = some t') : t'.Sound args := by
  cases h.stepped hstep with
  | @start rank seed resume listing hnone hlisting =>
      refine ⟨h.saves, fun other p hp => ?_⟩
      have hcases : (if other = rank then t.boot rank resume seed listing
          else t.processes other) = some p := hp
      split at hcases
      · next hr =>
        subst hr
        exact h.boot hlisting hcases
      · exact h.processes other p hcases
  | @acted rank act p t' hp hacted =>
      constructor
      · intro file hfile
        rcases hacted.files with hsame | ⟨loss, size, hsaves, hput⟩
        · rw [hsame] at hfile
          exact h.saves file hfile
        · rw [hput, Table.mem_put] at hfile
          rcases hfile with rfl | ⟨hold, -⟩
          · exact ⟨p.step, rank, loss, p.model, size, hsaves, rfl, (h.processes rank p hp).model,
              rfl⟩
          · exact h.saves file hold
      · intro other q hq
        by_cases hr : other = rank
        · subst hr
          exact hacted.sound q hq
        · rw [hacted.others other hr] at hq
          exact h.processes other q hq

theorem Sound.run (h : t.Sound args) {events : List (LocalEvent torch)}
    (hrun : PartialRun.run (LocalTraining.step args) t events = some t') : t'.Sound args :=
  run_invariant _ (fun _ _ _ hs hstep => Sound.step hs hstep) h hrun

/-! ## What stays -/

/-- A rank that has a file of a step keeps one. -/
theorem Sound.file_isSome (h : t.Sound args) {event : LocalEvent torch}
    (hstep : t.step args event = some t') {step : Nat}
    (hsome : (t.file step rank).isSome) : (t'.file step rank).isSome := by
  cases h.stepped hstep with
  | start _ _ => exact hsome
  | acted _ hacted =>
      rcases hacted.files with hsame | ⟨loss, size, -, hput⟩
      · rw [file, hsame]
        exact hsome
      · rw [file, hput, Table.find_put]
        split
        · rfl
        · exact hsome

theorem Sound.file_isSome_run (h : t.Sound args) {events : List (LocalEvent torch)}
    (hrun : PartialRun.run (LocalTraining.step args) t events = some t') {step : Nat}
    (hsome : (t.file step rank).isSome) : (t'.file step rank).isSome := by
  have hboth : t'.Sound args ∧ (t'.file step rank).isSome :=
    run_invariant (I := fun s => s.Sound args ∧ (s.file step rank).isSome) _
      (fun _ _ _ hs hstep => ⟨hs.1.step hstep, hs.1.file_isSome hstep hs.2⟩) ⟨h, hsome⟩ hrun
  exact hboth.2

/-- The process of another rank leaves the files of a rank alone. -/
theorem Acted.file_other (h : Acted args rank t p t') {other : Nat} (hne : other ≠ rank)
    (step : Nat) : t'.file step other = t.file step other := by
  rcases h.files with hsame | ⟨loss, size, -, hput⟩
  · rw [file, hsame]
    rfl
  · rw [file, hput, Table.find_put, if_neg fun hname => hne (checkpointName_inj.mp hname).2]
    rfl

/-! ## A save that was cut off -/

/-- No process of the rank runs, and the newest of its files is cut off. -/
structure Wedged (rank step : Nat) (t : LocalTraining torch) : Prop where
  idle : t.processes rank = none
  newest : t.Newest rank step
  cut : t.Cut rank step

theorem Wedged.of_file {step : Nat} (h : t.Wedged rank step) (hidle : t'.processes rank = none)
    (hfile : ∀ other, t'.file other rank = t.file other rank) : t'.Wedged rank step where
  idle := hidle
  newest := by
    unfold Newest
    simp only [hfile]
    exact h.newest
  cut := by
    unfold Cut
    rw [hfile]
    exact h.cut

/-- A start that looks for a checkpoint raises. -/
theorem Wedged.boot {step : Nat} (h : t.Wedged rank step) (hs : t.Sound args) {seed : Nat}
    {listing : List Text} (hlisting : listing.Perm t.names) :
    t.boot rank true seed listing = none := by
  obtain ⟨file, hfile⟩ := Option.isSome_iff_exists.mp h.newest.1
  have hfind : t.files.find (checkpointName step rank) = some file := hfile
  have hload : t.loadCheckpointLocal listing rank = .raised := by
    unfold loadCheckpointLocal
    rw [(hs.saves.newest_iff hlisting).mpr h.newest]
    dsimp only
    rw [hfind, Option.bind_some, h.cut file hfile]
  unfold LocalTraining.boot
  dsimp only
  rw [if_pos rfl, hload]

theorem Wedged.step {step : Nat} (h : t.Wedged rank step) (hs : t.Sound args)
    {event : LocalEvent torch} (hevent : ¬ event.StartsOver rank)
    (hstep : t.step args event = some t') : t'.Wedged rank step := by
  cases hs.stepped hstep with
  | @start r seed resume listing hnone hlisting =>
      refine h.of_file ?_ fun _ => rfl
      show (if rank = r then t.boot r resume seed listing else t.processes rank) = none
      split
      · next hr =>
        subst hr
        cases resume with
        | true => exact h.boot hs hlisting
        | false => exact absurd ⟨rfl, rfl⟩ hevent
      · exact h.idle
  | @acted r act p t' hp hacted =>
      have hne : rank ≠ r := by
        intro hr
        rw [← hr, h.idle] at hp
        cases hp
      exact h.of_file ((hacted.others rank hne).trans h.idle) (hacted.file_other hne)

end LocalTraining

/-! ## A rank that is killed while it saves -/

/-- The step and the model in unary, and an end mark. -/
def unaryFile (step model : Nat) : Bytes :=
  (List.replicate step 1 ++ 2 :: List.replicate model 1) ++ [0]

def readUnaryFile (body : Bytes) : Option (Nat × Nat) :=
  if 0 ∈ body then
    some ((body.takeWhile (· = 1)).length, (body.dropWhile (· = 1)).count 1)
  else
    none

theorem readUnaryFile_unaryFile (step model : Nat) :
    readUnaryFile (unaryFile step model) = some (step, model) := by
  have hones : ∀ byte ∈ List.replicate step (1 : UInt8), decide (byte = 1) = true :=
    fun byte h => decide_eq_true (List.eq_of_mem_replicate h)
  have htake : ((unaryFile step model).takeWhile (· = 1)).length = step := by
    rw [unaryFile, List.append_assoc, List.takeWhile_append_of_pos hones]
    simp
  have hdrop : ((unaryFile step model).dropWhile (· = 1)).count 1 = model := by
    rw [unaryFile, List.append_assoc, List.dropWhile_append_of_pos hones]
    simp
  have hmark : 0 ∈ unaryFile step model :=
    List.mem_append_right _ (List.mem_singleton_self 0)
  unfold readUnaryFile
  rw [if_pos hmark, htake, hdrop]

theorem readUnaryFile_take {step model size : Nat} (h : size < (unaryFile step model).length) :
    readUnaryFile ((unaryFile step model).take size) = none := by
  unfold readUnaryFile
  refine if_neg fun hmem => ?_
  rw [unaryFile, List.length_append] at h
  rw [unaryFile, List.take_append_of_le_length (Nat.le_of_lt_succ h)] at hmem
  rcases List.mem_append.mp (List.mem_of_mem_take hmem) with hone | htwo
  · exact absurd (List.eq_of_mem_replicate hone) (by decide)
  · rcases List.mem_cons.mp htwo with hmark | hone
    · exact absurd hmark (by decide)
    · exact absurd (List.eq_of_mem_replicate hone) (by decide)

/-- A model that only counts its optimizer steps. -/
def countingTorch : LocalTorch where
  Model := Nat
  Batch := Unit
  Loss := Unit
  buildModel := fun _ => 0
  optimizerStep := fun model _ => model + 1
  save := fun step _ model => unaryFile step.toNat model
  load := fun body => (readUnaryFile body).map (·.2)
  load_save := fun step _ model => by rw [readUnaryFile_unaryFile]; rfl
  restore := readUnaryFile
  restore_save := fun step _ model => readUnaryFile_unaryFile step model
  restore_cut := fun _ _ _ _ h => readUnaryFile_take h

namespace LocalTraining

/-- A checkpoint after each step. -/
def everyStep (isDistributed : Bool) : TrainArgs := ⟨10, 1, isDistributed⟩

/-- Rank 0 saves its first step. -/
def savedOnce : List (LocalEvent countingTorch) :=
  [.start 0 false 7 [], .act 0 (.batch ()), .act 0 (.openFile ()), .act 0 .closeFile]

/-- It is killed while it saves its second step. -/
def killedInSave : List (LocalEvent countingTorch) :=
  [.act 0 (.batch ()), .act 0 (.openFile ()), .act 0 (.write 3), .act 0 .die]

def savedState : LocalTraining countingTorch :=
  (run (step (everyStep true)) (init countingTorch) savedOnce).get (by decide +kernel)

theorem run_savedOnce :
    run (step (everyStep true)) (init countingTorch) savedOnce = some savedState :=
  (Option.some_get _).symm

def killedState : LocalTraining countingTorch :=
  (run (step (everyStep true)) savedState killedInSave).get (by decide +kernel)

theorem run_killedInSave :
    run (step (everyStep true)) savedState killedInSave = some killedState :=
  (Option.some_get _).symm

theorem run_savedOnce_killedInSave :
    run (step (everyStep true)) (init countingTorch) (savedOnce ++ killedInSave) =
      some killedState := by
  rw [run_append, run_savedOnce]
  exact run_killedInSave

theorem names_savedState : [checkpointName 1 0].Perm savedState.names :=
  List.isPerm_iff.mp (by decide +kernel)

theorem names_killedState :
    [checkpointName 2 0, checkpointName 1 0].Perm killedState.names :=
  List.isPerm_iff.mp (by decide +kernel)

theorem newest_killedState : killedState.Newest 0 2 := by
  refine ⟨by decide +kernel, fun other hother => ?_⟩
  obtain ⟨file, hfile⟩ := Option.isSome_iff_exists.mp hother
  have hname : checkpointName other 0 ∈ killedState.names :=
    List.mem_map.mpr ⟨file, killedState.files.mem_of_find hfile,
      killedState.files.key_of_find hfile⟩
  rw [← names_killedState.mem_iff] at hname
  have hcases : other = 2 ∨ other = 1 := by
    simpa only [List.mem_cons, List.not_mem_nil, checkpointName_inj, and_true, or_false]
      using hname
  omega

theorem cut_killedState : killedState.Cut 0 2 := by
  intro file hfile
  have hrestore : (killedState.file 2 0).bind (fun file => readUnaryFile file.content) = none := by
    decide +kernel
  rw [hfile] at hrestore
  exact hrestore

/-- Rank 0 is started again, and again, the other rank in between. -/
def startedAgain : List (LocalEvent countingTorch) :=
  [.start 0 true 8 [checkpointName 2 0, checkpointName 1 0],
    .start 1 true 8 [checkpointName 1 0, checkpointName 2 0], .act 1 (.batch ()),
    .start 0 true 9 [checkpointName 1 0, checkpointName 2 0]]

theorem startsOver_startedAgain : ∀ event ∈ startedAgain, ¬ event.StartsOver 0 := by
  intro event hevent
  simp only [startedAgain, List.mem_cons, List.not_mem_nil, or_false] at hevent
  rcases hevent with rfl | rfl | rfl | rfl
  · exact fun h => (by cases h.2)
  · exact fun h => (by cases h.2)
  · exact id
  · exact fun h => (by cases h.2)

def wedgedState : LocalTraining countingTorch :=
  (run (step (everyStep true)) killedState startedAgain).get (by decide +kernel)

theorem run_startedAgain :
    run (step (everyStep true)) killedState startedAgain = some wedgedState :=
  (Option.some_get _).symm

end LocalTraining

/-! ## Main results -/

namespace LocalTraining

variable {torch : LocalTorch} {args : TrainArgs} {before after : List (LocalEvent torch)}
  {s t : LocalTraining torch} {listing : List Text} {rank : Nat}

/-- **A start takes up the newest save of its rank.**  After any history and in any order
of the directory it begins afresh exactly if its rank has no file, raises exactly if the
newest file is cut off, and otherwise returns the step of the newest file, with a model
of as many optimizer steps.  A step at which a save has begun stays a lower bound. -/
theorem resumes_newest (hbefore : run (step args) (init torch) before = some s)
    (hafter : run (step args) s after = some t) (hlisting : listing.Perm t.names) :
    t.Answers rank (t.loadCheckpointLocal listing rank) ∧
      (∀ n, (s.file n rank).isSome → ∃ newest, t.Newest rank newest ∧ n ≤ newest) ∧
      ∀ p, t.processes rank = some p → TrainedFor torch.toTorch p.step p.model := by
  have hs : s.Sound args := (sound_init torch args).run hbefore
  have ht : t.Sound args := hs.run hafter
  refine ⟨ht.saves.answers hlisting rank, ?_, fun p hp => (ht.processes rank p hp).model⟩
  intro n hn
  have hkept := hs.file_isSome_run hafter hn
  have hanswers := ht.saves.answers hlisting rank
  cases hload : t.loadCheckpointLocal listing rank with
  | none =>
      rw [hload] at hanswers
      rw [hanswers n] at hkept
      cases hkept
  | returned newest model =>
      rw [hload] at hanswers
      exact ⟨newest, hanswers.1, hanswers.1.2 n hkept⟩
  | raised =>
      rw [hload] at hanswers
      obtain ⟨newest, hnewest, -⟩ := hanswers
      exact ⟨newest, hnewest, hnewest.2 n hkept⟩

/-- Killed within its second save, rank 0 does not get back to its first. -/
theorem resumes_newest_killed_in_save :
    ∃ newest, killedState.Newest 0 newest ∧ 1 ≤ newest :=
  (resumes_newest run_savedOnce run_killedInSave names_killedState).2.1 1 (by decide +kernel)

/-- **A save that is cut off wedges its rank**: once the process is gone, every start with
`--resume` raises, until one without it has got as far again. -/
theorem cut_save_wedges {n : Nat} (hbefore : run (step args) (init torch) before = some s)
    (hidle : s.processes rank = none) (hnewest : s.Newest rank n) (hcut : s.Cut rank n)
    (hafter : run (step args) s after = some t)
    (hresume : ∀ event ∈ after, ¬ event.StartsOver rank) :
    t.processes rank = none ∧ t.Newest rank n ∧ t.Cut rank n := by
  have hs : s.Sound args := (sound_init torch args).run hbefore
  have hwedged : t.Sound args ∧ t.Wedged rank n :=
    guarded_invariant (I := fun s => s.Sound args ∧ s.Wedged rank n) (step args)
      (fun _ _ _ h hevent hstep => ⟨h.1.step hstep, h.2.step h.1 hevent hstep⟩)
      ⟨hs, hidle, hnewest, hcut⟩ (guarded_of_forall _ _ hresume) hafter
  exact ⟨hwedged.2.idle, hwedged.2.newest, hwedged.2.cut⟩

/-- It is started again, and again, and does not get into its loop. -/
theorem cut_save_wedges_killed_in_save : wedgedState.processes 0 = none :=
  (cut_save_wedges run_savedOnce_killedInSave rfl newest_killedState cut_killedState
    run_startedAgain startsOver_startedAgain).1

/-- **The ranks of a group take up the same step** exactly if rank 0 has not saved a step
that the others would have to be at: only rank 0 saves, and each rank looks for files of
its own. -/
theorem resume_together_iff (hdistributed : args.isDistributed = true)
    (hrun : run (step args) (init torch) before = some t) {listing' : List Text}
    (hlisting : listing.Perm t.names) (hlisting' : listing'.Perm t.names) (hrank : rank ≠ 0) :
    (t.loadCheckpointLocal listing rank).startStep? =
        (t.loadCheckpointLocal listing' 0).startStep? ↔
      ∀ n, (t.file n 0).isSome → n = 0 ∧ ¬ t.Cut 0 n := by
  have ht : t.Sound args := (sound_init torch args).run hrun
  have hfresh : (t.loadCheckpointLocal listing rank).startStep? = some 0 := by
    have hnone : ∀ n, ¬ (t.file n rank).isSome := by
      intro n hsome
      obtain ⟨file, hfile⟩ := Option.isSome_iff_exists.mp hsome
      rcases (ht.saves.restore hfile).1 with hzero | halone
      · exact hrank hzero
      · rw [hdistributed] at halone
        cases halone
    have hanswers := ht.saves.answers hlisting rank
    cases hload : t.loadCheckpointLocal listing rank with
    | none => rfl
    | returned newest model =>
        rw [hload] at hanswers
        exact absurd hanswers.1.1 (hnone newest)
    | raised =>
        rw [hload] at hanswers
        obtain ⟨newest, hnewest, -⟩ := hanswers
        exact absurd hnewest.1 (hnone newest)
  rw [hfresh]
  have hanswers := ht.saves.answers hlisting' 0
  cases hload : t.loadCheckpointLocal listing' 0 with
  | none =>
      rw [hload] at hanswers
      refine iff_of_true rfl fun n hn => ?_
      rw [hanswers n] at hn
      cases hn
  | returned newest model =>
      rw [hload] at hanswers
      obtain ⟨hnewest, hwhole, -⟩ := hanswers
      constructor
      · intro hsame
        obtain rfl : 0 = newest := Option.some.inj hsame
        intro n hn
        obtain rfl := Nat.le_zero.mp (hnewest.2 n hn)
        exact ⟨rfl, hwhole⟩
      · intro hall
        exact congrArg some (hall newest hnewest.1).1.symm
  | raised =>
      rw [hload] at hanswers
      obtain ⟨newest, hnewest, hcut⟩ := hanswers
      exact iff_of_false (fun h => (by cases h)) fun hall => (hall newest hnewest.1).2 hcut

/-- Rank 0 would go on at step 1, rank 1 at step 0. -/
theorem resume_together_saved_once :
    (savedState.loadCheckpointLocal [checkpointName 1 0] 1).startStep? ≠
      (savedState.loadCheckpointLocal [checkpointName 1 0] 0).startStep? := by
  intro hsame
  have hiff := resume_together_iff rfl run_savedOnce names_savedState names_savedState
    (show (1 : Nat) ≠ 0 by decide)
  exact absurd (hiff.mp hsame 1 (by decide +kernel)).1 (by decide)

end LocalTraining

end CheckpointRuntime
