import CheckpointRuntime.KillEndpoint
import CheckpointRuntime.Library.Grouping
import CheckpointRuntime.Library.Tallies
import CheckpointRuntime.SystemRecords
import CheckpointRuntime.TrainingLogs
import CheckpointRuntime.UploadHistory
import Mathlib.Algebra.BigOperators.Group.List.Basic

/-!
# What the metrics count

The metrics endpoints walk over the runs and list the checkpoints of each, read every
worker record, and ask the heartbeat manager for its lags.  `metrics_exact` says that
the walk sees every checkpoint once, in whatever state the system is;
`commits_total_drops_iff` when `controlplane_checkpoint_commits_total`, which is exposed
as a counter, goes down; `lags_of_active_workers` that the workers counted as active are
those with a lag.
-/

namespace CheckpointRuntime

open Coordinator ControlPlane KeyedTable PartialRun Tallies TextPatterns

/-! ## The endpoints -/

namespace Coordinator

/-- `RUNNING` or `CHECKPOINTING`. -/
def isActiveRun (run : RunStatus) : Bool :=
  decide (run.state = .running ∨ run.state = .checkpointing)

def isCommitted (info : CheckpointInfo) : Bool := decide (info.state = .committed)

/-- The checkpoints that a loop over `list_runs` and `list_checkpoints` comes to. -/
def walkedCheckpoints (c : Coordinator) : List CheckpointInfo :=
  c.listRuns.flatMap fun run => c.listCheckpoints run.runId

end Coordinator

def isActiveWorker (worker : WorkerInfo) : Bool := decide (worker.status = .active)

/-- Aggregated metrics snapshot for the control plane. -/
structure MetricsSummary where
  totalRuns : Nat
  activeRuns : Nat
  totalCheckpoints : Nat
  totalCheckpointBytes : Nat
  totalWorkers : Nat
  activeWorkers : Nat
  /-- What `checkpoint_success_rate` is the rounded quotient of, with
  `total_checkpoints`. -/
  committed : Nat

/-- `GET /api/metrics/summary`; `workers` is what `list_workers` returns. -/
def metricsSummary (c : Coordinator) (workers : List WorkerInfo) : MetricsSummary where
  totalRuns := c.listRuns.length
  activeRuns := c.listRuns.countP isActiveRun
  totalCheckpoints := (c.listRuns.map fun run => (c.listCheckpoints run.runId).length).sum
  totalCheckpointBytes := (c.listRuns.map fun run =>
    ((c.listCheckpoints run.runId).map (·.totalBytes)).sum).sum
  totalWorkers := workers.length
  activeWorkers := workers.countP isActiveWorker
  committed := (c.listRuns.map fun run => (c.listCheckpoints run.runId).countP isCommitted).sum

/-- A metric of the exposition: its samples have a label or none. -/
structure Metric where
  name : String
  help : String
  type : String
  samples : List (Option (String × String) × Nat)

namespace Metric

/-- The name of a sample, with its label. -/
def series (metric : Metric) : Option (String × String) → Text
  | none => metric.name.toList
  | some (label, value) =>
      metric.name.toList ++ ("\x7b".toList ++ (label.toList ++ ("=\"".toList ++
        (value.toList ++ "\"\x7d".toList))))

def sampleLine (metric : Metric) (sample : Option (String × String) × Nat) : Text :=
  metric.series sample.1 ++ ' ' :: decimal sample.2

/-- The lines of a metric, and an empty one. -/
def lines (metric : Metric) : List Text :=
  [("# HELP " ++ metric.name ++ " " ++ metric.help).toList,
    ("# TYPE " ++ metric.name ++ " " ++ metric.type).toList] ++
    metric.samples.map metric.sampleLine ++ [[]]

end Metric

/-- The runs by state, sorted by the name of the state. -/
def stateCounts (runs : List RunStatus) : List (String × Nat) :=
  ((runs.map fun run => run.state.value).eraseDups.map fun state =>
    (state, (group (fun run : RunStatus => run.state.value) runs state).length)).insertionSort
      fun a b => a.1 ≤ b.1

/-- The metrics of `prometheus_metrics`, up to those with floats. -/
def prometheusMetrics (c : Coordinator) (workers : List WorkerInfo) : List Metric :=
  let totals := metricsSummary c workers
  [⟨"controlplane_runs_total", "Total number of training runs", "gauge",
      [(none, totals.totalRuns)]⟩,
    ⟨"controlplane_active_runs", "Number of currently active runs", "gauge",
      [(none, totals.activeRuns)]⟩,
    ⟨"controlplane_workers_total", "Total registered workers", "gauge",
      [(none, totals.totalWorkers)]⟩,
    ⟨"controlplane_active_workers", "Number of active workers", "gauge",
      [(none, totals.activeWorkers)]⟩,
    ⟨"controlplane_checkpoints_total", "Total checkpoints created", "gauge",
      [(none, totals.totalCheckpoints)]⟩,
    ⟨"controlplane_checkpoint_commits_total", "Total committed checkpoints", "counter",
      [(none, totals.committed)]⟩,
    ⟨"controlplane_runs_by_state", "Runs by state", "gauge",
      (stateCounts c.listRuns).map fun (state, count) => (some ("state", state), count)⟩]

/-- `GET /api/metrics/prometheus`. -/
def prometheusLines (c : Coordinator) (workers : List WorkerInfo) : List Text :=
  (prometheusMetrics c workers).flatMap Metric.lines

/-- What a scraper reads from a line that is not empty and no comment: a series, a blank
and a number. -/
def scrapeLine : Text → Option (Text × Nat)
  | [] => none
  | c :: line =>
      if c = '#' then none
      else
        let read := (c :: line).reverse.span Char.isDigit
        some ((read.2.drop 1).reverse, Nat.ofDigitChars 10 read.1.reverse 0)

/-- `get_heartbeat_lags`, in whole seconds. -/
def WorkerPlane.getHeartbeatLags (s : WorkerPlane) (now : Nat) : List (String × Nat) :=
  (s.heartbeats.leases.rows.filter (·.isAlive)).map fun lease =>
    (lease.workerId, now - lease.lastHeartbeat)

/-! ## The walk over the runs -/

namespace Coordinator

variable {c : Coordinator}

/-- **The walk comes to every record once**, if every record has its run. -/
theorem walkedCheckpoints_perm (h : ∀ info ∈ c.checkpoints.rows, (c.getRun info.runId).isSome) :
    c.walkedCheckpoints.Perm c.checkpoints.rows := by
  have hids : (c.runs.rows.map (·.runId)).Nodup := by
    have hkeys : ((c.runs.rows.map (·.runId)).map runKey).Nodup := by
      rw [List.map_map]
      exact c.runs.distinct
    exact hkeys.of_map runKey
  have hlisted : ∀ info ∈ c.checkpoints.rows, info.runId ∈ c.runs.rows.map (·.runId) := by
    intro info hinfo
    obtain ⟨run, hrun⟩ := Option.isSome_iff_exists.mp (h info hinfo)
    exact List.mem_map.mpr ⟨run, c.runs.mem_of_find hrun,
      runKey_inj.mp (c.runs.key_of_find hrun)⟩
  refine List.Perm.trans ?_ (groups_perm (fun info : CheckpointInfo => info.runId) hids hlisted)
  unfold walkedCheckpoints listRuns
  rw [List.flatMap_map]
  refine List.Perm.flatMap_left _ fun run _ => ?_
  exact List.perm_insertionSort _ _

/-- What is added up run by run is added up over all records. -/
theorem sum_walk (h : ∀ info ∈ c.checkpoints.rows, (c.getRun info.runId).isSome)
    (f : CheckpointInfo → Nat) :
    (c.listRuns.map fun run => ((c.listCheckpoints run.runId).map f).sum).sum =
      (c.checkpoints.rows.map f).sum := by
  have hsum := ((walkedCheckpoints_perm h).map f).sum_eq
  rw [walkedCheckpoints, List.map_flatMap, List.flatMap_def, List.sum_flatten,
    List.map_map] at hsum
  exact hsum

theorem length_walk (h : ∀ info ∈ c.checkpoints.rows, (c.getRun info.runId).isSome) :
    (c.listRuns.map fun run => (c.listCheckpoints run.runId).length).sum =
      c.checkpoints.rows.length := by
  have hlength := (walkedCheckpoints_perm h).length_eq
  rw [walkedCheckpoints, List.length_flatMap] at hlength
  exact hlength

theorem countP_walk (h : ∀ info ∈ c.checkpoints.rows, (c.getRun info.runId).isSome)
    (p : CheckpointInfo → Bool) :
    (c.listRuns.map fun run => (c.listCheckpoints run.runId).countP p).sum =
      c.checkpoints.rows.countP p := by
  have hcount := (walkedCheckpoints_perm h).countP_eq p
  rw [walkedCheckpoints, List.countP_flatMap] at hcount
  exact hcount

end Coordinator

/-! ## The exposition -/

theorem series_none (metric : Metric) : metric.series none = metric.name.toList := rfl

/-- The name of a sample with a label. -/
theorem series_label (metric : Metric) (label value : String) :
    metric.series (some (label, value)) =
      (metric.name ++ "\x7b" ++ label ++ "=\"" ++ value ++ "\"\x7d").toList := by
  simp only [Metric.series, String.toList_append, List.append_assoc]

/-- A sample is read back. -/
theorem scrapeLine_sampleLine {metric : Metric} {c : Char} {rest : Text}
    (hname : metric.name.toList = c :: rest) (hc : c ≠ '#')
    (sample : Option (String × String) × Nat) :
    scrapeLine (metric.sampleLine sample) = some (metric.series sample.1, sample.2) := by
  have hseries : ∃ tail, metric.series sample.1 = c :: tail := by
    unfold Metric.series
    split
    · exact ⟨rest, hname⟩
    · rw [hname]
      exact ⟨_, rfl⟩
  obtain ⟨tail, htail⟩ := hseries
  have hdigits : ∀ d ∈ (decimal sample.2).reverse, d.isDigit = true :=
    fun d hd => isDigit_of_mem_decimal (List.mem_reverse.mp hd)
  have hblank : Char.isDigit ' ' = false := by decide
  unfold Metric.sampleLine
  rw [htail, List.cons_append, scrapeLine, if_neg hc]
  dsimp only
  rw [List.span_eq_takeWhile_dropWhile, ← List.cons_append, List.reverse_append,
    List.reverse_cons, List.append_assoc, List.takeWhile_append_of_pos hdigits,
    List.dropWhile_append_of_pos hdigits, List.singleton_append,
    List.takeWhile_cons_of_neg (by rw [hblank]; decide),
    List.dropWhile_cons_of_neg (by rw [hblank]; decide), List.append_nil, List.reverse_reverse,
    List.drop_one, List.tail_cons, List.reverse_reverse, decimal, Nat.ofDigitChars_ten_toDigits]

/-- A scraper reads the samples of a metric. -/
theorem scrape_lines {metric : Metric} {c : Char} {rest : Text}
    (hname : metric.name.toList = c :: rest) (hc : c ≠ '#') :
    metric.lines.filterMap scrapeLine =
      metric.samples.map fun sample => (metric.series sample.1, sample.2) := by
  have hsamples : (metric.samples.map metric.sampleLine).filterMap scrapeLine =
      metric.samples.map fun sample => (metric.series sample.1, sample.2) := by
    rw [List.filterMap_map, ← List.filterMap_eq_map]
    exact List.filterMap_congr fun sample _ => scrapeLine_sampleLine hname hc sample
  have hhelp : scrapeLine ("# HELP " ++ metric.name ++ " " ++ metric.help).toList = none := by
    rw [String.toList_append, String.toList_append, String.toList_append]
    rfl
  have htype : scrapeLine ("# TYPE " ++ metric.name ++ " " ++ metric.type).toList = none := by
    rw [String.toList_append, String.toList_append, String.toList_append]
    rfl
  unfold Metric.lines
  rw [List.filterMap_append, List.filterMap_append, hsamples, List.filterMap_cons_none hhelp,
    List.filterMap_cons_none htype]
  exact List.append_nil _

/-- A scraper reads the samples of all metrics. -/
theorem scrape_prometheusLines (c : Coordinator) (workers : List WorkerInfo) :
    (prometheusLines c workers).filterMap scrapeLine =
      (prometheusMetrics c workers).flatMap fun metric =>
        metric.samples.map fun sample => (metric.series sample.1, sample.2) := by
  have hnames : ∀ metric ∈ prometheusMetrics c workers,
      metric.name.toList.head? = some 'c' := by
    intro metric hmetric
    simp only [prometheusMetrics, List.mem_cons, List.not_mem_nil, or_false] at hmetric
    rcases hmetric with rfl | rfl | rfl | rfl | rfl | rfl | rfl
    all_goals
      dsimp only
      decide +kernel
  unfold prometheusLines
  rw [List.filterMap_flatMap]
  refine List.flatMap_congr fun metric hmetric => ?_
  obtain ⟨rest, hname⟩ := List.head?_eq_some_iff.mp (hnames metric hmetric)
  exact scrape_lines hname (by decide)

/-! ## The runs by state -/

/-- The states that occur. -/
def statesOf (runs : List RunStatus) : List String :=
  (runs.map fun run => run.state.value).eraseDups

theorem stateCounts_perm (runs : List RunStatus) :
    (stateCounts runs).Perm ((statesOf runs).map fun state =>
      (state, (group (fun run : RunStatus => run.state.value) runs state).length)) :=
  List.perm_insertionSort _ _

theorem mem_stateCounts {runs : List RunStatus} {state : String} {count : Nat} :
    (state, count) ∈ stateCounts runs ↔
      0 < count ∧ count = runs.countP fun run => decide (run.state.value = state) := by
  rw [(stateCounts_perm runs).mem_iff, List.mem_map]
  constructor
  · intro h
    obtain ⟨found, hfound, heq⟩ := h
    obtain ⟨rfl, rfl⟩ := Prod.mk.inj heq
    obtain ⟨run, hrun, hstate⟩ := List.mem_map.mp (List.mem_eraseDups.mp hfound)
    refine ⟨List.length_pos_of_mem (List.mem_filter.mpr ⟨hrun, decide_eq_true hstate⟩), ?_⟩
    exact List.countP_eq_length_filter.symm
  · intro h
    obtain ⟨hpos, rfl⟩ := h
    obtain ⟨run, hrun, hstate⟩ := List.countP_pos_iff.mp hpos
    refine ⟨state, ?_, ?_⟩
    · exact List.mem_eraseDups.mpr (List.mem_map.mpr ⟨run, hrun, of_decide_eq_true hstate⟩)
    · rw [List.countP_eq_length_filter]
      rfl

theorem sum_stateCounts (runs : List RunStatus) :
    ((stateCounts runs).map (·.2)).sum = runs.length := by
  have hall : ∀ run ∈ runs, run.state.value ∈ statesOf runs :=
    fun run hrun => List.mem_eraseDups.mpr (List.mem_map_of_mem hrun)
  have hgroups := (groups_perm (fun run : RunStatus => run.state.value)
    (Grouping.nodup_eraseDups _) hall).length_eq
  rw [List.length_flatMap] at hgroups
  rw [((stateCounts_perm runs).map _).sum_eq, List.map_map]
  exact hgroups

/-- One line a state, in the order of their names. -/
theorem sorted_stateCounts (runs : List RunStatus) :
    ((stateCounts runs).map (·.1)).Pairwise (· < ·) := by
  have hsorted : (stateCounts runs).Pairwise fun a b => a.1 ≤ b.1 :=
    List.pairwise_insertionSort (fun a b : String × Nat => a.1 ≤ b.1) _
  have hnodup : ((stateCounts runs).map (·.1)).Nodup := by
    rw [((stateCounts_perm runs).map _).nodup_iff, List.map_map]
    have hid : (Prod.fst ∘ fun state => (state, (group (fun run : RunStatus => run.state.value)
        runs state).length)) = (id : String → String) := rfl
    rw [hid, List.map_id]
    exact Grouping.nodup_eraseDups _
  exact List.Pairwise.imp₂ (fun a b hle hne => lt_of_le_of_ne hle hne)
    (List.pairwise_map.mpr hsorted) hnodup

namespace System

variable {sha256 : Bytes → String} {s s' : System} {event : Event × Nat}

/-- Every record has its run. -/
theorem run_of_record (hs : s.server.Recorded) :
    ∀ info ∈ s.server.cp.coordinator.checkpoints.rows,
      (s.server.cp.coordinator.getRun info.runId).isSome := by
  intro info hinfo
  obtain ⟨_, state, hstate⟩ := hs.checkpointIds _ info (getCheckpoint_of_mem hinfo)
  obtain ⟨run, hrun, -⟩ := Option.map_eq_some_iff.mp hstate
  exact Option.isSome_iff_exists.mpr ⟨run, hrun⟩

/-! ## The counter of commits -/

/-- The record of a checkpoint says `COMMITTED`. -/
def CommittedIn (s : System) (id : String) : Prop :=
  ∃ info, s.server.cp.coordinator.getCheckpoint id = some info ∧ info.state = .committed

/-- The event would take a checkpoint out of `COMMITTED`: it deletes its record, or
brings the answer of an upload of it, or one that rejects its commit. -/
def Uncommits (s : System) (event : Event) (id : String) : Prop :=
  event = .deleteCheckpoint id ∨
    (∃ call reply, s.uploadAnswer event = some (call, reply) ∧ call.checkpointId = id) ∨
    ∃ call reply, s.commitAnswer event = some (call, reply) ∧ call.checkpointId = id ∧
      commitAccepted reply = false

/-- What one step does to the committed checkpoints: they stay, and others may join them,
or one of them may go. -/
inductive CommitsMove (s : System) (event : Event) (s' : System) : Prop
  | stay (hnone : ∀ id, ¬ s.Uncommits event id) (h : ∀ id, s.CommittedIn id → s'.CommittedIn id)
  | drop (gone : String) (hgone : ∀ id, s.Uncommits event id ↔ id = gone)
      (h : ∀ id, s'.CommittedIn id ↔ id ≠ gone ∧ s.CommittedIn id)

/-- A record that is rewritten to another state. -/
theorem committedIn_of_update {gone : String} {state : CheckpointState}
    {summary : Option ShardSummary} {now : Nat} (hstate : state ≠ .committed)
    (hrecords : ∀ other, s'.server.cp.coordinator.getCheckpoint other =
      if other = gone then
        (s.server.cp.coordinator.getCheckpoint gone).map
          (fun info => updatedInfo info state summary now)
      else s.server.cp.coordinator.getCheckpoint other) (id : String) :
    s'.CommittedIn id ↔ id ≠ gone ∧ s.CommittedIn id := by
  unfold CommittedIn
  rw [hrecords]
  by_cases hid : id = gone
  · subst hid
    rw [if_pos rfl]
    refine iff_of_false (fun h => ?_) fun h => h.1 rfl
    obtain ⟨info, hinfo, hcommitted⟩ := h
    obtain ⟨old, -, rfl⟩ := Option.map_eq_some_iff.mp hinfo
    exact hstate hcommitted
  · rw [if_neg hid]
    exact ⟨fun h => ⟨hid, h⟩, fun h => h.2⟩

theorem commitsMove_delete {gone : String} (hdelete : event.1 = .deleteCheckpoint gone)
    (h : s.step sha256 event = some s') : CommitsMove s event.1 s' := by
  obtain ⟨event, now⟩ := event
  obtain rfl : event = .deleteCheckpoint gone := hdelete
  obtain rfl := Option.some.inj h
  refine .drop gone (fun id => ?_) fun id => ?_
  · constructor
    · intro h
      rcases h with hsame | ⟨_, _, hsome, _⟩ | ⟨_, _, hsome, _⟩
      · exact (Event.deleteCheckpoint.inj hsame).symm
      · cases hsome
      · cases hsome
    · intro hid
      exact Or.inl (by rw [hid])
  · unfold CommittedIn
    rw [setCp, getCheckpoint_deleteCheckpoint]
    by_cases hid : id = gone
    · rw [if_pos hid]
      refine iff_of_false (fun h => ?_) fun h => h.1 hid
      obtain ⟨_, hnone, _⟩ := h
      cases hnone
    · rw [if_neg hid]
      exact ⟨fun h => ⟨hid, h⟩, fun h => h.2⟩

/-- An event without a deletion and an answer takes nothing out of `COMMITTED`. -/
theorem not_uncommits (hdelete : ¬ ∃ gone, event.1 = .deleteCheckpoint gone)
    (hupload : s.uploadAnswer event.1 = none) (hcommit : s.commitAnswer event.1 = none)
    (id : String) : ¬ s.Uncommits event.1 id := by
  intro h
  rcases h with hsame | ⟨_, _, hsome, _⟩ | ⟨_, _, hsome, _⟩
  · exact hdelete ⟨id, hsame⟩
  · rw [hupload] at hsome
    cases hsome
  · rw [hcommit] at hsome
    cases hsome

/-- The answer of an upload. -/
theorem uncommits_upload_iff {call : UploadCall} {reply : Except String WriteShardResult}
    {id : String}
    (hdelete : ¬ ∃ gone, event.1 = .deleteCheckpoint gone)
    (hupload : s.uploadAnswer event.1 = some (call, reply))
    (hcommit : s.commitAnswer event.1 = none) :
    s.Uncommits event.1 id ↔ id = call.checkpointId := by
  unfold Uncommits
  rw [hupload, hcommit]
  constructor
  · intro h
    rcases h with hsame | ⟨c, r, hsome, rfl⟩ | ⟨_, _, hsome, _⟩
    · exact absurd ⟨id, hsame⟩ hdelete
    · obtain ⟨rfl, rfl⟩ := Prod.mk.inj (Option.some.inj hsome)
      rfl
    · cases hsome
  · intro hid
    exact Or.inr (Or.inl ⟨call, reply, rfl, hid.symm⟩)

/-- The answer of a commit. -/
theorem uncommits_commit_iff {call : CommitCall} {reply : Except String CommitResponse}
    {id : String}
    (hdelete : ¬ ∃ gone, event.1 = .deleteCheckpoint gone)
    (hupload : s.uploadAnswer event.1 = none)
    (hcommit : s.commitAnswer event.1 = some (call, reply)) :
    s.Uncommits event.1 id ↔ id = call.checkpointId ∧ commitAccepted reply = false := by
  unfold Uncommits
  rw [hupload, hcommit]
  constructor
  · intro h
    rcases h with hsame | ⟨_, _, hsome, _⟩ | ⟨c, r, hsome, rfl, hreply⟩
    · exact absurd ⟨id, hsame⟩ hdelete
    · cases hsome
    · obtain ⟨rfl, rfl⟩ := Prod.mk.inj (Option.some.inj hsome)
      exact ⟨rfl, hreply⟩
  · intro h
    exact Or.inr (Or.inr ⟨call, reply, rfl, h.1.symm, h.2⟩)

theorem commitsMove (hs : s.server.Recorded) (h : s.step sha256 event = some s') :
    CommitsMove s event.1 s' := by
  by_cases hdelete : ∃ gone, event.1 = .deleteCheckpoint gone
  · obtain ⟨gone, hgone⟩ := hdelete
    exact commitsMove_delete hgone h
  cases step_server h with
  | upload call reply hanswer hcommit hserver =>
      obtain ⟨_, ⟨summary, hrecords⟩, _⟩ :=
        uploadShardFinish_effect hs.coherent call reply event.2
      have hstate : (if uploadAccepted reply then CheckpointState.inProgress else .failed) ≠
          .committed := by
        split
        · exact fun h => (by cases h)
        · exact fun h => (by cases h)
      have hafter : ∀ other, s'.server.cp.coordinator.getCheckpoint other =
          if other = call.checkpointId then
            (s.server.cp.coordinator.getCheckpoint call.checkpointId).map fun info =>
              updatedInfo info (if uploadAccepted reply then .inProgress else .failed) summary
                event.2
          else s.server.cp.coordinator.getCheckpoint other := by
        rw [hserver]
        exact hrecords
      exact .drop call.checkpointId (fun _ => uncommits_upload_iff hdelete hanswer hcommit)
        (committedIn_of_update hstate hafter)
  | commit call reply hupload hanswer hserver =>
      obtain ⟨_, _, hrecords, _⟩ := commitRunFinish_records hs.coherent call reply event.2
      have hafter : ∀ other, s'.server.cp.coordinator.getCheckpoint other =
          if other = call.checkpointId then
            (s.server.cp.coordinator.getCheckpoint call.checkpointId).map fun info =>
              updatedInfo info (if commitAccepted reply then .committed else .failed) none event.2
          else s.server.cp.coordinator.getCheckpoint other := by
        rw [hserver]
        exact hrecords
      have hiff : ∀ id, s.Uncommits event.1 id ↔
          id = call.checkpointId ∧ commitAccepted reply = false :=
        fun _ => uncommits_commit_iff hdelete hupload hanswer
      cases hreply : commitAccepted reply with
      | false =>
          rw [hreply] at hafter hiff
          exact .drop call.checkpointId (fun id => (hiff id).trans (and_iff_left rfl))
            (committedIn_of_update (fun h => (by cases h)) hafter)
      | true =>
          rw [hreply] at hafter hiff
          refine .stay (fun id h => (by cases ((hiff id).mp h).2)) fun id h => ?_
          obtain ⟨info, hinfo, hstate⟩ := h
          rw [CommittedIn, hafter]
          by_cases hid : id = call.checkpointId
          · subst hid
            rw [if_pos rfl, hinfo]
            exact ⟨_, rfl, rfl⟩
          · rw [if_neg hid]
            exact ⟨info, hinfo, hstate⟩
  | request request hupload hcommit hhandle hevent =>
      obtain ⟨_, _, hmoves⟩ := Server.handle_records hs hhandle
      refine .stay (not_uncommits hdelete hupload hcommit) fun id h => ?_
      obtain ⟨info, hinfo, hstate⟩ := h
      cases hmoves id with
      | same hsame => exact ⟨info, hsame.trans hinfo, hstate⟩
      | closed old hopen hold _ =>
          obtain rfl := Option.some.inj (hold.symm.trans hinfo)
          rw [CheckpointInfo.isOpen, hstate] at hopen
          rcases hopen with hopen | hopen
          · cases hopen
          · cases hopen
      | created _ _ hnew _ => exact absurd (hs.checkpointIds id info hinfo).1 hnew
  | delete gone _ _ _ hevent => exact absurd ⟨gone, hevent⟩ hdelete
  | stay hupload hcommit hserver =>
      refine .stay (not_uncommits hdelete hupload hcommit) fun id h => ?_
      rw [CommittedIn, hserver]
      exact h

/-- The committed checkpoints, and what the endpoints count of them. -/
theorem mem_committed_iff {id : String} :
    (∃ info ∈ s.server.cp.coordinator.checkpoints.rows, info.checkpointId = id ∧
      isCommitted info = true) ↔ s.CommittedIn id := by
  constructor
  · intro h
    obtain ⟨info, hinfo, rfl, hcommitted⟩ := h
    exact ⟨info, getCheckpoint_of_mem hinfo, of_decide_eq_true hcommitted⟩
  · intro h
    obtain ⟨info, hinfo, hcommitted⟩ := h
    refine ⟨info, mem_of_getCheckpoint hinfo, ?_, decide_eq_true hcommitted⟩
    exact checkpointKey_inj.mp (s.server.cp.coordinator.checkpoints.key_of_find hinfo)

theorem nodup_checkpointIds (c : Coordinator) :
    (c.checkpoints.rows.map (·.checkpointId)).Nodup := by
  have hkeys : ((c.checkpoints.rows.map (·.checkpointId)).map checkpointKey).Nodup := by
    rw [List.map_map]
    exact c.checkpoints.distinct
  exact hkeys.of_map checkpointKey

/-- The number of committed checkpoints goes down exactly where one is lost. -/
theorem countP_committed_lt_iff (hs : s.server.Recorded) (h : s.step sha256 event = some s') :
    s'.server.cp.coordinator.checkpoints.rows.countP isCommitted <
        s.server.cp.coordinator.checkpoints.rows.countP isCommitted ↔
      ∃ id, s.CommittedIn id ∧ s.Uncommits event.1 id := by
  have hmove := commitsMove hs h
  rw [countP_lt_iff (nodup_checkpointIds _) (nodup_checkpointIds _)]
  · constructor
    · intro hlost
      obtain ⟨info, hinfo, hcommitted, hgone⟩ := hlost
      rw [mem_committed_iff] at hgone
      have hbefore := mem_committed_iff.mp ⟨info, hinfo, rfl, hcommitted⟩
      refine ⟨info.checkpointId, hbefore, ?_⟩
      cases hmove with
      | stay _ hstay => exact absurd (hstay _ hbefore) hgone
      | drop gone hiff hdrop =>
          rw [hdrop, not_and] at hgone
          refine (hiff _).mpr ?_
          by_contra hne
          exact hgone hne hbefore
    · intro hlost
      obtain ⟨id, hbefore, huncommits⟩ := hlost
      obtain ⟨info, hinfo, rfl, hcommitted⟩ := mem_committed_iff.mpr hbefore
      refine ⟨info, hinfo, hcommitted, ?_⟩
      rw [mem_committed_iff]
      cases hmove with
      | stay hnone _ => exact absurd huncommits (hnone _)
      | drop gone hiff hdrop =>
          rw [hdrop]
          exact fun h => h.1 ((hiff _).mp huncommits)
  · intro info hinfo hcommitted hgone info' hinfo' hcommitted'
    rw [mem_committed_iff] at hgone ⊢
    have hafter := mem_committed_iff.mp ⟨info', hinfo', rfl, hcommitted'⟩
    cases hmove with
    | stay _ hstay =>
        exact absurd (hstay _ (mem_committed_iff.mp ⟨info, hinfo, rfl, hcommitted⟩)) hgone
    | drop gone _ hdrop => exact ((hdrop _).mp hafter).2

end System

/-! ## Active workers -/

namespace WorkerPlane

variable {s : WorkerPlane}

/-- A lag is reported of the workers with a lease that is alive. -/
theorem mem_lags_iff {now : Nat} {id : String} :
    id ∈ (s.getHeartbeatLags now).map (·.1) ↔ s.LeaseAlive id := by
  unfold getHeartbeatLags
  rw [List.map_map]
  constructor
  · intro h
    obtain ⟨lease, hlease, rfl⟩ := List.mem_map.mp h
    obtain ⟨hrow, halive⟩ := List.mem_filter.mp hlease
    exact ⟨lease, s.heartbeats.leases.find_of_mem hrow, halive⟩
  · intro h
    obtain ⟨lease, hfound, halive⟩ := h
    exact List.mem_map.mpr ⟨lease, List.mem_filter.mpr
      ⟨s.heartbeats.leases.mem_of_find hfound, halive⟩, s.heartbeats.leases.key_of_find hfound⟩

/-- The workers that count as active are those with an active record. -/
theorem mem_activeWorkers_iff {id : String} :
    id ∈ (s.coordinator.workers.rows.filter isActiveWorker).map (·.workerId) ↔
      s.RecordActive id := by
  constructor
  · intro h
    obtain ⟨worker, hworker, rfl⟩ := List.mem_map.mp h
    obtain ⟨hrow, hactive⟩ := List.mem_filter.mp hworker
    exact ⟨worker, hrow, rfl, of_decide_eq_true hactive⟩
  · intro h
    obtain ⟨worker, hrow, rfl, hactive⟩ := h
    exact List.mem_map_of_mem (List.mem_filter.mpr ⟨hrow, decide_eq_true hactive⟩)

/-- The records and the leases agree on who is active. -/
theorem Orderly.leaseAlive_iff (h : s.Orderly) {id : String} :
    s.LeaseAlive id ↔ s.RecordActive id := by
  obtain ⟨r, hrostered, hr⟩ := h
  have hshows := hrostered.shows
  constructor
  · intro halive
    obtain ⟨lease, hget, halive⟩ := halive
    rw [hshows.leases] at hget
    obtain ⟨m, hm, hlease⟩ := Option.bind_eq_some_iff.mp hget
    have hvalid := hrostered.sound.valid id m hm
    have hactive : m.status = .active :=
      hvalid.alive_iff.mp (by rw [Member.alive, hlease, Option.any_some, halive])
    exact ⟨m.record, hshows.mem_of_member hm, (hshows.ids id m hm).1,
      hvalid.active_record hactive⟩
  · intro hactive
    obtain ⟨worker, hrow, rfl, hactive⟩ := hactive
    obtain ⟨m, hm, rfl⟩ := hshows.member_of_mem hrow
    have halive := (hrostered.sound.valid _ m hm).alive_iff.mpr (hr.recorded _ m hm hactive)
    rw [Member.alive, Option.any_eq_true] at halive
    obtain ⟨lease, hlease, halive⟩ := halive
    exact ⟨lease, (hshows.getLease_member hm).trans hlease, halive⟩

/-- The workers that count as active are those with a lag. -/
theorem Orderly.lags_perm (h : s.Orderly) (now : Nat) :
    ((s.getHeartbeatLags now).map (·.1)).Perm
      ((s.coordinator.workers.rows.filter isActiveWorker).map (·.workerId)) := by
  have hlags : ((s.getHeartbeatLags now).map (·.1)).Nodup := by
    unfold getHeartbeatLags
    rw [List.map_map]
    exact s.heartbeats.leases.distinct.sublist (List.filter_sublist.map _)
  have hworkers : ((s.coordinator.workers.rows.filter isActiveWorker).map (·.workerId)).Nodup := by
    obtain ⟨r, hrostered, -⟩ := h
    exact hrostered.shows.nodup_workerIds.sublist (List.filter_sublist.map _)
  refine (List.perm_ext_iff_of_nodup hlags hworkers).mpr fun id => ?_
  rw [mem_lags_iff, mem_activeWorkers_iff]
  exact h.leaseAlive_iff

end WorkerPlane

/-! ## Main results -/

namespace System

variable {sha256 : Bytes → String} {store : KVStore} {autoRecover hasSupervisor : Bool}
  {events : List (Event × Nat)} {s s' : System} {event : Event × Nat}

theorem recorded_of_run
    (h : run (step sha256) (init store autoRecover hasSupervisor) events = some s) :
    s.server.Recorded :=
  run_invariant _ (fun _ _ _ hs hstep => recorded_step hs hstep)
    (Server.recorded_init store autoRecover hasSupervisor) h

/-- The coordinator of the system with some worker records. -/
def withWorkers (s : System) (workers : WorkerTable) : WorkerCoordinator :=
  { s.server.cp.coordinator with workers := workers }

/-- **The metrics count what there is.**  In every state of the system, whatever the worker
records are, a scraper reads the numbers of all runs, workers and checkpoint records,
although the endpoint goes through the records run by run; the runs by state are one line
a state, sorted, that add up to all, and the summary has the bytes of all checkpoints. -/
theorem metrics_exact
    (h : run (step sha256) (init store autoRecover hasSupervisor) events = some s)
    (workers : WorkerTable) :
    (prometheusLines s.server.cp.coordinator ((s.withWorkers workers).listWorkers "")).filterMap
        scrapeLine =
        [("controlplane_runs_total".toList, s.server.cp.coordinator.runs.rows.length),
          ("controlplane_active_runs".toList,
            s.server.cp.coordinator.runs.rows.countP isActiveRun),
          ("controlplane_workers_total".toList, workers.rows.length),
          ("controlplane_active_workers".toList, workers.rows.countP isActiveWorker),
          ("controlplane_checkpoints_total".toList,
            s.server.cp.coordinator.checkpoints.rows.length),
          ("controlplane_checkpoint_commits_total".toList,
            s.server.cp.coordinator.checkpoints.rows.countP isCommitted)] ++
        (stateCounts s.server.cp.coordinator.listRuns).map (fun line =>
          (("controlplane_runs_by_state\x7bstate=\"" ++ line.1 ++ "\"\x7d").toList, line.2)) ∧
      ((stateCounts s.server.cp.coordinator.listRuns).map (·.1)).Pairwise (· < ·) ∧
      ((stateCounts s.server.cp.coordinator.listRuns).map (·.2)).sum =
        s.server.cp.coordinator.runs.rows.length ∧
      (∀ state count, (state, count) ∈ stateCounts s.server.cp.coordinator.listRuns ↔
        0 < count ∧ count = s.server.cp.coordinator.runs.rows.countP fun run =>
          decide (run.state.value = state)) ∧
      (metricsSummary s.server.cp.coordinator
        ((s.withWorkers workers).listWorkers "")).totalCheckpointBytes =
        (s.server.cp.coordinator.checkpoints.rows.map (·.totalBytes)).sum := by
  rw [show (s.withWorkers workers).listWorkers "" = workers.rows from
    (s.withWorkers workers).listWorkers_all]
  have hruns := run_of_record (recorded_of_run h)
  have hcheckpoints : (metricsSummary s.server.cp.coordinator workers.rows).totalCheckpoints =
      s.server.cp.coordinator.checkpoints.rows.length := length_walk hruns
  have hcommitted : (metricsSummary s.server.cp.coordinator workers.rows).committed =
      s.server.cp.coordinator.checkpoints.rows.countP isCommitted := countP_walk hruns _
  refine ⟨?_, sorted_stateCounts _, sum_stateCounts _, fun _ _ => mem_stateCounts,
    sum_walk hruns _⟩
  rw [scrape_prometheusLines, prometheusMetrics]
  dsimp only
  rw [hcheckpoints, hcommitted]
  have hname : "controlplane_runs_by_state" ++ "\x7b" ++ "state" ++ "=\"" =
      "controlplane_runs_by_state\x7bstate=\"" := by decide +kernel
  simp only [List.flatMap_cons, List.flatMap_nil, List.map_cons, List.map_nil, List.map_map,
    List.append_nil, List.cons_append, List.nil_append, Function.comp_def, series_none,
    series_label, hname]
  rfl

/-- **When the counter of commits goes down.**  `controlplane_checkpoint_commits_total` is
exposed as a counter.  In every state of the system a step makes it smaller exactly if it
deletes a committed checkpoint, or is the end of an upload or of a rejected commit that
finds the checkpoint committed. -/
theorem commits_total_drops_iff
    (h : run (step sha256) (init store autoRecover hasSupervisor) events = some s)
    (hstep : s.step sha256 event = some s') (workers workers' : List WorkerInfo) :
    (metricsSummary s'.server.cp.coordinator workers').committed <
        (metricsSummary s.server.cp.coordinator workers).committed ↔
      ∃ id, s.CommittedIn id ∧ s.Uncommits event.1 id := by
  have hs := recorded_of_run h
  have hbefore : (metricsSummary s.server.cp.coordinator workers).committed =
      s.server.cp.coordinator.checkpoints.rows.countP isCommitted :=
    countP_walk (run_of_record hs) _
  have hafter : (metricsSummary s'.server.cp.coordinator workers').committed =
      s'.server.cp.coordinator.checkpoints.rows.countP isCommitted :=
    countP_walk (run_of_record (recorded_step hs hstep)) _
  rw [hbefore, hafter]
  exact countP_committed_lt_iff hs hstep

/-- A shard is uploaded and committed while the upload of another one has not been
answered. -/
def commitBeforeReply : List (Event × Nat) :=
  openEvents ++ writeEvents 0 0 "rank-0" [97] "123e4567-e89b-42d3-a456-426614174000" ++
    [(.uploadReply 0, 5)] ++
    writeEvents 1 1 "rank-1" [98] "123e4567-e89b-42d3-a456-426614174001" ++
    [(.commitBegin "00000000000000a1", 7)] ++ commitEvents 2 0

def replyPending : System :=
  (run (step World.digestOfBody) (init .inMemoryKVStore true true) commitBeforeReply).get
    (by decide +kernel)

theorem run_commitBeforeReply :
    run (step World.digestOfBody) (init .inMemoryKVStore true true) commitBeforeReply =
      some replyPending :=
  (Option.some_get _).symm

theorem committedIn_replyPending : replyPending.CommittedIn "00000000000000c1" := by
  have hstate : (replyPending.server.cp.coordinator.getCheckpoint "00000000000000c1").any
      (fun info => decide (info.state = .committed)) = true := by
    decide +kernel
  obtain ⟨info, hinfo, hcommitted⟩ := (Option.any_eq_true _ _).mp hstate
  exact ⟨info, hinfo, of_decide_eq_true hcommitted⟩

/-- A worker of that run, and one that is dead. -/
def twoWorkers : WorkerTable :=
  let c := (WorkerCoordinator.init .inMemoryKVStore).registerWorker "00000000000000a1" 0 "host-0"
    "0000000000b0" 1
  let c := c.1.registerWorker "00000000000000a1" 1 "host-1" "0000000000b1" 2
  (c.1.markWorkerDead "00000000000000a1" "0000000000b1" .dead).1.workers

/-- The numbers of that run and of these workers. -/
theorem metrics_exact_reply_pending :
    ((prometheusLines replyPending.server.cp.coordinator
      ((replyPending.withWorkers twoWorkers).listWorkers "")).filterMap scrapeLine).map (·.2) =
      [1, 1, 2, 1, 1, 1, 1] := by
  rw [(metrics_exact run_commitBeforeReply twoWorkers).1]
  decide +kernel

/-- The answer makes the counter smaller. -/
theorem commits_total_drops_late_reply :
    ∃ s', replyPending.step World.digestOfBody (.uploadReply 1, 10) = some s' ∧
      (metricsSummary s'.server.cp.coordinator []).committed <
        (metricsSummary replyPending.server.cp.coordinator []).committed := by
  obtain ⟨s', hstep⟩ := Option.isSome_iff_exists.mp
    (show (replyPending.step World.digestOfBody (.uploadReply 1, 10)).isSome by decide +kernel)
  have hanswer : (replyPending.uploadAnswer (.uploadReply 1)).any
      (fun answer => decide (answer.1.checkpointId = "00000000000000c1")) = true := by
    decide +kernel
  obtain ⟨⟨call, reply⟩, hsome, hid⟩ := (Option.any_eq_true _ _).mp hanswer
  exact ⟨s', hstep, (commits_total_drops_iff run_commitBeforeReply hstep [] []).mpr
    ⟨_, committedIn_replyPending, Or.inr (Or.inl ⟨call, reply, hsome, of_decide_eq_true hid⟩)⟩⟩

end System

namespace WorkerPlane

/-- **Active workers have lags.**  Whatever registers, beats, dies, is killed or restarted,
the workers that the metrics count as active are those that the heartbeat manager
reports a lag of. -/
theorem lags_of_active_workers {store : KVStore} {deadThreshold : Nat}
    {events : List (DemoEvent × Nat)} {s : WorkerPlane}
    (hplain : ∀ event ∈ events, event.1.Plain)
    (h : run demoStep (init store deadThreshold) events = some s) (now : Nat) :
    ((s.getHeartbeatLags now).map (·.1)).Perm
        ((s.coordinator.workers.rows.filter isActiveWorker).map (·.workerId)) ∧
      (metricsSummary s.coordinator.toCoordinator s.coordinator.workers.rows).activeWorkers =
        (s.getHeartbeatLags now).length := by
  have horderly : s.Orderly :=
    guarded_invariant demoStep (fun _ _ _ ht hevent hstep => Orderly.demoStep ht hevent hstep)
      (orderly_init store deadThreshold) (guarded_of_forall _ _ hplain) h
  have hperm := horderly.lags_perm now
  have hlength := hperm.length_eq
  rw [List.length_map, List.length_map, ← List.countP_eq_length_filter] at hlength
  exact ⟨hperm, hlength.symm⟩

/-- Before the kill there are two of them. -/
theorem lags_of_active_workers_before_kill :
    (stateBeforeKill.getHeartbeatLags 9).length = 2 :=
  (lags_of_active_workers (by decide +kernel) run_eventsBeforeKill 9).2.symm.trans
    (by decide +kernel)

end WorkerPlane

end CheckpointRuntime
