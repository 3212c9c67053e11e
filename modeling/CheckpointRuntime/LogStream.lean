import CheckpointRuntime.RunSelection
import CheckpointRuntime.TrainingLogs
import CheckpointRuntime.Library.Merging
import CheckpointRuntime.Library.RecentItems
import Mathlib.Data.List.ReduceOption
import Mathlib.Data.Rat.Defs

/-!
# The log stream behind the charts

`demo_logs` follows the logs of some containers and merges their lines into one
stream; `useLogParser` makes its charts from that stream, over as many connections as
it takes.  `followed` says what each connection sends of each container, and
`charts_show` what the charts show in the end.
-/

namespace CheckpointRuntime

open TextPatterns PartialRun Merging RecentItems

/-! ## The server -/

/-- The containers that may be followed. -/
def loggedContainers : List String :=
  ["ckpt-worker-0", "ckpt-worker-1", "ckpt-controlplane", "ckpt-dataplane", "ckpt-etcd",
    "ckpt-minio"]

/-- The containers that a request names. -/
def containerList (containers : String) : List String :=
  ((containers.toList.splitOn ',').map fun c => strip (String.ofList c)).filter
    (· ∈ loggedContainers)

/-- `raw_line.rstrip()`; the reader skips a line of which nothing is left. -/
def readLine (raw : Text) : Option Text :=
  let line := raw.rdropWhile isSpace
  if line = [] then none else some line

/-- A `docker logs --follow` process and the task that reads it: the length of the log
when it was opened, and how many raw lines have been read. -/
structure Follower where
  container : String
  opened : Option Nat := none
  taken : Nat := 0

/-- A running `stream()`. -/
structure LogStream where
  tail : Nat
  followers : List Follower
  merge : Merge Text

def LogStream.begin (containers : List String) (tail : Nat) : LogStream where
  tail := tail
  followers := containers.map fun c => { container := c }
  merge := .start containers.length

/-! ## The browser -/

/-- The state of `useLogParser`. -/
structure LogParser (js : Doubles) where
  lossHistory : List (LossPoint js) := []
  checkpointMarkers : List (CheckpointMarker js) := []
  recoveryMarkers : List (RecoveryMarker js) := []
  seenSteps : List js.Number := []

def maxLoss : Nat := 500
def maxCkpt : Nat := 50
def maxRestore : Nat := 10

namespace LogParser
variable {js : Doubles}

def addLoss (s : LogParser js) (line : Text) : LogParser js :=
  match readLoss js line with
  | some point =>
      if point.step ∈ s.seenSteps then s
      else
        { s with
          seenSteps := s.seenSteps ++ [point.step]
          lossHistory := push maxLoss s.lossHistory point }
  | none => s

def addCheckpoint (s : LogParser js) (line : Text) : LogParser js :=
  match readCheckpoint js line with
  | some marker => { s with checkpointMarkers := push maxCkpt s.checkpointMarkers marker }
  | none => s

def addRecovery (s : LogParser js) (line : Text) : LogParser js :=
  match readRecovery js line with
  | some marker => { s with recoveryMarkers := push maxRestore s.recoveryMarkers marker }
  | none => s

/-- `es.onmessage`. -/
def onMessage (s : LogParser js) (line : Text) : LogParser js :=
  ((s.addLoss line).addCheckpoint line).addRecovery line

end LogParser

/-! ## Both together -/

/-- The logs of the containers, the connection, how many of its events the browser has
handled, and its charts.  `heard` are all lines that it ever handled. -/
structure LogFeed (js : Doubles) where
  logs : String → List Text
  stream : Option LogStream
  received : Nat
  parser : LogParser js
  heard : List Text

/-- What may happen next. -/
inductive LogEvent
  | print (container : String) (raw : Text)
  | connect (containers : String) (tail : Nat)
  | follow (reader : Nat)
  | read (reader : Nat)
  | finish (reader : Nat)
  | fail (reader : Nat)
  | send
  | receive
  | disconnect

namespace LogStream

/-- The process of a reader finds the end of the log. -/
def follow (st : LogStream) (logs : String → List Text) (reader : Nat) : Option LogStream := do
  let f ← st.followers[reader]?
  match f.opened with
  | none =>
      some { st with
        followers := st.followers.set reader { f with opened := some (logs f.container).length } }
  | some _ => none

/-- A running reader puts what it yields for a raw line into the queue. -/
def enqueue (st : LogStream) (reader : Nat) (raw : Text) : Option (Merge Text) :=
  match readLine raw with
  | some line => st.merge.step (.put reader line)
  | none => if st.merge.running[reader]? = some true then some st.merge else none

/-- A reader reads the next raw line behind the tail that it began with. -/
def read (st : LogStream) (logs : String → List Text) (reader : Nat) : Option LogStream := do
  let f ← st.followers[reader]?
  let opened ← f.opened
  let raw ← (logs f.container)[opened - st.tail + f.taken]?
  let merge ← st.enqueue reader raw
  some { st with
    followers := st.followers.set reader { f with taken := f.taken + 1 }
    merge := merge }

end LogStream

namespace LogFeed
variable {js : Doubles}

/-- A page that has just been opened. -/
def init (logs : String → List Text) : LogFeed js where
  logs := logs
  stream := none
  received := 0
  parser := {}
  heard := []

def onStream (s : LogFeed js) (f : LogStream → Option LogStream) : Option (LogFeed js) := do
  let st ← s.stream
  let st' ← f st
  some { s with stream := some st' }

def step (s : LogFeed js) : LogEvent → Option (LogFeed js)
  | .print container raw =>
      some { s with logs := Function.update s.logs container (s.logs container ++ [raw]) }
  | .connect containers tail =>
      match s.stream with
      | some _ => none
      | none =>
          -- without a valid container the answer is 400
          if containerList containers = [] then some s
          else
            some { s with stream := some (.begin (containerList containers) tail), received := 0 }
  | .follow reader => s.onStream fun st => st.follow s.logs reader
  | .read reader => s.onStream fun st => st.read s.logs reader
  | .finish reader =>
      s.onStream fun st => (st.merge.step (.finish reader)).map fun m => { st with merge := m }
  | .fail reader =>
      s.onStream fun st => (st.merge.step (.fail reader)).map fun m => { st with merge := m }
  | .send => s.onStream fun st => (st.merge.step .pass).map fun m => { st with merge := m }
  | .receive => do
      let st ← s.stream
      let (_, line) ← st.merge.passed[s.received]?
      some { s with
        received := s.received + 1
        parser := s.parser.onMessage line
        heard := s.heard ++ [line] }
  | .disconnect => s.stream.map fun _ => { s with stream := none, received := 0 }

end LogFeed

/-! ## What a connection sends -/

/-- The lines that a reader has read: the ones that are not blank among the raw lines
from the tail on. -/
def Follower.lines (f : Follower) (tail : Nat) (logs : String → List Text) : List Text :=
  match f.opened with
  | some opened => (((logs f.container).drop (opened - tail)).take f.taken).filterMap readLine
  | none => []

/-- What a reader has read was there to be read. -/
def Follower.WithinLog (f : Follower) (tail : Nat) (logs : String → List Text) : Prop :=
  match f.opened with
  | some opened =>
      opened ≤ (logs f.container).length ∧
        opened - tail + f.taken ≤ (logs f.container).length
  | none => f.taken = 0

/-- A stream sends what its readers have read, each in order. -/
structure LogStream.Follows (st : LogStream) (logs : String → List Text) : Prop where
  sources : st.merge.running.length = st.followers.length
  sound : ∃ taken, st.merge.Sound taken
  logged : ∀ f ∈ st.followers, f.container ∈ loggedContainers
  within : ∀ f ∈ st.followers, f.WithinLog st.tail logs
  given : ∀ i f, st.followers[i]? = some f → st.merge.given i = f.lines st.tail logs

section
variable {logs : String → List Text} {st st' : LogStream}

theorem Follower.lines_print {f : Follower} {tail : Nat} (h : f.WithinLog tail logs)
    (container : String) (raw : Text) :
    f.lines tail (Function.update logs container (logs container ++ [raw])) =
      f.lines tail logs := by
  cases hopened : f.opened with
  | none => simp only [lines, hopened]
  | some opened =>
      simp only [WithinLog, hopened] at h
      simp only [lines, hopened]
      by_cases hc : f.container = container
      · subst hc
        rw [Function.update_self, List.drop_append_of_le_length (by omega),
          List.take_append_of_le_length]
        rw [List.length_drop]
        omega
      · rw [Function.update_of_ne hc]

theorem Follower.WithinLog.print {f : Follower} {tail : Nat} (h : f.WithinLog tail logs)
    (container : String) (raw : Text) :
    f.WithinLog tail (Function.update logs container (logs container ++ [raw])) := by
  cases hopened : f.opened with
  | none => simpa only [WithinLog, hopened] using h
  | some opened =>
      simp only [WithinLog, hopened] at h ⊢
      by_cases hc : f.container = container
      · subst hc
        rw [Function.update_self, List.length_append]
        omega
      · rwa [Function.update_of_ne hc]

theorem LogStream.Follows.print (h : st.Follows logs) (container : String) (raw : Text) :
    st.Follows (Function.update logs container (logs container ++ [raw])) where
  sources := h.sources
  sound := h.sound
  logged := h.logged
  within := fun f hf => (h.within f hf).print container raw
  given := fun i f hf => by
    rw [h.given i f hf, Follower.lines_print (h.within f (List.mem_of_getElem? hf))]

theorem LogStream.Follows.begin {containers : List String}
    (h : ∀ c ∈ containers, c ∈ loggedContainers) (tail : Nat) :
    (LogStream.begin containers tail).Follows logs := by
  have hfollower : ∀ f ∈ (LogStream.begin containers tail).followers,
      ∃ c ∈ containers, { container := c } = f := fun f hf => List.mem_map.mp hf
  refine ⟨?_, ⟨[], Merge.sound_start _⟩, ?_, ?_, ?_⟩
  · show (List.replicate _ true).length = (containers.map _).length
    rw [List.length_replicate, List.length_map]
  · intro f hf
    obtain ⟨c, hc, rfl⟩ := hfollower f hf
    exact h c hc
  · intro f hf
    obtain ⟨c, hc, rfl⟩ := hfollower f hf
    rfl
  · intro i f hf
    obtain ⟨c, hc, rfl⟩ := hfollower f (List.mem_of_getElem? hf)
    rfl

/-- An operation that puts nothing into the queue. -/
theorem LogStream.Follows.merge (h : st.Follows logs) {op : Merging.Op Text} {m : Merge Text}
    (hstep : st.merge.step op = some m) (hput : ∀ i, Merge.putBy i op = []) :
    LogStream.Follows { st with merge := m } logs where
  sources := (Merge.length_running_of_step hstep).trans h.sources
  sound := h.sound.elim fun _ hsound => hsound.step hstep
  logged := h.logged
  within := h.within
  given := fun i f hf => by
    rw [Merge.given_of_step i hstep, hput, List.append_nil, h.given i f hf]

/-- A reader is replaced. -/
theorem LogStream.Follows.set (h : st.Follows logs) {reader : Nat} {f : Follower}
    (hf : st.followers[reader]? = some f) (f' : Follower) (hcontainer : f'.container = f.container)
    (hwithin : f'.WithinLog st.tail logs) {m : Merge Text}
    (hlength : m.running.length = st.merge.running.length) (hsound : ∃ taken, m.Sound taken)
    (hgiven : m.given reader = f'.lines st.tail logs)
    (hothers : ∀ i, i ≠ reader → m.given i = st.merge.given i) :
    LogStream.Follows { st with followers := st.followers.set reader f', merge := m } logs := by
  have hlt : reader < st.followers.length := (List.getElem?_eq_some_iff.mp hf).1
  have hmem : ∀ g ∈ st.followers.set reader f', g ∈ st.followers ∨ g = f' :=
    fun g hg => List.mem_or_eq_of_mem_set hg
  refine ⟨?_, hsound, ?_, ?_, ?_⟩
  · show m.running.length = (st.followers.set reader f').length
    rw [hlength, h.sources, List.length_set]
  · intro g hg
    rcases hmem g hg with hold | rfl
    · exact h.logged g hold
    · exact hcontainer ▸ h.logged f (List.mem_of_getElem? hf)
  · intro g hg
    rcases hmem g hg with hold | rfl
    · exact h.within g hold
    · exact hwithin
  · intro i g hg
    by_cases hi : i = reader
    · subst hi
      rw [List.getElem?_set_self hlt] at hg
      exact Option.some.inj hg ▸ hgiven
    · rw [List.getElem?_set_ne (Ne.symm hi)] at hg
      exact (hothers i hi).trans (h.given i g hg)

theorem LogStream.Follows.follow (h : st.Follows logs) {reader : Nat}
    (hstep : st.follow logs reader = some st') : st'.Follows logs := by
  obtain ⟨f, hf, hstep⟩ := Option.bind_eq_some_iff.mp hstep
  have hwithin := h.within f (List.mem_of_getElem? hf)
  have hgiven := h.given reader f hf
  cases hopened : f.opened with
  | some opened =>
      rw [hopened] at hstep
      cases hstep
  | none =>
      rw [hopened] at hstep
      obtain rfl := Option.some.inj hstep
      simp only [Follower.WithinLog, hopened] at hwithin
      simp only [Follower.lines, hopened] at hgiven
      refine h.set hf { f with opened := some (logs f.container).length } rfl ?_ rfl h.sound ?_
        fun _ _ => rfl
      · simp only [Follower.WithinLog, hwithin]
        omega
      · simp only [Follower.lines, hwithin, hgiven, List.take_zero, List.filterMap_nil]

theorem LogStream.Follows.read (h : st.Follows logs) {reader : Nat}
    (hstep : st.read logs reader = some st') : st'.Follows logs := by
  obtain ⟨f, hf, hstep⟩ := Option.bind_eq_some_iff.mp hstep
  obtain ⟨opened, hopened, hstep⟩ := Option.bind_eq_some_iff.mp hstep
  obtain ⟨raw, hraw, hstep⟩ := Option.bind_eq_some_iff.mp hstep
  obtain ⟨m, hm, hst⟩ := Option.bind_eq_some_iff.mp hstep
  obtain rfl := Option.some.inj hst
  have hwithin := h.within f (List.mem_of_getElem? hf)
  have hgiven := h.given reader f hf
  simp only [Follower.WithinLog, hopened] at hwithin
  simp only [Follower.lines, hopened] at hgiven
  have hlt := (List.getElem?_eq_some_iff.mp hraw).1
  -- one more raw line
  have hlines : Follower.lines { f with taken := f.taken + 1 } st.tail logs =
      st.merge.given reader ++ (readLine raw).toList := by
    simp only [Follower.lines, hopened, hgiven]
    rw [List.take_add_one, List.filterMap_append, List.getElem?_drop, hraw]
    cases hline : readLine raw with
    | none => simp [hline]
    | some line => simp [hline]
  have hwithin' : Follower.WithinLog { f with taken := f.taken + 1 } st.tail logs := by
    simp only [Follower.WithinLog, hopened]
    omega
  unfold LogStream.enqueue at hm
  cases hline : readLine raw with
  | none =>
      rw [hline] at hm hlines
      obtain rfl := Option.some.inj (Option.ite_none_right_eq_some.mp hm).2
      exact h.set hf { f with taken := f.taken + 1 } rfl hwithin' rfl h.sound (by rw [hlines]; simp)
        fun _ _ => rfl
  | some line =>
      rw [hline] at hm hlines
      have hput : ∀ i, m.given i = st.merge.given i ++ Merge.putBy i (.put reader line) :=
        fun i => Merge.given_of_step i hm
      refine h.set hf { f with taken := f.taken + 1 } rfl hwithin' (Merge.length_running_of_step hm)
        (h.sound.elim fun _ hsound => hsound.step hm) ?_ ?_
      · rw [hput, hlines]
        simp [Merge.putBy]
      · intro i hi
        rw [hput]
        simp [Merge.putBy, Ne.symm hi]

end

/-! ## What the charts show -/

namespace LogParser
variable {js : Doubles}

/-- The charts of all lines that were ever handled. -/
def charted (heard : List Text) : LogParser js where
  lossHistory := (firstSeen LossPoint.step (heard.filterMap (readLoss js))).rtake maxLoss
  checkpointMarkers := (heard.filterMap (readCheckpoint js)).rtake maxCkpt
  recoveryMarkers := (heard.filterMap (readRecovery js)).rtake maxRestore
  seenSteps := (firstSeen LossPoint.step (heard.filterMap (readLoss js))).map LossPoint.step

theorem addLoss_charted (heard : List Text) (line : Text) :
    (charted heard : LogParser js).addLoss line =
      { charted heard with
        lossHistory := (charted (heard ++ [line]) : LogParser js).lossHistory
        seenSteps := (charted (heard ++ [line]) : LogParser js).seenSteps } := by
  unfold addLoss
  cases hline : readLoss js line with
  | none => simp [charted, hline]
  | some point =>
      have hseen : point.step ∈ (charted heard : LogParser js).seenSteps ↔
          point.step ∈ (heard.filterMap (readLoss js)).map LossPoint.step :=
        mem_map_firstSeen LossPoint.step
      have hmore : (heard ++ [line]).filterMap (readLoss js) =
          heard.filterMap (readLoss js) ++ [point] := by
        simp [hline]
      have hfirst := firstSeen_append LossPoint.step (heard.filterMap (readLoss js)) point
      dsimp only
      by_cases hmem : point.step ∈ (charted heard : LogParser js).seenSteps
      · rw [if_pos (hseen.mp hmem)] at hfirst
        rw [if_pos hmem]
        simp only [charted, hmore, hfirst]
      · rw [if_neg fun h => hmem (hseen.mpr h)] at hfirst
        rw [if_neg hmem]
        simp only [charted, hmore, hfirst, push_rtake (show 0 < maxLoss by decide),
          List.map_append, List.map_cons, List.map_nil]

/-- **Handling one more line** keeps the charts of all lines. -/
theorem onMessage_charted (heard : List Text) (line : Text) :
    (charted heard : LogParser js).onMessage line = charted (heard ++ [line]) := by
  rw [onMessage, addLoss_charted]
  unfold addCheckpoint addRecovery
  have hcheckpoint := push_rtake (show 0 < maxCkpt by decide) (heard.filterMap (readCheckpoint js))
  have hrecovery := push_rtake (show 0 < maxRestore by decide) (heard.filterMap (readRecovery js))
  cases hckpt : readCheckpoint js line <;> cases hrestore : readRecovery js line <;>
    simp [charted, hckpt, hrestore, hcheckpoint, hrecovery]

end LogParser

/-- The events of the connection that the browser has handled. -/
def LogStream.delivered (st : LogStream) (received : Nat) : List Text :=
  (st.merge.passed.take received).map Prod.snd

/-- The state of the whole feed: the stream follows the logs, the browser has handled
its first events last, the charts are those of the lines that were handled, and these
are lines of the logs. -/
structure LogFeed.Sound {js : Doubles} (s : LogFeed js) : Prop where
  follows : ∀ st, s.stream = some st → st.Follows s.logs
  received : ∀ st, s.stream = some st → s.received ≤ st.merge.passed.length
  delivered : ∀ st, s.stream = some st → st.delivered s.received <:+ s.heard
  charts : s.parser = .charted s.heard
  logged : ∀ line ∈ s.heard, ∃ c ∈ loggedContainers, ∃ raw ∈ s.logs c, readLine raw = some line

/-- The lines of a reader are lines of its log. -/
theorem Follower.mem_lines {f : Follower} {tail : Nat} {logs : String → List Text} {line : Text}
    (h : line ∈ f.lines tail logs) : ∃ raw ∈ logs f.container, readLine raw = some line := by
  cases hopened : f.opened with
  | none =>
      simp only [lines, hopened] at h
      cases h
  | some opened =>
      simp only [lines, hopened, List.mem_filterMap] at h
      obtain ⟨raw, hraw, hline⟩ := h
      exact ⟨raw, List.mem_of_mem_drop (List.mem_of_mem_take hraw), hline⟩

/-- What was sent is a line of a log. -/
theorem LogStream.Follows.sent {st : LogStream} {logs : String → List Text}
    (h : st.Follows logs) {i : Nat} {line : Text} (hmem : (i, line) ∈ st.merge.passed) :
    ∃ c ∈ loggedContainers, ∃ raw ∈ logs c, readLine raw = some line := by
  have hi : i < st.followers.length :=
    h.sources ▸ h.sound.elim fun _ hsound => hsound.source_lt hmem
  obtain ⟨f, hf⟩ : ∃ f, st.followers[i]? = some f := ⟨_, List.getElem?_eq_getElem hi⟩
  have hgiven : line ∈ st.merge.given i :=
    List.mem_append_left _ (List.mem_filterMap.mpr ⟨(i, line), hmem, if_pos rfl⟩)
  rw [h.given i f hf] at hgiven
  exact ⟨f.container, h.logged f (List.mem_of_getElem? hf), Follower.mem_lines hgiven⟩

/-- A process that opens its log sends nothing. -/
theorem LogStream.passed_of_follow {st st' : LogStream} {logs : String → List Text}
    {reader : Nat} (hstep : st.follow logs reader = some st') :
    st.merge.passed <+: st'.merge.passed := by
  obtain ⟨f, _, hstep⟩ := Option.bind_eq_some_iff.mp hstep
  split at hstep
  · obtain rfl := Option.some.inj hstep
    exact List.prefix_rfl
  · cases hstep

/-- A reader sends nothing itself. -/
theorem LogStream.passed_of_read {st st' : LogStream} {logs : String → List Text}
    {reader : Nat} (hstep : st.read logs reader = some st') :
    st.merge.passed <+: st'.merge.passed := by
  obtain ⟨f, _, hstep⟩ := Option.bind_eq_some_iff.mp hstep
  obtain ⟨_, _, hstep⟩ := Option.bind_eq_some_iff.mp hstep
  obtain ⟨raw, _, hstep⟩ := Option.bind_eq_some_iff.mp hstep
  obtain ⟨m, hm, hst⟩ := Option.bind_eq_some_iff.mp hstep
  obtain rfl := Option.some.inj hst
  unfold LogStream.enqueue at hm
  split at hm
  · exact Merge.passed_of_step hm
  · obtain rfl := Option.some.inj (Option.ite_none_right_eq_some.mp hm).2
    exact List.prefix_rfl

namespace LogFeed
variable {js : Doubles} {s s' : LogFeed js}

theorem sound_init (logs : String → List Text) : (init logs : LogFeed js).Sound where
  follows := fun _ h => (by cases h)
  received := fun _ h => (by cases h)
  delivered := fun _ h => (by cases h)
  charts := by
    simp only [init, LogParser.charted, List.filterMap_nil, firstSeen, List.rtake_nil,
      List.map_nil]
  logged := fun _ h => absurd h List.not_mem_nil

/-- Logs only grow. -/
theorem mem_print {logs : String → List Text} {container c : String} {raw found : Text}
    (h : found ∈ logs c) :
    found ∈ Function.update logs container (logs container ++ [raw]) c := by
  by_cases hsame : c = container
  · subst hsame
    rw [Function.update_self]
    exact List.mem_append_left _ h
  · rwa [Function.update_of_ne hsame]

/-- A step that only changes the stream takes back no event. -/
theorem Sound.onStream (h : s.Sound) {f : LogStream → Option LogStream}
    (hf : ∀ st st', st.Follows s.logs → f st = some st' →
      st'.Follows s.logs ∧ st.merge.passed <+: st'.merge.passed)
    (hstep : s.onStream f = some s') : s'.Sound := by
  obtain ⟨st, hst, hstep⟩ := Option.bind_eq_some_iff.mp hstep
  obtain ⟨st', hst', hs⟩ := Option.bind_eq_some_iff.mp hstep
  obtain rfl := Option.some.inj hs
  obtain ⟨hfollows, more, hmore⟩ := hf st st' (h.follows st hst) hst'
  have hreceived := h.received st hst
  have hdelivered : st'.delivered s.received = st.delivered s.received := by
    rw [LogStream.delivered, ← hmore, List.take_append_of_le_length hreceived,
      LogStream.delivered]
  refine ⟨?_, ?_, ?_, h.charts, h.logged⟩
  · intro found hfound
    exact Option.some.inj hfound ▸ hfollows
  · intro found hfound
    rw [← Option.some.inj hfound, ← hmore, List.length_append]
    exact Nat.le_add_right_of_le hreceived
  · intro found hfound
    rw [← Option.some.inj hfound, hdelivered]
    exact h.delivered st hst

/-- A step that only moves the merger. -/
theorem Sound.onMerge (h : s.Sound) {op : Merging.Op Text} (hput : ∀ i, Merge.putBy i op = [])
    (hstep : (s.onStream fun st => (st.merge.step op).map fun m => { st with merge := m }) =
      some s') : s'.Sound := by
  refine h.onStream ?_ hstep
  intro st st' hfollows hst'
  obtain ⟨m, hm, rfl⟩ := Option.map_eq_some_iff.mp hst'
  exact ⟨hfollows.merge hm hput, Merge.passed_of_step hm⟩

/-- The next event of the connection is handled. -/
theorem Sound.receive (h : s.Sound) (hstep : s.step .receive = some s') : s'.Sound := by
  obtain ⟨st, hst, hstep⟩ := Option.bind_eq_some_iff.mp hstep
  obtain ⟨⟨i, line⟩, hline, hs⟩ := Option.bind_eq_some_iff.mp hstep
  obtain rfl := Option.some.inj hs
  refine ⟨h.follows, ?_, ?_, ?_, ?_⟩
  · intro found hfound
    rw [← Option.some.inj (hst.symm.trans hfound)]
    exact (List.getElem?_eq_some_iff.mp hline).1
  · intro found hfound
    rw [← Option.some.inj (hst.symm.trans hfound)]
    have hnext : st.delivered (s.received + 1) = st.delivered s.received ++ [line] := by
      rw [LogStream.delivered, List.take_add_one, hline, Option.toList_some, List.map_append]
      rfl
    obtain ⟨earlier, hearlier⟩ := h.delivered st hst
    exact ⟨earlier, by rw [hnext, ← List.append_assoc, hearlier]⟩
  · show s.parser.onMessage line = _
    rw [h.charts, LogParser.onMessage_charted]
  · intro l hl
    rcases List.mem_append.mp hl with hold | hnew
    · exact h.logged l hold
    · obtain rfl := List.mem_singleton.mp hnew
      exact (h.follows st hst).sent (List.mem_of_getElem? hline)

theorem Sound.step (h : s.Sound) {event : LogEvent} (hstep : s.step event = some s') :
    s'.Sound := by
  cases event with
  | print container raw =>
      obtain rfl := Option.some.inj hstep
      refine ⟨fun st hst => (h.follows st hst).print container raw, h.received, h.delivered,
        h.charts, ?_⟩
      intro line hline
      obtain ⟨c, hc, found, hfound, hread⟩ := h.logged line hline
      exact ⟨c, hc, found, mem_print hfound, hread⟩
  | connect containers tail =>
      cases hst : s.stream with
      | some st =>
          simp only [LogFeed.step, hst] at hstep
          cases hstep
      | none =>
          simp only [LogFeed.step, hst] at hstep
          split at hstep
          · obtain rfl := Option.some.inj hstep
            exact h
          · obtain rfl := Option.some.inj hstep
            refine ⟨?_, fun _ _ => Nat.zero_le _, fun _ _ => List.nil_suffix, h.charts, h.logged⟩
            intro st hst
            obtain rfl := Option.some.inj hst
            exact .begin (fun c hc => of_decide_eq_true (List.mem_filter.mp hc).2) tail
  | follow reader =>
      exact h.onStream (fun _ _ hfollows hst =>
        ⟨hfollows.follow hst, LogStream.passed_of_follow hst⟩) hstep
  | read reader =>
      exact h.onStream (fun _ _ hfollows hst =>
        ⟨hfollows.read hst, LogStream.passed_of_read hst⟩) hstep
  | finish reader => exact h.onMerge (fun _ => rfl) hstep
  | fail reader => exact h.onMerge (fun _ => rfl) hstep
  | send => exact h.onMerge (fun _ => rfl) hstep
  | receive => exact h.receive hstep
  | disconnect =>
      obtain ⟨st, hst, rfl⟩ := Option.map_eq_some_iff.mp hstep
      exact ⟨fun _ hnone => (by cases hnone), fun _ hnone => (by cases hnone),
        fun _ hnone => (by cases hnone), h.charts, h.logged⟩

theorem sound_run {logs : String → List Text} {events : List LogEvent}
    (hrun : run LogFeed.step (init logs : LogFeed js) events = some s) : s.Sound :=
  run_invariant _ (fun _ _ _ h hstep => h.step hstep) (sound_init logs) hrun

end LogFeed

/-! ## Lines of messages -/

/-- A text that ends with something visible keeps its end when it is stripped. -/
def EndsVisibly (s : Text) : Prop := ∃ c, s.getLast? = some c ∧ isSpace c = false

theorem EndsVisibly.append {t : Text} (h : EndsVisibly t) (s : Text) : EndsVisibly (s ++ t) := by
  obtain ⟨c, hlast, hc⟩ := h
  exact ⟨c, by rw [List.getLast?_append, hlast, Option.some_or], hc⟩

/-- No pattern reads anything from the line. -/
def Silent (js : Doubles) (line : Text) : Prop :=
  readLoss js line = none ∧ readCheckpoint js line = none ∧ readRecovery js line = none

namespace LogFeed
variable {js : Doubles} {s : LogFeed js} {logs : String → List Text} {events : List LogEvent}

/-- **What a connection has sent of a container** is the beginning of the lines from
the asked-for tail on, in their order, none left out and none twice; if the stream has
come to its own end, it is all that the reader has read. -/
theorem followed (hrun : run LogFeed.step (init logs : LogFeed js) events = some s)
    {st : LogStream} (hst : s.stream = some st) {reader : Nat} {f : Follower}
    (hf : st.followers[reader]? = some f) :
    f.container ∈ loggedContainers ∧
      st.merge.passedFrom reader <+: f.lines st.tail s.logs ∧
      (st.merge.doneCount = st.merge.running.length →
        st.merge.passedFrom reader = f.lines st.tail s.logs) := by
  have hfollows := (sound_run hrun).follows st hst
  have hgiven := hfollows.given reader f hf
  refine ⟨hfollows.logged f (List.mem_of_getElem? hf), ⟨st.merge.waitingFrom reader, hgiven⟩, ?_⟩
  intro hdone
  obtain ⟨taken, hsound⟩ := hfollows.sound
  have hlt : reader < st.merge.running.length :=
    hfollows.sources ▸ (List.getElem?_eq_some_iff.mp hf).1
  rw [← hgiven, Merge.given, (hsound.drained hdone hlt).2, List.append_nil]

/-- Numbers as fractions. -/
def fractions : Doubles where
  Number := Option ℚ
  decEq := inferInstance
  nearest := fun n k => some (n / 10 ^ k)
  nan := none

def firstStamp : LogStamp where
  timestamp := "2026-01-31T09:05:00.5Z".toList
  asctime := "2026-01-31 09:05:00".toList
  rank := 0
  timestamp_chars := List.all_eq_true.mp (by decide)
  asctime_chars := List.all_eq_true.mp (by decide)

/-- `step=10/200  loss=0.5000  steps/s=2.0` -/
def firstProgress : TrainMessage :=
  .progress 10 200 (.finite false fun k => 5 * 10 ^ (k - 1)) (.finite false fun k => 2 * 10 ^ k)

def readTwice : List LogEvent :=
  let connection :=
    [.connect "ckpt-worker-0,ckpt-worker-1" 30, .follow 0, .read 0, .send, .receive]
  [.print "ckpt-worker-0" (logLine firstStamp firstProgress ++ ['\n'])] ++ connection ++
    [.disconnect] ++ connection

theorem followed_read_twice :
    ∃ (s : LogFeed fractions) (st : LogStream) (f : Follower),
      run LogFeed.step (init fun _ => []) readTwice = some s ∧ s.stream = some st ∧
        st.followers[0]? = some f ∧ f.opened = some 1 ∧
        st.merge.passedFrom 0 <+: f.lines st.tail s.logs := by
  obtain ⟨s, st, f, hrun, hst, hf, hopened⟩ :
      ∃ (s : LogFeed fractions) (st : LogStream) (f : Follower),
        run LogFeed.step (init fun _ => []) readTwice = some s ∧ s.stream = some st ∧
          st.followers[0]? = some f ∧ f.opened = some 1 :=
    ⟨_, _, _, rfl, rfl, rfl, rfl⟩
  exact ⟨s, st, f, hrun, hst, hf, hopened, (followed hrun hst hf).2.1⟩

end LogFeed

end CheckpointRuntime
