import Kallichore.KernelState.Basic
import Kallichore.Resources.CpuTracker
import Kallichore.Resources.ProcessTree

/-!
# The resource monitor

One task goes through all sessions at every tick, samples the processes of those that have a
client and a process, and sends each of them an update. It keeps a tracker for every session,
also for one that it skips, and discards the trackers of the sessions that are gone.

What one session is told does not depend on the others: it is what a tracker of its own
makes of the ticks at which the session is sampled.
-/

namespace Kallichore

namespace Resources

open Words

/-! ## The processes on Linux -/

/-- What `/proc` shows: the names in the task directory of a process, the children of a
thread, and the status line. -/
structure Proc where
  tasks : UInt32 → Option (List (List Char))
  children : UInt32 → UInt32 → Option (List Char)
  stat : UInt32 → Option (List Char)

def parseU32 (text : List Char) : Option UInt32 := (parseUnsigned 32 text).map UInt32.ofNat

/-- Read the direct children of a process, thread by thread. -/
def Proc.childPids (proc : Proc) (pid : UInt32) : List UInt32 :=
  match proc.tasks pid with
  | none => []
  | some entries =>
      entries.flatMap fun name =>
        match (parseU32 name).bind (proc.children pid) with
        | none => []
        | some content => (splitWhitespace content).filterMap parseU32

/-- What `sysconf` says. -/
structure Sysconf where
  clockTicksPerSec : UInt64
  pageSize : UInt64

def Proc.sampleOne (proc : Proc) (conf : Sysconf) (pid : UInt32) : Option ProcessSample := do
  let stat ← ProcStat.parse (← proc.stat pid)
  some
    { pid
      cpuTimeNs := Saturating.mul stat.cpuTicks 1000000000 / conf.clockTicksPerSec
      memoryBytes := Saturating.mul stat.rssPages conf.pageSize
      threadCount := stat.numThreads }

/-- Sample the given processes; those that have exited are skipped. -/
def sample (sampleOne : UInt32 → Option ProcessSample) (pids : List UInt32) :
    List ProcessSample :=
  pids.filterMap sampleOne

/-- The samples of a session whose process has a PID, in the order in which its processes are
gone through. -/
def IsSampled (proc : Proc) (conf : Sysconf) (includeChildren : Bool) (pid : UInt32)
    (samples : List ProcessSample) : Prop :=
  ∃ pids : List UInt32, pids.Nodup ∧ samples = sample (proc.sampleOne conf) pids ∧
    if includeChildren then ∃ n, getProcessTree proc.childPids pid n = some pids.toFinset
    else pids = [pid]

theorem pid_of_sampleOne {proc : Proc} {conf : Sysconf} {pid : UInt32} {sample : ProcessSample}
    (h : proc.sampleOne conf pid = some sample) : sample.pid = pid := by
  simp only [Proc.sampleOne, Option.bind_eq_bind, Option.bind_eq_some_iff, Option.some.injEq] at h
  obtain ⟨_, _, _, _, rfl⟩ := h
  rfl

theorem map_pid_sample_sublist (proc : Proc) (conf : Sysconf) (pids : List UInt32) :
    ((sample (proc.sampleOne conf) pids).map (·.pid)).Sublist pids := by
  induction pids with
  | nil => exact List.Sublist.slnil
  | cons pid pids ih =>
      rw [sample, List.filterMap_cons]
      cases hsample : proc.sampleOne conf pid with
      | none => exact ih.cons pid
      | some first =>
          rw [List.map_cons, pid_of_sampleOne hsample]
          exact ih.cons_cons pid

/-- The processes of a session that are sampled are distinct, no more than are tracked, and
descend from the session's own. -/
theorem IsSampled.spec {proc : Proc} {conf : Sysconf} {includeChildren : Bool} {pid : UInt32}
    {samples : List ProcessSample} (h : IsSampled proc conf includeChildren pid samples) :
    (samples.map (·.pid)).Nodup ∧ samples.length ≤ maxTrackedProcesses ∧
      ∀ sample ∈ samples, sample.pid ∈ descendants proc.childPids pid := by
  obtain ⟨pids, hnodup, rfl, hpids⟩ := h
  have hsublist := map_pid_sample_sublist proc conf pids
  have htree : pids.length ≤ maxTrackedProcesses ∧
      ∀ p ∈ pids, p ∈ descendants proc.childPids pid := by
    split at hpids
    next =>
      obtain ⟨n, hn⟩ := hpids
      have htree := isTree_of_getProcessTree hn
      refine ⟨?_, fun p hp => htree.subset (List.mem_toFinset.mpr hp)⟩
      rw [← List.toFinset_card_of_nodup hnodup]
      exact htree.bounded
    next =>
      rw [hpids]
      refine ⟨by simp [maxTrackedProcesses], fun p hp => ?_⟩
      rw [List.mem_singleton.mp hp]
      exact root_mem_descendants proc.childPids pid
  refine ⟨hnodup.sublist hsublist, ?_, fun one hone => ?_⟩
  · rw [← List.length_map (·.pid)]
    exact hsublist.length_le.trans htree.1
  · exact htree.2 _ (hsublist.subset (List.mem_map_of_mem hone))

/-! ## A tick -/

/-- What is read of a session at a tick. The samples are only taken if it comes to that. -/
structure Reading where
  sessionId : String
  connected : Bool
  processId : Option UInt32
  samples : List ProcessSample

structure Round where
  readings : List Reading
  now : ℕ
  timestamp : UInt64

structure Monitor where
  /-- One CPU tracker per session, keyed by session ID. -/
  trackers : String → Option CpuTracker
  sampleIntervalMs : UInt64

inductive MonitorEvent
  | tick (round : Round)
  | interval (newIntervalMs : UInt64)

/-- The session is sampled: it has a client and a process. -/
def Reading.active (reading : Reading) : Bool := reading.connected && reading.processId.isSome

namespace Monitor

def start (sampleIntervalMs : UInt64) : Monitor where
  trackers := fun _ => none
  sampleIntervalMs := sampleIntervalMs

/-- The tracker of a session, which is a new one if there is none. -/
def tracker (trackers : String → Option CpuTracker) (sessionId : String) : CpuTracker :=
  (trackers sessionId).getD CpuTracker.new

/-- The update that is made of a session's samples. -/
def update (m : Monitor) (round : Round) (samples : List ProcessSample) (cpuPercent : UInt64) :
    ResourceUpdate where
  cpuPercent := cpuPercent
  memoryBytes := (samples.map (·.memoryBytes)).foldl (· + ·) 0
  threadCount := (samples.map (·.threadCount)).foldl (· + ·) 0
  samplingPeriodMs := m.sampleIntervalMs
  timestamp := round.timestamp

/-- One session of a tick: the trackers so far, and the updates that were sent. -/
def visit (m : Monitor) (round : Round)
    (acc : (String → Option CpuTracker) × List (String × ResourceUpdate)) (reading : Reading) :
    (String → Option CpuTracker) × List (String × ResourceUpdate) :=
  if reading.active then
    let (next, usage) :=
      (tracker acc.1 reading.sessionId).usagePercent reading.samples round.now
    (Function.update acc.1 reading.sessionId (some next),
      acc.2 ++ [(reading.sessionId, m.update round reading.samples usage.percent)])
  else acc

/-- A tick of the monitor, and the updates that it sends. Nothing is done if sampling is
disabled or no session has a client. -/
def tick (m : Monitor) (round : Round) : Monitor × List (String × ResourceUpdate) :=
  if m.sampleIntervalMs = 0 ∨ ¬ round.readings.any (·.connected) then (m, [])
  else
    let (trackers, updates) := round.readings.foldl (m.visit round) (m.trackers, [])
    ({ m with
        trackers := fun sessionId =>
          if sessionId ∈ round.readings.map (·.sessionId) then trackers sessionId else none },
      updates)

def handle (m : Monitor) : MonitorEvent → Monitor × List (String × ResourceUpdate)
  | .tick round => m.tick round
  | .interval newIntervalMs => ({ m with sampleIntervalMs := newIntervalMs }, [])

/-- The updates that are sent along a run. -/
def updates : Monitor → List MonitorEvent → List (String × ResourceUpdate)
  | _, [] => []
  | m, event :: events => (m.handle event).2 ++ updates (m.handle event).1 events

/-! ## What one session is told -/

/-- The percentages that a session is sent. -/
def percents (sessionId : String) (updates : List (String × ResourceUpdate)) : List UInt64 :=
  (updates.filter fun update => update.1 = sessionId).map (·.2.cpuPercent)

/-- The tick that a round is for a session, if it is sampled. -/
def tickOf (sessionId : String) (now : ℕ) (readings : List Reading) : Option Tick :=
  (readings.find? fun reading => reading.sessionId = sessionId && reading.active).map
    fun reading => { samples := reading.samples, now }

/-- What a tracker makes of a tick, if there is one. -/
def own (tracker : CpuTracker) : Option Tick → CpuTracker × List UInt64
  | none => (tracker, [])
  | some tick =>
      let (next, usage) := tracker.usagePercent tick.samples tick.now
      (next, [usage.percent])

theorem percents_append (sessionId : String) (a b : List (String × ResourceUpdate)) :
    percents sessionId (a ++ b) = percents sessionId a ++ percents sessionId b := by
  rw [percents, List.filter_append, List.map_append]
  rfl

theorem tickOf_eq_none {sessionId : String} {readings : List Reading}
    (h : sessionId ∉ readings.map (·.sessionId)) (now : ℕ) :
    tickOf sessionId now readings = none := by
  rw [tickOf, Option.map_eq_none_iff, List.find?_eq_none]
  intro reading hreading heq
  rw [Bool.and_eq_true, decide_eq_true_eq] at heq
  exact h (List.mem_map.mpr ⟨reading, hreading, heq.1⟩)

theorem tickOf_cons (sessionId : String) (now : ℕ) (reading : Reading) (readings : List Reading) :
    tickOf sessionId now (reading :: readings) =
      (tickOf sessionId now [reading]).or (tickOf sessionId now readings) := by
  simp only [tickOf, List.find?_cons, List.find?_nil]
  split
  next => rfl
  next => rfl

/-- A session that is visited affects what is kept for it and what it is sent. -/
theorem visit_own (m : Monitor) (round : Round)
    (acc : (String → Option CpuTracker) × List (String × ResourceUpdate)) (reading : Reading)
    (sessionId : String) :
    tracker (m.visit round acc reading).1 sessionId =
        (own (tracker acc.1 sessionId) (tickOf sessionId round.now [reading])).1 ∧
      percents sessionId (m.visit round acc reading).2 = percents sessionId acc.2 ++
        (own (tracker acc.1 sessionId) (tickOf sessionId round.now [reading])).2 := by
  rw [visit]
  split
  next hactive =>
    by_cases hid : reading.sessionId = sessionId
    · subst hid
      simp [tickOf, hactive, own, tracker, percents, update]
    · simp [tickOf, hid, own, tracker, percents, Function.update_of_ne (Ne.symm hid)]
  next hactive =>
    simp [tickOf, hactive, own]

/-- Of all sessions that are visited, only the session itself matters to it. -/
theorem foldl_visit_own (m : Monitor) (round : Round)
    (acc : (String → Option CpuTracker) × List (String × ResourceUpdate))
    {readings : List Reading} (h : (readings.map (·.sessionId)).Nodup) (sessionId : String) :
    tracker (readings.foldl (m.visit round) acc).1 sessionId =
        (own (tracker acc.1 sessionId) (tickOf sessionId round.now readings)).1 ∧
      percents sessionId (readings.foldl (m.visit round) acc).2 = percents sessionId acc.2 ++
        (own (tracker acc.1 sessionId) (tickOf sessionId round.now readings)).2 := by
  induction readings generalizing acc with
  | nil => exact ⟨rfl, (List.append_nil _).symm⟩
  | cons reading readings ih =>
      rw [List.map_cons, List.nodup_cons] at h
      obtain ⟨htracker, hpercents⟩ := ih (m.visit round acc reading) h.2
      obtain ⟨hfirst, hsent⟩ := m.visit_own round acc reading sessionId
      rw [List.foldl_cons, htracker, hpercents, hfirst, hsent]
      rw [tickOf_cons sessionId round.now reading readings]
      cases hown : tickOf sessionId round.now [reading] with
      | none =>
          rw [Option.none_or, own, List.append_nil]
          exact ⟨rfl, rfl⟩
      | some tick =>
          have hid : sessionId ∈ [reading].map (·.sessionId) := by
            by_contra hother
            rw [tickOf_eq_none hother] at hown
            cases hown
          have hrest : tickOf sessionId round.now readings = none :=
            tickOf_eq_none (List.mem_singleton.mp hid ▸ h.1) round.now
          rw [hrest, Option.some_or]
          exact ⟨rfl, List.append_nil _⟩

/-- The session is listed in every round, and listed once. -/
def Listed (sessionId : String) : MonitorEvent → Prop
  | .tick round => (round.readings.map (·.sessionId)).Nodup ∧
      sessionId ∈ round.readings.map (·.sessionId)
  | .interval _ => True

/-- The tick that an event is for a session, while sampling has an interval. -/
def ownTick (sessionId : String) (sampleIntervalMs : UInt64) : MonitorEvent → Option Tick
  | .tick round =>
      if sampleIntervalMs = 0 then none else tickOf sessionId round.now round.readings
  | .interval _ => none

def nextInterval (sampleIntervalMs : UInt64) : MonitorEvent → UInt64
  | .tick _ => sampleIntervalMs
  | .interval newIntervalMs => newIntervalMs

/-- The ticks at which a session is sampled. -/
def ownTicks (sessionId : String) : UInt64 → List MonitorEvent → List Tick
  | _, [] => []
  | sampleIntervalMs, event :: events =>
      (ownTick sessionId sampleIntervalMs event).toList ++
        ownTicks sessionId (nextInterval sampleIntervalMs event) events

theorem tickOf_of_not_connected {round : Round}
    (h : ¬ round.readings.any (·.connected) = true) (sessionId : String) :
    tickOf sessionId round.now round.readings = none := by
  rw [tickOf, Option.map_eq_none_iff, List.find?_eq_none]
  intro reading hreading heq
  rw [Bool.and_eq_true, Reading.active, Bool.and_eq_true] at heq
  exact h (List.any_eq_true.mpr ⟨reading, hreading, heq.2.1⟩)

theorem handle_own (m : Monitor) {event : MonitorEvent} {sessionId : String}
    (h : Listed sessionId event) :
    tracker (m.handle event).1.trackers sessionId =
        (own (tracker m.trackers sessionId) (ownTick sessionId m.sampleIntervalMs event)).1 ∧
      percents sessionId (m.handle event).2 =
        (own (tracker m.trackers sessionId) (ownTick sessionId m.sampleIntervalMs event)).2 ∧
      (m.handle event).1.sampleIntervalMs = nextInterval m.sampleIntervalMs event := by
  cases event with
  | interval newIntervalMs => exact ⟨rfl, rfl, rfl⟩
  | tick round =>
      simp only [handle, tick, ownTick]
      by_cases hzero : m.sampleIntervalMs = 0
      · rw [if_pos (Or.inl hzero), if_pos hzero]
        exact ⟨rfl, rfl, rfl⟩
      · rw [if_neg hzero]
        by_cases hconnected : round.readings.any (·.connected) = true
        · rw [if_neg (by simp [hzero, hconnected])]
          obtain ⟨htracker, hpercents⟩ :=
            m.foldl_visit_own round (m.trackers, []) h.1 sessionId
          refine ⟨Eq.trans ?_ htracker, hpercents, rfl⟩
          exact congrArg (Option.getD · CpuTracker.new) (if_pos h.2)
        · rw [if_pos (Or.inr hconnected), tickOf_of_not_connected hconnected]
          exact ⟨rfl, rfl, rfl⟩

theorem map_percent_usages_append (tracker : CpuTracker) (tick : Option Tick)
    (ticks : List Tick) :
    (CpuTracker.usages tracker (tick.toList ++ ticks)).map (·.percent) =
      (own tracker tick).2 ++ (CpuTracker.usages (own tracker tick).1 ticks).map (·.percent) := by
  cases tick with
  | none => rfl
  | some tick => rfl

/-- A session that is listed throughout is told what its own tracker makes of the ticks at
which it is sampled, whatever the other sessions do. -/
theorem percents_updates (m : Monitor) {events : List MonitorEvent} {sessionId : String}
    (h : ∀ event ∈ events, Listed sessionId event) :
    percents sessionId (m.updates events) =
      (CpuTracker.usages (tracker m.trackers sessionId)
        (ownTicks sessionId m.sampleIntervalMs events)).map (·.percent) := by
  induction events generalizing m with
  | nil => rfl
  | cons event events ih =>
      obtain ⟨htracker, hpercents, hinterval⟩ := m.handle_own (h event List.mem_cons_self)
      rw [updates, percents_append, hpercents, ownTicks, map_percent_usages_append,
        ih (m.handle event).1 fun e he => h e (List.mem_cons_of_mem event he), htracker,
        hinterval]

/-- The share of the time since the session was sampled last that its processes have used. -/
def share (ticks : List Tick) (k : ℕ) : ℕ :=
  if 0 < elapsedAt ticks k then 100 * used ticks k / elapsedAt ticks k else 0

/-- What a session is told, from the start of the monitor, is how much of the time its
processes have used since the tick before, as long as that has room. -/
theorem percents_updates_start (sampleIntervalMs : UInt64) {events : List MonitorEvent}
    {sessionId : String} (h : ∀ event ∈ events, Listed sessionId event)
    (hsteady : Steady (ownTicks sessionId sampleIntervalMs events))
    (hfits : Fits (ownTicks sessionId sampleIntervalMs events)) :
    (percents sessionId ((start sampleIntervalMs).updates events)).map UInt64.toNat =
      (List.range (ownTicks sessionId sampleIntervalMs events).length).map
        (share (ownTicks sessionId sampleIntervalMs events)) := by
  rw [percents_updates (start sampleIntervalMs) h]
  change ((CpuTracker.usages CpuTracker.new (ownTicks sessionId sampleIntervalMs events)).map
    (·.percent)).map UInt64.toNat = _
  generalize ownTicks sessionId sampleIntervalMs events = ticks at hsteady hfits
  apply List.ext_getElem?
  intro k
  rw [List.getElem?_map, List.getElem?_map, List.getElem?_map]
  rcases Nat.lt_or_ge k ticks.length with hk | hk
  · obtain ⟨usage, husage, hbusy, hpercent⟩ := usagePercent_at hsteady (List.getElem?_eq_getElem hk)
    obtain ⟨hused, hroom⟩ := hfits k hk
    rw [Nat.mod_eq_of_lt hused] at hbusy
    rw [← hbusy] at hroom
    rw [husage, List.getElem?_range hk, Option.map_some, Option.map_some, Option.map_some,
      hpercent, (toNat_percent_eq_iff usage.busyNs _).mpr hroom, share, hbusy]
  · rw [List.getElem?_eq_none (by rwa [CpuTracker.length_usages]),
      List.getElem?_eq_none (by rwa [List.length_range])]
    rfl

end Monitor

end Resources

end Kallichore
