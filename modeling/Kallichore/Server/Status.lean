import Kallichore.KernelState.Basic
import Kallichore.Lib.Extremes

/-!
# The status of the server

A kernel notes since when it has been idle and since when it has been busy. Both are
written with every change of the status, and a change that is ignored writes neither, so
they say of themselves which status it is.

`server_status` goes through the sessions once and keeps the earliest time since which one
of them has been busy and the latest since which another one has been idle. A session that
is starting or offline has no time to add, and a server without sessions has been idle since
it started. A session that is busy does not keep the others from counting as idle.

Instants are in nanoseconds here.
-/

namespace Kallichore

/-- A kernel with this status counts as idle. -/
def Status.Resting (status : Status) : Prop :=
  status = .idle ∨ status = .ready ∨ status = .exited

namespace KernelState

/-- A call of `set_status`. -/
structure StatusCall where
  status : Status
  reason : Option String
  host : Host

def setStatuses (state : KernelState) (calls : List StatusCall) : KernelState :=
  calls.foldl (fun state call => (state.setStatus call.status call.reason call.host).1) state

/-- The state is one that `set_status` leads to from a new one. -/
def Reached (state : KernelState) : Prop :=
  ∃ sessionId workingDirectory host calls,
    state = (new sessionId workingDirectory host).setStatuses calls

/-- The times that are noted are those of the status. -/
structure TimesMatch (state : KernelState) : Prop where
  busySince : state.busySince.isSome = true ↔ state.status = .busy
  idleSince : state.idleSince.isSome = true ↔ state.status.Resting

theorem timesMatch_enterStatus (state : KernelState) (status : Status) (host : Host) :
    (state.enterStatus status host).TimesMatch := by
  constructor
  · by_cases hbusy : status = .busy
    · simp [enterStatus, hbusy]
    · simp [enterStatus, hbusy]
  · by_cases hresting : status.Resting
    · have hthree := hresting
      rw [Status.Resting] at hthree
      simp [enterStatus, hresting, hthree]
    · have hthree := hresting
      rw [Status.Resting] at hthree
      simp [enterStatus, hresting, hthree]

theorem timesMatch_setStatus {state : KernelState} (h : state.TimesMatch) (call : StatusCall) :
    (state.setStatus call.status call.reason call.host).1.TimesMatch := by
  rcases state.setStatus_cases call.status call.reason call.host with
    ⟨-, heq⟩ | ⟨-, -, workingDirectory, heq⟩
  · rw [heq]
    exact h
  · rw [heq]
    obtain ⟨hbusy, hidle⟩ := state.timesMatch_enterStatus call.status call.host
    exact ⟨hbusy, hidle⟩

theorem timesMatch_setStatuses {state : KernelState} (h : state.TimesMatch)
    (calls : List StatusCall) : (state.setStatuses calls).TimesMatch := by
  induction calls generalizing state with
  | nil => exact h
  | cons call calls ih => exact ih (timesMatch_setStatus h call)

theorem timesMatch_new (sessionId workingDirectory : String) (host : Host) :
    (new sessionId workingDirectory host).TimesMatch := by
  constructor
  · simp [new]
  · simp [new, Status.Resting]

theorem Reached.timesMatch {state : KernelState} (h : state.Reached) : state.TimesMatch := by
  obtain ⟨sessionId, workingDirectory, host, calls, rfl⟩ := h
  exact timesMatch_setStatuses (timesMatch_new sessionId workingDirectory host) calls

end KernelState

/-- What the server says of itself beside its sessions. The status of the MCP server is
carried as JSON. -/
structure ServerInfo where
  startedTime : ℕ
  serverId : String
  processId : UInt32
  mcp : Value

structure ServerStatus where
  sessions : Int32
  active : Int32
  busy : Bool
  idleSeconds : Int32
  busySeconds : Int32
  uptimeSeconds : Int32
  version : String
  processId : Int32
  /-- In nanoseconds since the epoch. -/
  started : ℤ
  serverId : Option String
  mcp : Option Value

namespace ServerStatus

/-- The earlier of the time so far and the one of a busy session. -/
def earlier : Option ℕ → Option ℕ → Option ℕ
  | some earliest, some busySince =>
      if busySince < earliest then some busySince else some earliest
  | some earliest, none => some earliest
  | none, busySince => busySince

/-- The later of the time so far and the one of a session that is not busy. -/
def later : Option ℕ → Option ℕ → Option ℕ
  | some latest, some idleSince => if idleSince > latest then some idleSince else some latest
  | some latest, none => some latest
  | none, idleSince => idleSince

/-- What `server_status` keeps while it goes through the sessions. -/
@[ext]
structure Aggregate where
  busy : Bool
  active : Int32
  earliestBusy : Option ℕ
  latestIdle : Option ℕ

namespace Aggregate

def init : Aggregate := ⟨false, 0, none, none⟩

def add (a : Aggregate) (state : KernelState) : Aggregate :=
  let b := if state.status = .busy then
      { a with busy := true, earliestBusy := earlier a.earliestBusy state.busySince }
    else { a with latestIdle := later a.latestIdle state.idleSince }
  if state.status ≠ .exited then { b with active := b.active + 1 } else b

end Aggregate

def aggregate (sessions : List KernelState) : Aggregate := sessions.foldl .add .init

/-- `now.duration_since(since).as_secs()`. -/
def asSecs (now since : ℕ) : ℕ := (now - since) / 1000000000

/-- `Utc::now() - elapsed`, where the time that has elapsed can be converted. -/
def startedDatetime (utcNow : ℤ) (elapsed : ℕ) : ℤ :=
  if elapsed ≤ 9223372036854775807 * 1000000 then utcNow - elapsed else utcNow

end ServerStatus

open ServerStatus in
/-- What the server reports, with the sessions as they were when it looked at them and the
time afterwards. -/
def serverStatus (server : ServerInfo) (sessions : List KernelState) (now : ℕ) (utcNow : ℤ) :
    ServerStatus :=
  let a := aggregate sessions
  { busy := a.busy
    idleSeconds := match sessions.length with
      | 0 => Int32.ofNat (asSecs now server.startedTime)
      | _ => match a.latestIdle with
        | some latestIdle => Int32.ofNat (asSecs now latestIdle)
        | none => 0
    busySeconds := match a.earliestBusy with
      | some earliestBusy => Int32.ofNat (asSecs now earliestBusy)
      | none => 0
    sessions := Int32.ofNat sessions.length
    processId := server.processId.toInt32
    active := a.active
    started := startedDatetime utcNow (now - server.startedTime)
    uptimeSeconds := Int32.ofNat (asSecs now server.startedTime)
    version := "0.1.74"
    serverId := some server.serverId
    mcp := some server.mcp }

namespace ServerStatus

def busyTimes (sessions : List KernelState) : Set ℕ :=
  {time | ∃ state ∈ sessions, state.status = .busy ∧ state.busySince = some time}

/-- The times since which other sessions have been idle. -/
def idleTimes (sessions : List KernelState) : Set ℕ :=
  {time | ∃ state ∈ sessions, state.status ≠ .busy ∧ state.idleSince = some time}

/-! ## One session more -/

/-- The time that a session adds to those of the busy ones. -/
def busyTime (state : KernelState) : Option ℕ :=
  if state.status = .busy then state.busySince else none

/-- The time that a session adds to those of the other ones. -/
def idleTime (state : KernelState) : Option ℕ :=
  if state.status = .busy then none else state.idleSince

theorem earlier_eq_merge (a b : Option ℕ) : earlier a b = Option.merge min a b := by
  cases a with
  | none => simp [earlier]
  | some earliest =>
      cases b with
      | none => rfl
      | some busySince =>
          simp only [earlier, Option.merge_some_some]
          split
          · rw [min_eq_right (by omega)]
          · rw [min_eq_left (by omega)]

theorem later_eq_merge (a b : Option ℕ) : later a b = Option.merge max a b := by
  cases a with
  | none => simp [later]
  | some latest =>
      cases b with
      | none => rfl
      | some idleSince =>
          simp only [later, Option.merge_some_some]
          split
          · rw [max_eq_right (by omega)]
          · rw [max_eq_left (by omega)]

namespace Aggregate

theorem add_eq (a : Aggregate) (state : KernelState) :
    a.add state = ⟨a.busy || decide (state.status = .busy),
      a.active + if state.status = .exited then 0 else 1,
      a.earliestBusy.merge min (busyTime state), a.latestIdle.merge max (idleTime state)⟩ := by
  simp only [add, busyTime, idleTime]
  by_cases hbusy : state.status = .busy
  · simp [hbusy, earlier_eq_merge]
  · by_cases hexited : state.status = .exited
    · simp [hexited, later_eq_merge]
    · simp [hbusy, hexited, later_eq_merge]

theorem add_right_comm (a : Aggregate) (s t : KernelState) :
    (a.add s).add t = (a.add t).add s := by
  simp only [add_eq]
  ext1
  · exact Bool.or_right_comm _ _ _
  · ac_rfl
  · exact @RightCommutative.right_comm _ _ (Option.merge min) _ _ _ _
  · exact @RightCommutative.right_comm _ _ (Option.merge max) _ _ _ _

end Aggregate

/-! ## All sessions -/

theorem aggregate_perm {sessions others : List KernelState} (h : sessions.Perm others) :
    aggregate sessions = aggregate others :=
  h.foldl_eq' (fun s _ t _ a => a.add_right_comm s t) Aggregate.init

theorem aggregate_busy_iff (sessions : List KernelState) :
    (aggregate sessions).busy = true ↔ ∃ state ∈ sessions, state.status = .busy := by
  have hfold : ∀ a : Aggregate, (sessions.foldl Aggregate.add a).busy =
      (a.busy || sessions.any fun s => s.status = .busy) := by
    induction sessions with
    | nil => simp
    | cons state sessions ih =>
        intro a
        rw [List.foldl_cons, ih, Aggregate.add_eq, List.any_cons, Bool.or_assoc]
  rw [aggregate, hfold]
  simp [Aggregate.init]

theorem aggregate_earliestBusy (sessions : List KernelState) :
    (aggregate sessions).earliestBusy =
      (sessions.map busyTime).foldl (Option.merge min) none := by
  rw [List.foldl_map]
  exact (List.foldl_hom Aggregate.earliestBusy fun a state => by rw [Aggregate.add_eq]).symm

theorem aggregate_latestIdle (sessions : List KernelState) :
    (aggregate sessions).latestIdle =
      (sessions.map idleTime).foldl (Option.merge max) none := by
  rw [List.foldl_map]
  exact (List.foldl_hom Aggregate.latestIdle fun a state => by rw [Aggregate.add_eq]).symm

theorem some_mem_map_busyTime_iff (sessions : List KernelState) (time : ℕ) :
    some time ∈ sessions.map busyTime ↔ time ∈ busyTimes sessions := by
  simp [busyTime, busyTimes]

theorem some_mem_map_idleTime_iff (sessions : List KernelState) (time : ℕ) :
    some time ∈ sessions.map idleTime ↔ time ∈ idleTimes sessions := by
  simp [idleTime, idleTimes]

theorem aggregate_earliestBusy_eq_some_iff (sessions : List KernelState) (time : ℕ) :
    (aggregate sessions).earliestBusy = some time ↔ IsLeast (busyTimes sessions) time := by
  rw [aggregate_earliestBusy, foldl_merge_min_eq_some_iff]
  simp only [some_mem_map_busyTime_iff, Set.ofPred_mem_eq]

theorem aggregate_latestIdle_eq_some_iff (sessions : List KernelState) (time : ℕ) :
    (aggregate sessions).latestIdle = some time ↔ IsGreatest (idleTimes sessions) time := by
  rw [aggregate_latestIdle, foldl_merge_max_eq_some_iff]
  simp only [some_mem_map_idleTime_iff, Set.ofPred_mem_eq]

theorem exists_isLeast_busyTimes {sessions : List KernelState}
    (hsessions : ∀ state ∈ sessions, state.TimesMatch)
    (hbusy : ∃ state ∈ sessions, state.status = .busy) :
    ∃ time, (aggregate sessions).earliestBusy = some time ∧ IsLeast (busyTimes sessions) time := by
  obtain ⟨state, hmem, hstatus⟩ := hbusy
  obtain ⟨since, hsince⟩ := Option.isSome_iff_exists.mp
    ((hsessions state hmem).busySince.mpr hstatus)
  have htimes : some since ∈ sessions.map busyTime :=
    (some_mem_map_busyTime_iff sessions since).mpr ⟨state, hmem, hstatus, hsince⟩
  cases hearliest : (aggregate sessions).earliestBusy with
  | none =>
      rw [aggregate_earliestBusy, foldl_merge_min_eq_none_iff] at hearliest
      exact absurd htimes (hearliest since)
  | some time => exact ⟨time, rfl, (aggregate_earliestBusy_eq_some_iff sessions time).mp hearliest⟩

theorem aggregate_earliestBusy_eq_none {sessions : List KernelState}
    (hbusy : ∀ state ∈ sessions, state.status ≠ .busy) :
    (aggregate sessions).earliestBusy = none := by
  rw [aggregate_earliestBusy, foldl_merge_min_eq_none_iff]
  intro time htime
  obtain ⟨state, hmem, hstatus, -⟩ := (some_mem_map_busyTime_iff sessions time).mp htime
  exact hbusy state hmem hstatus

theorem exists_isGreatest_idleTimes {sessions : List KernelState}
    (hsessions : ∀ state ∈ sessions, state.TimesMatch)
    (hresting : ∃ state ∈ sessions, state.status.Resting) :
    ∃ time, (aggregate sessions).latestIdle = some time ∧
      IsGreatest (idleTimes sessions) time := by
  obtain ⟨state, hmem, hstatus⟩ := hresting
  obtain ⟨since, hsince⟩ := Option.isSome_iff_exists.mp
    ((hsessions state hmem).idleSince.mpr hstatus)
  have hother : state.status ≠ .busy := by
    rcases hstatus with h | h | h
    · simp [h]
    · simp [h]
    · simp [h]
  have htimes : some since ∈ sessions.map idleTime :=
    (some_mem_map_idleTime_iff sessions since).mpr ⟨state, hmem, hother, hsince⟩
  cases hlatest : (aggregate sessions).latestIdle with
  | none =>
      rw [aggregate_latestIdle, foldl_merge_max_eq_none_iff] at hlatest
      exact absurd htimes (hlatest since)
  | some time => exact ⟨time, rfl, (aggregate_latestIdle_eq_some_iff sessions time).mp hlatest⟩

theorem aggregate_latestIdle_eq_none {sessions : List KernelState}
    (hsessions : ∀ state ∈ sessions, state.TimesMatch)
    (hresting : ∀ state ∈ sessions, ¬ state.status.Resting) :
    (aggregate sessions).latestIdle = none := by
  rw [aggregate_latestIdle, foldl_merge_max_eq_none_iff]
  intro time htime
  obtain ⟨state, hmem, -, hsince⟩ := (some_mem_map_idleTime_iff sessions time).mp htime
  apply hresting state hmem
  rw [← (hsessions state hmem).idleSince, hsince, Option.isSome_some]

/-- What is reported of the sessions, by the times that they have noted. -/
structure Reports (status : ServerStatus) (server : ServerInfo) (sessions : List KernelState)
    (now : ℕ) : Prop where
  busy : status.busy = true ↔ ∃ state ∈ sessions, state.status = .busy
  busySeconds : (∃ state ∈ sessions, state.status = .busy) →
    ∃ earliest, IsLeast (busyTimes sessions) earliest ∧
      status.busySeconds = Int32.ofNat (asSecs now earliest)
  noneBusy : (∀ state ∈ sessions, state.status ≠ .busy) → status.busySeconds = 0
  idleSeconds : (∃ state ∈ sessions, state.status.Resting) →
    ∃ latest, IsGreatest (idleTimes sessions) latest ∧
      status.idleSeconds = Int32.ofNat (asSecs now latest)
  noneIdle : sessions ≠ [] → (∀ state ∈ sessions, ¬ state.status.Resting) →
    status.idleSeconds = 0
  noSessions : sessions = [] →
    status.idleSeconds = Int32.ofNat (asSecs now server.startedTime)

theorem reports_serverStatus {sessions : List KernelState}
    (hsessions : ∀ state ∈ sessions, state.TimesMatch) (server : ServerInfo) (now : ℕ)
    (utcNow : ℤ) : (serverStatus server sessions now utcNow).Reports server sessions now := by
  refine ⟨aggregate_busy_iff sessions, ?_, ?_, ?_, ?_, ?_⟩
  · intro hbusy
    obtain ⟨time, hearliest, hleast⟩ := exists_isLeast_busyTimes hsessions hbusy
    exact ⟨time, hleast, by simp only [serverStatus, hearliest]⟩
  · intro hbusy
    simp only [serverStatus, aggregate_earliestBusy_eq_none hbusy]
  · intro hresting
    obtain ⟨time, hlatest, hgreatest⟩ := exists_isGreatest_idleTimes hsessions hresting
    refine ⟨time, hgreatest, ?_⟩
    cases sessions with
    | nil => simp at hresting
    | cons state sessions => simp only [serverStatus, List.length_cons, hlatest]
  · intro hne hresting
    cases sessions with
    | nil => exact absurd rfl hne
    | cons state sessions =>
        simp only [serverStatus, List.length_cons, aggregate_latestIdle_eq_none hsessions hresting]
  · rintro rfl
    rfl

theorem serverStatus_perm (server : ServerInfo) {sessions others : List KernelState}
    (h : sessions.Perm others) (now : ℕ) (utcNow : ℤ) :
    serverStatus server sessions now utcNow = serverStatus server others now utcNow := by
  simp only [serverStatus, aggregate_perm h, h.length_eq]

/-- The times of every status that `set_status` leads to are those of the status, and of any
sessions with such a status the server reports that it is busy exactly if one of them is,
since the earliest of their times, and that it is idle since the latest of the others' or
since it started, in whatever order it finds them. -/
theorem serverStatus_consistent (server : ServerInfo) (sessions : List KernelState) (now : ℕ)
    (utcNow : ℤ) (hsessions : ∀ state ∈ sessions, state.Reached) :
    (∀ (sessionId workingDirectory : String) (host : Host)
      (calls : List KernelState.StatusCall),
      ((KernelState.new sessionId workingDirectory host).setStatuses calls).TimesMatch) ∧
    (serverStatus server sessions now utcNow).Reports server sessions now ∧
    ∀ others : List KernelState, sessions.Perm others →
      serverStatus server sessions now utcNow = serverStatus server others now utcNow := by
  refine ⟨?_, ?_, ?_⟩
  · intro sessionId workingDirectory host calls
    exact KernelState.Reached.timesMatch ⟨sessionId, workingDirectory, host, calls, rfl⟩
  · exact reports_serverStatus (fun state hmem => (hsessions state hmem).timesMatch) server now
      utcNow
  · intro others h
    exact serverStatus_perm server h now utcNow

/-- A status that is written some seconds after the start. -/
def writtenAfter (seconds : ℕ) (status : Status) : KernelState.StatusCall where
  status := status
  reason := none
  host := { sampleHost with instant := seconds * 1000000000 }

/-- A session that is busy, and one that was and has exited. -/
def twoSessions : List KernelState :=
  [(KernelState.new "a" "/" sampleHost).setStatuses [writtenAfter 2 .busy],
    (KernelState.new "b" "/" sampleHost).setStatuses
      [writtenAfter 3 .busy, writtenAfter 4 .exited, writtenAfter 5 .idle]]

def sampleServer : ServerInfo where
  startedTime := 0
  serverId := "s"
  processId := 1
  mcp := .null

theorem serverStatus_consistent_two :
    (∀ state ∈ twoSessions, state.Reached) ∧
    (serverStatus sampleServer twoSessions 9500000000 0).busy = true ∧
    (serverStatus sampleServer twoSessions 9500000000 0).busySeconds = 7 ∧
    (serverStatus sampleServer twoSessions 9500000000 0).idleSeconds = 5 ∧
    serverStatus sampleServer twoSessions 9500000000 0 =
      serverStatus sampleServer twoSessions.reverse 9500000000 0 := by
  have hreached : ∀ state ∈ twoSessions, state.Reached := by
    intro state hmem
    rcases List.mem_pair.mp hmem with rfl | rfl
    · exact ⟨"a", "/", sampleHost, _, rfl⟩
    · exact ⟨"b", "/", sampleHost, _, rfl⟩
  obtain ⟨-, hreports, hperm⟩ :=
    serverStatus_consistent sampleServer twoSessions 9500000000 0 hreached
  have hbusy : ∃ state ∈ twoSessions, state.status = .busy := ⟨_, List.mem_cons_self, rfl⟩
  exact ⟨hreached, hreports.busy.mpr hbusy, by decide, by decide,
    hperm _ twoSessions.reverse_perm.symm⟩

end ServerStatus

end Kallichore
