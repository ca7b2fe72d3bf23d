import Kallichore.Lib.Machine
import Mathlib.Logic.Function.Basic

/-!
# The configuration of a running server

`set_server_configuration` hands new idle hours to two places: it sends them to the idle
timer, over a channel with room for a few messages, and then writes them to the value that
`get_server_configuration` reads. No lock is held over both, so two calls may send in one
order and write in the other. The interval of the resource monitor has no such second
place: the monitor writes the shared value itself when it receives the message.

`agrees_of_inOrder` says when the idle hours that are reported are those the timer goes by.
-/

namespace Kallichore

inductive ServerConfigurationLogLevel
  | trace
  | debug
  | info
  | warn
  | error
  deriving DecidableEq, Repr

/-- The configuration as a request or a response gives it. -/
structure ServerConfiguration where
  idleShutdownHours : Option Int32
  resourceSampleIntervalMs : Option Int32
  resourceIncludeChildren : Option Bool
  logLevel : Option ServerConfigurationLogLevel
  deriving DecidableEq

inductive SetServerConfigurationResponse
  | configurationUpdated
  | error (code message : String) (details : Option String)
  deriving DecidableEq

/-! ## The idle timer -/

/-- How long the idle timer waits, in seconds. -/
def idleDuration : Option UInt16 → ℕ
  | some hours => if hours = 0 then 30 else hours.toNat * 3600
  | none => 168 * 3600

structure IdlePoll where
  currentIdleShutdownHours : Option UInt16
  duration : ℕ
  /-- The client that is tracked, or zero. -/
  clientPid : UInt32
  duration_eq : duration = idleDuration currentIdleShutdownHours
  deriving DecidableEq

namespace IdlePoll

def start (hours : Option UInt16) : IdlePoll where
  currentIdleShutdownHours := hours
  duration := idleDuration hours
  clientPid := 0
  duration_eq := rfl

def update (poll : IdlePoll) (hours : Option UInt16) : IdlePoll :=
  { poll with
    currentIdleShutdownHours := hours
    duration := idleDuration hours
    duration_eq := rfl }

def nudge (poll : IdlePoll) : Option UInt32 → IdlePoll
  | some pid => if pid ≠ poll.clientPid then { poll with clientPid := pid } else poll
  | none => poll

/-- The interval expires. Also gives whether the sessions are looked at. -/
def tick (poll : IdlePoll) (elapsed : ℕ) (isRunning : UInt32 → Bool) : IdlePoll × Bool :=
  if poll.currentIdleShutdownHours.isNone then (poll, false)
  else if elapsed < poll.duration then (poll, false)
  else if 1 < poll.clientPid then
    if isRunning poll.clientPid then (poll, false) else ({ poll with clientPid := 0 }, true)
  else (poll, true)

@[simp] theorem update_currentIdleShutdownHours (poll : IdlePoll) (hours : Option UInt16) :
    (poll.update hours).currentIdleShutdownHours = hours := rfl

@[simp] theorem nudge_currentIdleShutdownHours (poll : IdlePoll) (pid : Option UInt32) :
    (poll.nudge pid).currentIdleShutdownHours = poll.currentIdleShutdownHours := by
  cases pid with
  | none => rfl
  | some pid =>
      simp only [nudge]
      split <;> rfl

@[simp] theorem tick_currentIdleShutdownHours (poll : IdlePoll) (elapsed : ℕ)
    (isRunning : UInt32 → Bool) :
    (poll.tick elapsed isRunning).1.currentIdleShutdownHours =
      poll.currentIdleShutdownHours := by
  simp only [tick]
  split
  · rfl
  · split
    · rfl
    · split
      · split <;> rfl
      · rfl

/-- Two timers that go by the same hours and track the same client are the same. -/
theorem ext_of_hours {poll other : IdlePoll}
    (hhours : poll.currentIdleShutdownHours = other.currentIdleShutdownHours)
    (hpid : poll.clientPid = other.clientPid) : poll = other := by
  obtain ⟨hours, duration, pid, rfl⟩ := poll
  obtain ⟨hours', duration', pid', rfl⟩ := other
  cases hhours
  cases hpid
  rfl

end IdlePoll

/-! ## Reading and checking a configuration -/

/-- The values that `get_server_configuration` reads. -/
structure ServerSettings where
  idleShutdownHours : Option UInt16
  resourceSampleIntervalMs : UInt64
  resourceIncludeChildren : Bool
  logLevel : Option String
  deriving DecidableEq

/-- The idle hours of a request: negative ones mean that the server runs indefinitely, and
those that do not fit are refused. -/
def newIdleHours (idleHours : Int32) : Option (Option UInt16) :=
  if idleHours < 0 then some none
  else if idleHours.toInt < 65536 then some (some (UInt16.ofNat idleHours.toInt.toNat))
  else none

/-- The interval of a request: a minimum is enforced, and negative ones are refused. -/
def newIntervalMs (intervalMs : Int32) : Option UInt64 :=
  if intervalMs < 0 then none
  else if 0 < intervalMs ∧ intervalMs < 100 then some 100
  else some (UInt64.ofNat intervalMs.toInt.toNat)

def hoursTooLarge : SetServerConfigurationResponse :=
  .error "400" "idle_shutdown_hours is too large" none

def hoursNotSent (details : String) : SetServerConfigurationResponse :=
  .error "500" "Failed to update idle shutdown configuration" (some details)

def intervalNegative : SetServerConfigurationResponse :=
  .error "400" "resource_sample_interval_ms must be non-negative" none

def intervalNotSent (details : String) : SetServerConfigurationResponse :=
  .error "500" "Failed to update resource sample interval configuration" (some details)

namespace ServerSettings

def logLevelEnum : String → Option ServerConfigurationLogLevel
  | "trace" => some .trace
  | "debug" => some .debug
  | "info" => some .info
  | "warn" => some .warn
  | "error" => some .error
  | _ => none

def getServerConfiguration (s : ServerSettings) : ServerConfiguration where
  idleShutdownHours := s.idleShutdownHours.map fun hours => Int32.ofNat hours.toNat
  resourceSampleIntervalMs := some s.resourceSampleIntervalMs.toUInt32.toInt32
  resourceIncludeChildren := some s.resourceIncludeChildren
  logLevel := s.logLevel.bind logLevelEnum

def writeHours (s : ServerSettings) (hours : Option UInt16) : ServerSettings :=
  { s with idleShutdownHours := hours }

/-- The resource monitor receives an interval. -/
def updateInterval (s : ServerSettings) (intervalMs : UInt64) : ServerSettings :=
  { s with resourceSampleIntervalMs := intervalMs }

def writeIncludeChildren (s : ServerSettings) (includeChildren : Bool) : ServerSettings :=
  if s.resourceIncludeChildren ≠ includeChildren then
    { s with resourceIncludeChildren := includeChildren }
  else s

/-- The rest of a call from the flag for child processes on. -/
def setIncludeChildren (s : ServerSettings) (configuration : ServerConfiguration) :
    ServerSettings × SetServerConfigurationResponse :=
  match configuration.resourceIncludeChildren with
  | some includeChildren => (s.writeIncludeChildren includeChildren, .configurationUpdated)
  | none => (s, .configurationUpdated)

/-- The rest of a call from the resource monitor's interval on. -/
def setResources (s : ServerSettings) (configuration : ServerConfiguration) :
    ServerSettings × SetServerConfigurationResponse :=
  match configuration.resourceSampleIntervalMs with
  | some intervalMs =>
      match newIntervalMs intervalMs with
      | some intervalMs => (s.updateInterval intervalMs).setIncludeChildren configuration
      | none => (s, intervalNegative)
  | none => s.setIncludeChildren configuration

/-- A call alone, with the idle timer and the resource monitor receiving what it sends. -/
def setServerConfiguration (s : ServerSettings) (poll : IdlePoll)
    (configuration : ServerConfiguration) :
    (ServerSettings × IdlePoll) × SetServerConfigurationResponse :=
  match configuration.idleShutdownHours with
  | some idleHours =>
      match newIdleHours idleHours with
      | some hours =>
          let rest := (s.writeHours hours).setResources configuration
          ((rest.1, poll.update hours), rest.2)
      | none => ((s, poll), hoursTooLarge)
  | none =>
      let rest := s.setResources configuration
      ((rest.1, poll), rest.2)

@[simp] theorem writeIncludeChildren_idleShutdownHours (s : ServerSettings)
    (includeChildren : Bool) :
    (s.writeIncludeChildren includeChildren).idleShutdownHours = s.idleShutdownHours := by
  simp only [writeIncludeChildren]
  split <;> rfl

@[simp] theorem setIncludeChildren_idleShutdownHours (s : ServerSettings)
    (configuration : ServerConfiguration) :
    (s.setIncludeChildren configuration).1.idleShutdownHours = s.idleShutdownHours := by
  simp only [setIncludeChildren]
  split
  · exact s.writeIncludeChildren_idleShutdownHours _
  · rfl

@[simp] theorem setResources_idleShutdownHours (s : ServerSettings)
    (configuration : ServerConfiguration) :
    (s.setResources configuration).1.idleShutdownHours = s.idleShutdownHours := by
  simp only [setResources]
  split
  · split
    · exact setIncludeChildren_idleShutdownHours _ _
    · rfl
  · exact setIncludeChildren_idleShutdownHours _ _

@[simp] theorem setIncludeChildren_resourceSampleIntervalMs (s : ServerSettings)
    (configuration : ServerConfiguration) :
    (s.setIncludeChildren configuration).1.resourceSampleIntervalMs =
      s.resourceSampleIntervalMs := by
  simp only [setIncludeChildren, writeIncludeChildren]
  split
  · split <;> rfl
  · rfl

end ServerSettings

/-! ## Requests for the configuration in force -/

namespace ServerConfiguration

/-- The request asks for hours that do not fit. -/
def HoursRefused (configuration : ServerConfiguration) : Prop :=
  configuration.idleShutdownHours.map newIdleHours = some none

/-- The request asks for a negative interval. -/
def IntervalRefused (configuration : ServerConfiguration) : Prop :=
  configuration.resourceSampleIntervalMs.map newIntervalMs = some none

end ServerConfiguration

namespace ServerSettings

def KeepsIncludeChildren (s : ServerSettings) (configuration : ServerConfiguration) : Prop :=
  ∀ includeChildren, configuration.resourceIncludeChildren = some includeChildren →
    includeChildren = s.resourceIncludeChildren

def KeepsResources (s : ServerSettings) (configuration : ServerConfiguration) : Prop :=
  ¬ configuration.IntervalRefused →
    (∀ intervalMs, configuration.resourceSampleIntervalMs.bind newIntervalMs = some intervalMs →
      intervalMs = s.resourceSampleIntervalMs) ∧ s.KeepsIncludeChildren configuration

/-- Up to the first value that is refused, the request has none but those in force. -/
def KeepsConfiguration (s : ServerSettings) (poll : IdlePoll)
    (configuration : ServerConfiguration) : Prop :=
  ¬ configuration.HoursRefused →
    (∀ hours, configuration.idleShutdownHours.bind newIdleHours = some hours →
      hours = s.idleShutdownHours ∧ hours = poll.currentIdleShutdownHours) ∧
    s.KeepsResources configuration

theorem setIncludeChildren_eq_iff (s : ServerSettings) (configuration : ServerConfiguration) :
    (s.setIncludeChildren configuration).1 = s ↔ s.KeepsIncludeChildren configuration := by
  cases hchildren : configuration.resourceIncludeChildren with
  | none => simp [setIncludeChildren, KeepsIncludeChildren, hchildren]
  | some includeChildren =>
      simp only [setIncludeChildren, KeepsIncludeChildren, hchildren, writeIncludeChildren,
        Option.some.injEq, forall_eq']
      split
      next hne =>
        refine iff_of_false ?_ (fun h => hne h.symm)
        intro heq
        exact hne (congrArg resourceIncludeChildren heq).symm
      next heq => exact iff_of_true rfl (not_not.mp heq).symm

theorem setResources_eq_iff (s : ServerSettings) (configuration : ServerConfiguration) :
    (s.setResources configuration).1 = s ↔ s.KeepsResources configuration := by
  cases hrequest : configuration.resourceSampleIntervalMs with
  | none =>
      simp only [setResources, hrequest, setIncludeChildren_eq_iff]
      simp [KeepsResources, ServerConfiguration.IntervalRefused, hrequest]
  | some request =>
      cases hnew : newIntervalMs request with
      | none =>
          simp [setResources, KeepsResources, ServerConfiguration.IntervalRefused, hrequest, hnew]
      | some intervalMs =>
          simp only [setResources, KeepsResources, ServerConfiguration.IntervalRefused, hrequest,
            hnew, Option.map_some, Option.bind_some, Option.some.injEq, reduceCtorEq,
            not_false_eq_true, forall_const, forall_eq']
          constructor
          · intro heq
            have hinterval : intervalMs = s.resourceSampleIntervalMs := by
              rw [← heq, setIncludeChildren_resourceSampleIntervalMs]
              rfl
            refine ⟨hinterval, (setIncludeChildren_eq_iff _ _).mp ?_⟩
            rw [hinterval] at heq
            exact heq
          · rintro ⟨rfl, hchildren⟩
            exact (setIncludeChildren_eq_iff _ _).mpr hchildren

theorem setServerConfiguration_eq_iff (s : ServerSettings) (poll : IdlePoll)
    (configuration : ServerConfiguration) :
    (s.setServerConfiguration poll configuration).1 = (s, poll) ↔
      s.KeepsConfiguration poll configuration := by
  cases hrequest : configuration.idleShutdownHours with
  | none =>
      simp only [setServerConfiguration, hrequest, Prod.mk.injEq, and_true, setResources_eq_iff]
      simp [KeepsConfiguration, ServerConfiguration.HoursRefused, hrequest]
  | some request =>
      cases hnew : newIdleHours request with
      | none =>
          simp [setServerConfiguration, KeepsConfiguration, ServerConfiguration.HoursRefused,
            hrequest, hnew]
      | some hours =>
          simp only [setServerConfiguration, KeepsConfiguration, ServerConfiguration.HoursRefused,
            hrequest, hnew, Option.map_some, Option.bind_some, Option.some.injEq, reduceCtorEq,
            not_false_eq_true, forall_const, forall_eq', Prod.mk.injEq]
          constructor
          · rintro ⟨heq, hpoll⟩
            have hhours : hours = s.idleShutdownHours := by
              rw [← heq, setResources_idleShutdownHours]
              rfl
            have hcurrent := congrArg IdlePoll.currentIdleShutdownHours hpoll
            refine ⟨⟨hhours, hcurrent⟩, (setResources_eq_iff _ _).mp ?_⟩
            rw [hhours] at heq
            exact heq
          · rintro ⟨⟨rfl, hcurrent⟩, hresources⟩
            exact ⟨(setResources_eq_iff _ _).mpr hresources, IdlePoll.ext_of_hours hcurrent rfl⟩

end ServerSettings

/-! ## Calls of `set_server_configuration` -/

inductive SetConfigurationPc
  | absent
  | sendingHours (hours : Option UInt16) (configuration : ServerConfiguration)
  /-- The idle timer was told; about to write the shared value. -/
  | writingHours (hours : Option UInt16) (configuration : ServerConfiguration)
  | sendingInterval (intervalMs : UInt64) (configuration : ServerConfiguration)
  | writingIncludeChildren (includeChildren : Bool)
  | returned (response : SetServerConfigurationResponse)
  deriving DecidableEq

namespace SetConfigurationPc

def afterInterval (configuration : ServerConfiguration) : SetConfigurationPc :=
  match configuration.resourceIncludeChildren with
  | some includeChildren => .writingIncludeChildren includeChildren
  | none => .returned .configurationUpdated

def afterHours (configuration : ServerConfiguration) : SetConfigurationPc :=
  match configuration.resourceSampleIntervalMs with
  | some intervalMs =>
      match newIntervalMs intervalMs with
      | some intervalMs => .sendingInterval intervalMs configuration
      | none => .returned intervalNegative
  | none => afterInterval configuration

def begin (configuration : ServerConfiguration) : SetConfigurationPc :=
  match configuration.idleShutdownHours with
  | some idleHours =>
      match newIdleHours idleHours with
      | some hours => .sendingHours hours configuration
      | none => .returned hoursTooLarge
  | none => afterHours configuration

/-- The call has sent hours that it has not written yet. -/
def Writing : SetConfigurationPc → Prop
  | .writingHours _ _ => True
  | _ => False

def Done : SetConfigurationPc → Prop
  | .absent | .returned _ => True
  | _ => False

theorem Done.not_writing {pc : SetConfigurationPc} (h : pc.Done) : ¬ pc.Writing := by
  cases pc with
  | writingHours hours configuration => exact absurd h id
  | absent => exact id
  | sendingHours hours configuration => exact id
  | sendingInterval intervalMs configuration => exact id
  | writingIncludeChildren includeChildren => exact id
  | returned response => exact id

theorem not_writing_afterHours (configuration : ServerConfiguration) :
    ¬ (afterHours configuration).Writing := by
  simp only [afterHours, afterInterval]
  split
  · split <;> exact id
  · split <;> exact id

end SetConfigurationPc

structure ConfiguredServer where
  settings : ServerSettings
  /-- The idle timer, once its task has read the hours it starts with. -/
  idlePoll : Option IdlePoll
  idleConfigUpdates : List (Option UInt16)
  resourceIntervalUpdates : List UInt64
  call : ℕ → SetConfigurationPc

namespace ConfiguredServer

inductive Act
  | setServerConfiguration (c : ℕ) (configuration : ServerConfiguration)
  | sendHours (c : ℕ)
  | sendHoursFails (c : ℕ) (details : String)
  | writeHours (c : ℕ)
  | sendInterval (c : ℕ)
  | sendIntervalFails (c : ℕ) (details : String)
  | writeIncludeChildren (c : ℕ)
  /-- The idle timer's task begins. -/
  | idlePollTask
  | receiveHours
  | receiveNudge (pid : Option UInt32)
  | tick (elapsed : ℕ) (isRunning : UInt32 → Bool)
  /-- The resource monitor takes the next interval. -/
  | receiveInterval

def channelCapacity : ℕ := 16

def setCall (s : ConfiguredServer) (c : ℕ) (pc : SetConfigurationPc) : ConfiguredServer :=
  { s with call := Function.update s.call c pc }

def step (s : ConfiguredServer) : Act → Option ConfiguredServer
  | .setServerConfiguration c configuration =>
      match s.call c with
      | .absent => some (s.setCall c (.begin configuration))
      | _ => none
  | .sendHours c =>
      match s.call c with
      | .sendingHours hours configuration =>
          if s.idleConfigUpdates.length < channelCapacity then
            some { s.setCall c (.writingHours hours configuration) with
              idleConfigUpdates := s.idleConfigUpdates ++ [hours] }
          else none
      | _ => none
  | .sendHoursFails c details =>
      match s.call c with
      | .sendingHours _ _ => some (s.setCall c (.returned (hoursNotSent details)))
      | _ => none
  | .writeHours c =>
      match s.call c with
      | .writingHours hours configuration => some { s.setCall c (.afterHours configuration) with
          settings := s.settings.writeHours hours }
      | _ => none
  | .sendInterval c =>
      match s.call c with
      | .sendingInterval intervalMs configuration =>
          if s.resourceIntervalUpdates.length < channelCapacity then
            some { s.setCall c (.afterInterval configuration) with
              resourceIntervalUpdates := s.resourceIntervalUpdates ++ [intervalMs] }
          else none
      | _ => none
  | .sendIntervalFails c details =>
      match s.call c with
      | .sendingInterval _ _ => some (s.setCall c (.returned (intervalNotSent details)))
      | _ => none
  | .writeIncludeChildren c =>
      match s.call c with
      | .writingIncludeChildren includeChildren =>
          some { s.setCall c (.returned .configurationUpdated) with
            settings := s.settings.writeIncludeChildren includeChildren }
      | _ => none
  | .idlePollTask =>
      match s.idlePoll with
      | none => some { s with idlePoll := some (.start s.settings.idleShutdownHours) }
      | some _ => none
  | .receiveHours =>
      match s.idlePoll, s.idleConfigUpdates with
      | some poll, hours :: rest =>
          some { s with idlePoll := some (poll.update hours), idleConfigUpdates := rest }
      | _, _ => none
  | .receiveNudge pid =>
      s.idlePoll.map fun poll => { s with idlePoll := some (poll.nudge pid) }
  | .tick elapsed isRunning =>
      s.idlePoll.map fun poll => { s with idlePoll := some (poll.tick elapsed isRunning).1 }
  | .receiveInterval =>
      match s.resourceIntervalUpdates with
      | intervalMs :: rest => some { s with
          settings := s.settings.updateInterval intervalMs
          resourceIntervalUpdates := rest }
      | [] => none

def machine : Machine ConfiguredServer Act := ⟨step⟩

/-- The server as it starts, with the settings it was given. -/
def init (settings : ServerSettings) : ConfiguredServer where
  settings := settings
  idlePoll := none
  idleConfigUpdates := []
  resourceIntervalUpdates := []
  call := fun _ => .absent

inductive Change (s : ConfiguredServer) : Act → ConfiguredServer → Prop
  | begin {c : ℕ} {configuration : ServerConfiguration} (hpc : s.call c = .absent) :
      Change s (.setServerConfiguration c configuration) (s.setCall c (.begin configuration))
  | sendHours {c : ℕ} {hours : Option UInt16} {configuration : ServerConfiguration}
      (hpc : s.call c = .sendingHours hours configuration) :
      Change s (.sendHours c) { s.setCall c (.writingHours hours configuration) with
        idleConfigUpdates := s.idleConfigUpdates ++ [hours] }
  | sendHoursFails {c : ℕ} {hours : Option UInt16} {configuration : ServerConfiguration}
      {details : String} (hpc : s.call c = .sendingHours hours configuration) :
      Change s (.sendHoursFails c details) (s.setCall c (.returned (hoursNotSent details)))
  | writeHours {c : ℕ} {hours : Option UInt16} {configuration : ServerConfiguration}
      (hpc : s.call c = .writingHours hours configuration) :
      Change s (.writeHours c) { s.setCall c (.afterHours configuration) with
        settings := s.settings.writeHours hours }
  | sendInterval {c : ℕ} {intervalMs : UInt64} {configuration : ServerConfiguration}
      (hpc : s.call c = .sendingInterval intervalMs configuration) :
      Change s (.sendInterval c) { s.setCall c (.afterInterval configuration) with
        resourceIntervalUpdates := s.resourceIntervalUpdates ++ [intervalMs] }
  | sendIntervalFails {c : ℕ} {intervalMs : UInt64} {configuration : ServerConfiguration}
      {details : String} (hpc : s.call c = .sendingInterval intervalMs configuration) :
      Change s (.sendIntervalFails c details) (s.setCall c (.returned (intervalNotSent details)))
  | writeIncludeChildren {c : ℕ} {includeChildren : Bool}
      (hpc : s.call c = .writingIncludeChildren includeChildren) :
      Change s (.writeIncludeChildren c) { s.setCall c (.returned .configurationUpdated) with
        settings := s.settings.writeIncludeChildren includeChildren }
  | idlePollTask (hpoll : s.idlePoll = none) :
      Change s .idlePollTask { s with idlePoll := some (.start s.settings.idleShutdownHours) }
  | receiveHours {poll : IdlePoll} {hours : Option UInt16} {rest : List (Option UInt16)}
      (hpoll : s.idlePoll = some poll) (hupdates : s.idleConfigUpdates = hours :: rest) :
      Change s .receiveHours
        { s with idlePoll := some (poll.update hours), idleConfigUpdates := rest }
  | receiveNudge {poll : IdlePoll} {pid : Option UInt32} (hpoll : s.idlePoll = some poll) :
      Change s (.receiveNudge pid) { s with idlePoll := some (poll.nudge pid) }
  | tick {poll : IdlePoll} {elapsed : ℕ} {isRunning : UInt32 → Bool}
      (hpoll : s.idlePoll = some poll) :
      Change s (.tick elapsed isRunning)
        { s with idlePoll := some (poll.tick elapsed isRunning).1 }
  | receiveInterval {intervalMs : UInt64} {rest : List UInt64}
      (hupdates : s.resourceIntervalUpdates = intervalMs :: rest) :
      Change s .receiveInterval { s with
        settings := s.settings.updateInterval intervalMs
        resourceIntervalUpdates := rest }

theorem change_of_step {s t : ConfiguredServer} {a : Act} (h : machine.step s a = some t) :
    Change s a t := by
  change step s a = some t at h
  cases a with
  | setServerConfiguration c configuration =>
      simp only [step] at h
      split at h
      · cases h
        exact .begin ‹_›
      · cases h
  | sendHours c =>
      simp only [step] at h
      split at h
      · split at h
        · cases h
          exact .sendHours ‹_›
        · cases h
      · cases h
  | sendHoursFails c details =>
      simp only [step] at h
      split at h
      · cases h
        exact .sendHoursFails ‹_›
      · cases h
  | writeHours c =>
      simp only [step] at h
      split at h
      · cases h
        exact .writeHours ‹_›
      · cases h
  | sendInterval c =>
      simp only [step] at h
      split at h
      · split at h
        · cases h
          exact .sendInterval ‹_›
        · cases h
      · cases h
  | sendIntervalFails c details =>
      simp only [step] at h
      split at h
      · cases h
        exact .sendIntervalFails ‹_›
      · cases h
  | writeIncludeChildren c =>
      simp only [step] at h
      split at h
      · cases h
        exact .writeIncludeChildren ‹_›
      · cases h
  | idlePollTask =>
      simp only [step] at h
      split at h
      · cases h
        exact .idlePollTask ‹_›
      · cases h
  | receiveHours =>
      simp only [step] at h
      split at h
      · cases h
        exact .receiveHours ‹_› ‹_›
      · cases h
  | receiveNudge pid =>
      obtain ⟨poll, hpoll, rfl⟩ := Option.map_eq_some_iff.mp h
      exact .receiveNudge hpoll
  | tick elapsed isRunning =>
      obtain ⟨poll, hpoll, rfl⟩ := Option.map_eq_some_iff.mp h
      exact .tick hpoll
  | receiveInterval =>
      simp only [step] at h
      split at h
      · cases h
        exact .receiveInterval ‹_›
      · cases h

/-! ## A call alone -/

theorem reaches_includeChildren (s : ConfiguredServer) (c : ℕ)
    (configuration : ServerConfiguration) :
    let rest := s.settings.setIncludeChildren configuration
    machine.Reaches (s.setCall c (.afterInterval configuration))
      { s.setCall c (.returned rest.2) with settings := rest.1 } := by
  cases hchildren : configuration.resourceIncludeChildren with
  | none =>
      simp only [SetConfigurationPc.afterInterval, ServerSettings.setIncludeChildren, hchildren]
      exact machine.reaches_refl _
  | some includeChildren =>
      simp only [SetConfigurationPc.afterInterval, ServerSettings.setIncludeChildren, hchildren]
      refine Machine.Reaches.head machine (.writeIncludeChildren c) ?_ (machine.reaches_refl _)
      simp [machine, step, setCall]

theorem reaches_resources (s : ConfiguredServer) (c : ℕ) (configuration : ServerConfiguration)
    (hinterval : s.resourceIntervalUpdates = []) :
    let rest := s.settings.setResources configuration
    machine.Reaches (s.setCall c (.afterHours configuration))
      { s.setCall c (.returned rest.2) with settings := rest.1 } := by
  cases hrequest : configuration.resourceSampleIntervalMs with
  | none =>
      simp only [SetConfigurationPc.afterHours, ServerSettings.setResources, hrequest]
      exact s.reaches_includeChildren c configuration
  | some intervalMs =>
      cases hnew : newIntervalMs intervalMs with
      | none =>
          simp only [SetConfigurationPc.afterHours, ServerSettings.setResources, hrequest, hnew]
          exact machine.reaches_refl _
      | some intervalMs =>
          simp only [SetConfigurationPc.afterHours, ServerSettings.setResources, hrequest, hnew]
          let s' : ConfiguredServer := { s with settings := s.settings.updateInterval intervalMs }
          have hsend : machine.step (s.setCall c (.sendingInterval intervalMs configuration))
              (.sendInterval c) = some { s.setCall c (.afterInterval configuration) with
                resourceIntervalUpdates := [intervalMs] } := by
            simp [machine, step, setCall, hinterval, channelCapacity]
          have hreceive : machine.step { s.setCall c (.afterInterval configuration) with
              resourceIntervalUpdates := [intervalMs] } .receiveInterval =
                some (s'.setCall c (.afterInterval configuration)) := by
            simp [machine, step, setCall, s', hinterval]
          exact Machine.Reaches.head machine (.sendInterval c) hsend
            (Machine.Reaches.head machine .receiveInterval hreceive
              (s'.reaches_includeChildren c configuration))

/-- The steps of a call that no other overlaps, with those of the tasks it sends to. -/
theorem reaches_setServerConfiguration (s : ConfiguredServer) (c : ℕ)
    (configuration : ServerConfiguration) {poll : IdlePoll} (hc : s.call c = .absent)
    (hpoll : s.idlePoll = some poll) (hhours : s.idleConfigUpdates = [])
    (hinterval : s.resourceIntervalUpdates = []) :
    let after := s.settings.setServerConfiguration poll configuration
    machine.Reaches s { s.setCall c (.returned after.2) with
      settings := after.1.1, idlePoll := some after.1.2 } := by
  intro after
  have hcall : machine.step s (.setServerConfiguration c configuration) =
      some (s.setCall c (.begin configuration)) := by
    simp only [machine, step, hc]
  refine Machine.Reaches.head machine _ hcall ?_
  simp only [after]
  cases hrequest : configuration.idleShutdownHours with
  | none =>
      simp only [SetConfigurationPc.begin, ServerSettings.setServerConfiguration, hrequest,
        ← hpoll]
      exact s.reaches_resources c configuration hinterval
  | some idleHours =>
      cases hnew : newIdleHours idleHours with
      | none =>
          simp only [SetConfigurationPc.begin, ServerSettings.setServerConfiguration, hrequest,
            hnew, ← hpoll]
          exact machine.reaches_refl _
      | some hours =>
          simp only [SetConfigurationPc.begin, ServerSettings.setServerConfiguration, hrequest,
            hnew]
          let s' : ConfiguredServer := { s with
            settings := s.settings.writeHours hours, idlePoll := some (poll.update hours) }
          have hsend : machine.step (s.setCall c (.sendingHours hours configuration))
              (.sendHours c) = some { s.setCall c (.writingHours hours configuration) with
                idleConfigUpdates := [hours] } := by
            simp [machine, step, setCall, hhours, channelCapacity]
          have hwrite : machine.step { s.setCall c (.writingHours hours configuration) with
              idleConfigUpdates := [hours] } (.writeHours c) =
                some { s.setCall c (.afterHours configuration) with
                  settings := s.settings.writeHours hours, idleConfigUpdates := [hours] } := by
            simp [machine, step, setCall]
          have hreceive : machine.step { s.setCall c (.afterHours configuration) with
              settings := s.settings.writeHours hours, idleConfigUpdates := [hours] }
                .receiveHours = some (s'.setCall c (.afterHours configuration)) := by
            simp [machine, step, setCall, s', hpoll, hhours]
          exact Machine.Reaches.head machine (.sendHours c) hsend
            (Machine.Reaches.head machine (.writeHours c) hwrite
              (Machine.Reaches.head machine .receiveHours hreceive
                (s'.reaches_resources c configuration hinterval)))

/-! ## Reported and enforced -/

/-- The hours that the idle timer goes by once it has received what was sent. There are none
before its task begins, unless hours were sent. -/
def upcoming (s : ConfiguredServer) : Option (Option UInt16) :=
  s.idleConfigUpdates.getLast?.or (s.idlePoll.map IdlePoll.currentIdleShutdownHours)

/-- No call is under way, and the idle timer has received every update. -/
structure Quiet (s : ConfiguredServer) : Prop where
  calls : ∀ c, (s.call c).Done
  idleConfigUpdates : s.idleConfigUpdates = []

/-- The hours that `get_server_configuration` reports are those that the idle timer goes
by. -/
def Agrees (s : ConfiguredServer) : Prop :=
  ∀ poll, s.idlePoll = some poll → s.settings.getServerConfiguration.idleShutdownHours =
    poll.currentIdleShutdownHours.map fun hours => Int32.ofNat hours.toNat

/-- Unless a call has yet to write the hours it sent, the shared value is what the idle
timer will go by. -/
def Settles (s : ConfiguredServer) : Prop :=
  (∀ c, ¬ (s.call c).Writing) →
    ∀ hours, s.upcoming = some hours → s.settings.idleShutdownHours = hours

/-- The last of the calls to write the hours it sent writes those that were sent last. -/
def InOrder (s : ConfiguredServer) : Act → Prop
  | .writeHours c => ∀ hours configuration, s.call c = .writingHours hours configuration →
      (∀ d, d ≠ c → ¬ (s.call d).Writing) →
        ∀ last, s.upcoming = some last → hours = last
  | _ => True

theorem Settles.agrees {s : ConfiguredServer} (hs : s.Settles) (hquiet : s.Quiet) :
    s.Agrees := by
  intro poll hpoll
  have hupcoming : s.upcoming = some poll.currentIdleShutdownHours := by
    simp [upcoming, hquiet.idleConfigUpdates, hpoll]
  have hhours := hs (fun c => (hquiet.calls c).not_writing) _ hupcoming
  simp only [ServerSettings.getServerConfiguration, hhours]

theorem Settles.frame {s t : ConfiguredServer} (hs : s.Settles)
    (hwriting : ∀ c, (s.call c).Writing → (t.call c).Writing)
    (hhours : t.settings.idleShutdownHours = s.settings.idleShutdownHours)
    (hupcoming : t.upcoming = s.upcoming) : t.Settles := by
  intro hnone hours hlast
  rw [hhours]
  rw [hupcoming] at hlast
  exact hs (fun c hc => hnone c (hwriting c hc)) hours hlast

theorem Settles.frame_call {s t : ConfiguredServer} {c : ℕ} {pc pc' : SetConfigurationPc}
    (hs : s.Settles) (hpc : s.call c = pc) (hnot : ¬ pc.Writing)
    (hcall : t.call = Function.update s.call c pc')
    (hhours : t.settings.idleShutdownHours = s.settings.idleShutdownHours)
    (hupcoming : t.upcoming = s.upcoming) : t.Settles := by
  refine hs.frame (fun d hd => ?_) hhours hupcoming
  have hne : d ≠ c := by
    rintro rfl
    rw [hpc] at hd
    exact hnot hd
  rwa [hcall, Function.update_of_ne hne]

theorem upcoming_receiveHours {s : ConfiguredServer} {poll : IdlePoll} {hours : Option UInt16}
    {rest : List (Option UInt16)} (hupdates : s.idleConfigUpdates = hours :: rest) :
    ({ s with idlePoll := some (poll.update hours), idleConfigUpdates := rest } :
      ConfiguredServer).upcoming = s.upcoming := by
  simp only [upcoming, hupdates, List.getLast?_cons, Option.map_some,
    IdlePoll.update_currentIdleShutdownHours, Option.some_or]
  cases rest.getLast? with
  | none => rfl
  | some last => rfl

theorem writing_writeHours_iff {s : ConfiguredServer} {c : ℕ}
    {configuration : ServerConfiguration} :
    (∀ d, ¬ ((s.setCall c (.afterHours configuration)).call d).Writing) ↔
      ∀ d, d ≠ c → ¬ (s.call d).Writing := by
  constructor
  · intro h d hd
    simpa only [setCall, Function.update_of_ne hd] using h d
  · intro h d
    by_cases hd : d = c
    · simp only [hd, setCall, Function.update_self]
      exact SetConfigurationPc.not_writing_afterHours configuration
    · simpa only [setCall, Function.update_of_ne hd] using h d hd

theorem step_settles {s t : ConfiguredServer} {a : Act} (hs : s.Settles) (hC : s.InOrder a)
    (h : machine.step s a = some t) : t.Settles := by
  cases change_of_step h with
  | begin hpc => exact hs.frame_call hpc id rfl rfl rfl
  | @sendHours c hours configuration hpc =>
      intro hnone
      refine absurd ?_ (hnone c)
      simp only [setCall, Function.update_self]
      trivial
  | sendHoursFails hpc => exact hs.frame_call hpc id rfl rfl rfl
  | writeHours hpc =>
      intro hnone last hlast
      exact hC _ _ hpc (writing_writeHours_iff.mp hnone) last hlast
  | sendInterval hpc => exact hs.frame_call hpc id rfl rfl rfl
  | sendIntervalFails hpc => exact hs.frame_call hpc id rfl rfl rfl
  | writeIncludeChildren hpc =>
      exact hs.frame_call hpc id rfl (s.settings.writeIncludeChildren_idleShutdownHours _) rfl
  | idlePollTask hpoll =>
      -- What was sent before the task begins is still in the channel.
      intro hnone last hlast
      cases hupdates : s.idleConfigUpdates.getLast? with
      | none =>
          simp only [upcoming, hupdates, Option.none_or, Option.map_some,
            Option.some.injEq] at hlast
          exact hlast
      | some hours =>
          refine hs hnone last ?_
          simpa only [upcoming, hupdates, Option.some_or] using hlast
  | receiveHours hpoll hupdates => exact hs.frame (fun _ => id) rfl (upcoming_receiveHours hupdates)
  | receiveNudge hpoll => exact hs.frame (fun _ => id) rfl (by simp [upcoming, hpoll])
  | tick hpoll => exact hs.frame (fun _ => id) rfl (by simp [upcoming, hpoll])
  | receiveInterval hupdates => exact hs.frame (fun _ => id) rfl rfl

theorem inOrder_of_settles {s t : ConfiguredServer} {a : Act} (h : machine.step s a = some t)
    (ht : t.Settles) : s.InOrder a := by
  cases change_of_step h with
  | writeHours hpc =>
      intro hours configuration hpc' hothers last hlast
      cases hpc.symm.trans hpc'
      exact ht (writing_writeHours_iff.mpr hothers) last hlast
  | begin => trivial
  | sendHours => trivial
  | sendHoursFails => trivial
  | sendInterval => trivial
  | sendIntervalFails => trivial
  | writeIncludeChildren => trivial
  | idlePollTask => trivial
  | receiveHours => trivial
  | receiveNudge => trivial
  | tick => trivial
  | receiveInterval => trivial

/-- The shared value follows the idle timer all along a run exactly if the last call to
write is the last that sent. -/
theorem settles_iff_inOrder (settings : ServerSettings) {acts : List Act} {t : ConfiguredServer}
    (hrun : machine.run (init settings) acts = some t) :
    (∀ bs cs u, acts = bs ++ cs → machine.run (init settings) bs = some u → u.Settles) ↔
      machine.Meets InOrder (init settings) acts := by
  have hinit : (init settings).Settles := by
    intro _ hours hupcoming
    cases hupcoming
  exact machine.forall_prefix_iff_meets (fun _ _ _ hs hC h => step_settles hs hC h)
    (fun _ _ _ _ h ht => inOrder_of_settles h ht) hinit hrun

/-- Wherever such a run has come to rest, the idle hours that are reported are those the
timer goes by. -/
theorem agrees_of_inOrder (settings : ServerSettings) {acts : List Act} {t : ConfiguredServer}
    (hrun : machine.run (init settings) acts = some t)
    (hmeets : machine.Meets InOrder (init settings) acts) :
    ∀ bs cs u, acts = bs ++ cs → machine.run (init settings) bs = some u → u.Quiet →
      u.Agrees := by
  intro bs cs u heq hu hquiet
  exact ((settles_iff_inOrder settings hrun).mpr hmeets bs cs u heq hu).agrees hquiet

def sampleSettings : ServerSettings where
  idleShutdownHours := none
  resourceSampleIntervalMs := 1000
  resourceIncludeChildren := true
  logLevel := some "info"

def setIdleHours (hours : Int32) : ServerConfiguration := ⟨some hours, none, none, none⟩

/-- Two calls at once that write in the order in which they send. -/
def inTurn : List Act :=
  [.setServerConfiguration 0 (setIdleHours 1), .setServerConfiguration 1 (setIdleHours 2),
    .sendHours 0, .sendHours 1, .writeHours 0, .idlePollTask, .writeHours 1, .receiveHours,
    .receiveHours]

theorem meets_inTurn : machine.Meets InOrder (init sampleSettings) inTurn := by
  refine ⟨trivial, fun s₁ h₁ => ⟨trivial, fun s₂ h₂ => ⟨trivial, fun s₃ h₃ => ⟨trivial,
    fun s₄ h₄ => ⟨?_, fun s₅ h₅ => ⟨trivial, fun s₆ h₆ => ⟨?_, fun s₇ h₇ => ⟨trivial,
      fun s₈ h₈ => ⟨trivial, fun _ _ => trivial⟩⟩⟩⟩⟩⟩⟩⟩⟩
  · cases h₁
    cases h₂
    cases h₃
    cases h₄
    intro hours configuration _ hothers
    exact absurd trivial (hothers 1 (by decide))
  · cases h₁
    cases h₂
    cases h₃
    cases h₄
    cases h₅
    cases h₆
    intro hours configuration hpc _ last hlast
    cases hpc
    exact Option.some.inj hlast

theorem quiet_of_two {s : ConfiguredServer} (h0 : (s.call 0).Done) (h1 : (s.call 1).Done)
    (hrest : ∀ c, s.call (c + 2) = .absent) (hupdates : s.idleConfigUpdates = []) : s.Quiet := by
  refine ⟨fun c => ?_, hupdates⟩
  obtain _ | _ | c := c
  · exact h0
  · exact h1
  · rw [hrest c]
    trivial

theorem agrees_of_inOrder_inTurn :
    ∃ t, machine.run (init sampleSettings) inTurn = some t ∧ t.Quiet ∧
      t.upcoming = some (some 2) ∧ t.Agrees := by
  have hquiet : ∀ t, machine.run (init sampleSettings) inTurn = some t → t.Quiet := by
    intro t ht
    cases ht
    exact quiet_of_two trivial trivial (fun _ => rfl) rfl
  refine ⟨_, rfl, hquiet _ rfl, rfl, ?_⟩
  exact agrees_of_inOrder sampleSettings rfl meets_inTurn inTurn [] _ (by simp) rfl
    (hquiet _ rfl)

/-- Two calls at once that write in the other order. -/
def crossed : List Act :=
  [.idlePollTask, .setServerConfiguration 0 (setIdleHours 1),
    .setServerConfiguration 1 (setIdleHours 2), .sendHours 0, .sendHours 1, .writeHours 1,
    .writeHours 0, .receiveHours, .receiveHours]

theorem not_agrees_crossed :
    ∃ t, machine.run (init sampleSettings) crossed = some t ∧ t.Quiet ∧ ¬ t.Agrees := by
  refine ⟨_, rfl, quiet_of_two trivial trivial (fun _ => rfl) rfl, fun h => ?_⟩
  have hhours := h _ rfl
  revert hhours
  decide

end ConfiguredServer

end Kallichore
