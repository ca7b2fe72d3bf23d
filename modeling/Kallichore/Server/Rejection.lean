import Kallichore.Server.Configuration

/-!
# Configurations that are refused

The values of a configuration are checked and applied one after another: the idle hours have
already been sent to the idle timer and written when a negative interval is refused. And a log
level is accepted but not read. A call does all or nothing if and only if neither is seen: a
negative interval comes with no idle hours but those in force, and a log level that is asked
for is the one that is reported.
-/

namespace Kallichore

namespace ServerSettings

def refusesValue (response : SetServerConfigurationResponse) : Prop :=
  response = hoursTooLarge ∨ response = intervalNegative

/-- Every value of the configuration is in force. -/
structure InForce (configuration : ServerConfiguration) (s : ServerSettings) (poll : IdlePoll) :
    Prop where
  hours : ∀ idleHours, configuration.idleShutdownHours = some idleHours →
    newIdleHours idleHours = some s.idleShutdownHours ∧
      s.idleShutdownHours = poll.currentIdleShutdownHours
  interval : ∀ intervalMs, configuration.resourceSampleIntervalMs = some intervalMs →
    newIntervalMs intervalMs = some s.resourceSampleIntervalMs
  includeChildren : ∀ includeChildren,
    configuration.resourceIncludeChildren = some includeChildren →
      includeChildren = s.resourceIncludeChildren
  logLevel : ∀ level, configuration.logLevel = some level →
    s.getServerConfiguration.logLevel = some level

/-- A call that refuses a value changes nothing, and one that succeeds puts all values in
force. -/
structure AllOrNothing (s : ServerSettings) (poll : IdlePoll)
    (configuration : ServerConfiguration) : Prop where
  nothing : refusesValue (s.setServerConfiguration poll configuration).2 →
    (s.setServerConfiguration poll configuration).1 = (s, poll)
  all : (s.setServerConfiguration poll configuration).2 = .configurationUpdated →
    InForce configuration (s.setServerConfiguration poll configuration).1.1
      (s.setServerConfiguration poll configuration).1.2

/-! ## What a call responds -/

theorem setIncludeChildren_snd (s : ServerSettings) (configuration : ServerConfiguration) :
    (s.setIncludeChildren configuration).2 = .configurationUpdated := by
  rw [setIncludeChildren]
  split
  · rfl
  · rfl

theorem setIncludeChildren_resourceIncludeChildren (s : ServerSettings)
    {configuration : ServerConfiguration} {includeChildren : Bool}
    (h : configuration.resourceIncludeChildren = some includeChildren) :
    includeChildren = (s.setIncludeChildren configuration).1.resourceIncludeChildren := by
  simp only [setIncludeChildren, h, writeIncludeChildren]
  split
  · rfl
  next heq => exact (not_not.mp heq).symm

theorem setIncludeChildren_logLevel (s : ServerSettings) (configuration : ServerConfiguration) :
    (s.setIncludeChildren configuration).1.logLevel = s.logLevel := by
  simp only [setIncludeChildren, writeIncludeChildren]
  split
  · split
    · rfl
    · rfl
  · rfl

theorem setResources_of_refused (s : ServerSettings) {configuration : ServerConfiguration}
    (h : configuration.IntervalRefused) : s.setResources configuration = (s, intervalNegative) := by
  obtain ⟨intervalMs, hrequest, hnew⟩ := Option.map_eq_some_iff.mp h
  simp only [setResources, hrequest, hnew]

/-- What is in force after the part of a call that comes after the idle hours. -/
structure ResourcesInForce (configuration : ServerConfiguration) (s s' : ServerSettings) :
    Prop where
  response : (s.setResources configuration).2 = .configurationUpdated
  hours : s'.idleShutdownHours = s.idleShutdownHours
  interval : ∀ intervalMs, configuration.resourceSampleIntervalMs = some intervalMs →
    newIntervalMs intervalMs = some s'.resourceSampleIntervalMs
  includeChildren : ∀ includeChildren,
    configuration.resourceIncludeChildren = some includeChildren →
      includeChildren = s'.resourceIncludeChildren
  logLevel : s'.logLevel = s.logLevel

theorem resourcesInForce (s : ServerSettings) {configuration : ServerConfiguration}
    (h : ¬ configuration.IntervalRefused) :
    ResourcesInForce configuration s (s.setResources configuration).1 := by
  cases hrequest : configuration.resourceSampleIntervalMs with
  | none =>
      have hset : s.setResources configuration = s.setIncludeChildren configuration := by
        simp only [setResources, hrequest]
      rw [hset]
      exact ⟨by rw [hset, setIncludeChildren_snd], setIncludeChildren_idleShutdownHours _ _,
        fun _ hsome => absurd (hrequest.symm.trans hsome) (Option.some_ne_none _).symm,
        fun _ hsome => setIncludeChildren_resourceIncludeChildren s hsome,
        setIncludeChildren_logLevel _ _⟩
  | some intervalMs =>
      cases hnew : newIntervalMs intervalMs with
      | none => exact absurd (by rw [ServerConfiguration.IntervalRefused, hrequest]; simp [hnew]) h
      | some newInterval =>
          have hset : s.setResources configuration =
              (s.updateInterval newInterval).setIncludeChildren configuration := by
            simp only [setResources, hrequest, hnew]
          rw [hset]
          refine ⟨by rw [hset, setIncludeChildren_snd], setIncludeChildren_idleShutdownHours _ _,
            ?_, fun _ hsome => setIncludeChildren_resourceIncludeChildren _ hsome,
            setIncludeChildren_logLevel _ _⟩
          intro request hsome
          cases hrequest.symm.trans hsome
          rw [hnew, setIncludeChildren_resourceSampleIntervalMs]
          rfl

theorem setServerConfiguration_of_refused (s : ServerSettings) (poll : IdlePoll)
    {configuration : ServerConfiguration} (h : configuration.HoursRefused) :
    s.setServerConfiguration poll configuration = ((s, poll), hoursTooLarge) := by
  obtain ⟨idleHours, hrequest, hnew⟩ := Option.map_eq_some_iff.mp h
  simp only [setServerConfiguration, hrequest, hnew]

/-- Hours that are not refused are in force before the rest is looked at. -/
theorem setServerConfiguration_of_accepted (s : ServerSettings) (poll : IdlePoll)
    {configuration : ServerConfiguration} (h : ¬ configuration.HoursRefused) :
    ∃ (s' : ServerSettings) (poll' : IdlePoll), s.setServerConfiguration poll configuration =
        (((s'.setResources configuration).1, poll'), (s'.setResources configuration).2) ∧
      (∀ idleHours, configuration.idleShutdownHours = some idleHours →
        newIdleHours idleHours = some s'.idleShutdownHours ∧
          s'.idleShutdownHours = poll'.currentIdleShutdownHours) ∧
      s'.logLevel = s.logLevel := by
  cases hrequest : configuration.idleShutdownHours with
  | none =>
      refine ⟨s, poll, by simp only [setServerConfiguration, hrequest], ?_, rfl⟩
      intro idleHours hsome
      cases hsome
  | some idleHours =>
      cases hnew : newIdleHours idleHours with
      | none => exact absurd (by rw [ServerConfiguration.HoursRefused, hrequest]; simp [hnew]) h
      | some hours =>
          refine ⟨s.writeHours hours, poll.update hours, ?_, ?_, rfl⟩
          · simp only [setServerConfiguration, hrequest, hnew]
          · intro request hsome
            cases hsome
            exact ⟨hnew, rfl⟩

/-- A negative interval comes with no hours but those in force. -/
def RefusedHarmlessly (s : ServerSettings) (poll : IdlePoll)
    (configuration : ServerConfiguration) : Prop :=
  configuration.IntervalRefused →
    ∀ hours, configuration.idleShutdownHours.bind newIdleHours = some hours →
      hours = s.idleShutdownHours ∧ hours = poll.currentIdleShutdownHours

/-- A log level that is asked for, with no value that is refused, is the one reported. -/
def KeepsLogLevel (s : ServerSettings) (configuration : ServerConfiguration) : Prop :=
  ¬ configuration.HoursRefused → ¬ configuration.IntervalRefused →
    ∀ level, configuration.logLevel = some level → s.getServerConfiguration.logLevel = some level

/-- A call does all or nothing if and only if a negative interval comes with no idle hours
but those in force, and a log level with no other value refused is the one reported. -/
theorem allOrNothing_iff (s : ServerSettings) (poll : IdlePoll)
    (configuration : ServerConfiguration) :
    s.AllOrNothing poll configuration ↔
      s.RefusedHarmlessly poll configuration ∧ s.KeepsLogLevel configuration := by
  by_cases hhours : configuration.HoursRefused
  · -- nothing is done
    have hset := s.setServerConfiguration_of_refused poll hhours
    have hnone : configuration.idleShutdownHours.bind newIdleHours = none := by
      obtain ⟨idleHours, hrequest, hnew⟩ := Option.map_eq_some_iff.mp hhours
      rw [hrequest, Option.bind_some, hnew]
    refine iff_of_true ⟨fun _ => by rw [hset], fun h => ?_⟩ ⟨fun _ hours h => ?_, ?_⟩
    · rw [hset] at h
      cases h
    · rw [hnone] at h
      cases h
    · exact fun hnot => absurd hhours hnot
  obtain ⟨s', poll', hset, hnew, hlog⟩ := s.setServerConfiguration_of_accepted poll hhours
  by_cases hinterval : configuration.IntervalRefused
  · -- the hours are in force and the interval is refused
    have hresponse : (s.setServerConfiguration poll configuration).2 = intervalNegative := by
      rw [hset, s'.setResources_of_refused hinterval]
    have hkeeps := s.setServerConfiguration_eq_iff poll configuration
    constructor
    · intro h
      refine ⟨fun _ => ?_, fun _ hnot => absurd hinterval hnot⟩
      exact (hkeeps.mp (h.nothing (.inr hresponse)) hhours).1
    · rintro ⟨hharmless, -⟩
      refine ⟨fun _ => hkeeps.mpr fun _ => ⟨hharmless hinterval, ?_⟩, fun h => ?_⟩
      · exact fun hnot => absurd hinterval hnot
      · rw [hresponse] at h
        cases h
  · -- all values but the log level are in force
    have hresources := s'.resourcesInForce hinterval
    have hresponse : (s.setServerConfiguration poll configuration).2 = .configurationUpdated := by
      rw [hset, hresources.response]
    have hlevel :
        (s.setServerConfiguration poll configuration).1.1.getServerConfiguration.logLevel =
          s.getServerConfiguration.logLevel := by
      rw [hset]
      simp only [getServerConfiguration, hresources.logLevel, hlog]
    constructor
    · intro h
      refine ⟨fun hrefused => absurd hrefused hinterval, fun _ _ level hasked => ?_⟩
      rw [← hlevel]
      exact (h.all hresponse).logLevel level hasked
    · rintro ⟨-, hkeeps⟩
      refine ⟨fun hrefused => ?_, fun _ => ⟨?_, ?_, ?_, ?_⟩⟩
      · rw [hresponse] at hrefused
        rcases hrefused with h | h
        · cases h
        · cases h
      · rw [hset, hresources.hours]
        exact hnew
      · rw [hset]
        exact hresources.interval
      · rw [hset]
        exact hresources.includeChildren
      · rw [hlevel]
        exact hkeeps hhours hinterval

/-- Hours and a negative interval in one request. -/
def halfRefused : ServerConfiguration where
  idleShutdownHours := some 5
  resourceSampleIntervalMs := some (-1)
  resourceIncludeChildren := none
  logLevel := none

/-- The interval is refused, and the hours are in force. -/
theorem not_allOrNothing_halfRefused :
    ¬ AllOrNothing ⟨none, 1000, false, none⟩ (IdlePoll.start none) halfRefused := by
  intro h
  have hnothing := h.nothing (.inr (by decide))
  revert hnothing
  decide

end ServerSettings

end Kallichore
