import Kallichore.Lib.Machine
import Kallichore.KernelState.Basic

/-!
# The tasks that write the status

Four kinds of task write the status of a kernel, each under the lock: the proxy
repeats what the kernel says on iopub, a heartbeat monitor marks the kernel
offline and online again, the process monitor records its exit, and `start`
begins a new life. A heartbeat monitor looks at the status before it sends a
heartbeat and again only in its next round, so its own writes land whatever the
status has become in between. Restarts can leave several of them behind.

An exited kernel stays exited until it is started again in exactly those runs
in which no heartbeat monitor gets to mark it offline.
-/

namespace Kallichore

/-- Where in its loop a heartbeat monitor is. -/
inductive HeartbeatPc
  /-- About to look whether the kernel has exited. -/
  | checking
  /-- A heartbeat is out: waiting for the response, the timeout or the exit. -/
  | waiting
  /-- Waiting for the lock to write a status. -/
  | writing (status : Status) (reason : String)
  | sleeping
  | stopped
  deriving DecidableEq, Repr

/-- A heartbeat monitor, and whether it last marked the kernel offline. -/
structure HeartbeatMonitor where
  pc : HeartbeatPc
  offline : Bool
  deriving DecidableEq, Repr

namespace HeartbeatMonitor

def new : HeartbeatMonitor where
  pc := .checking
  offline := false

/-- Check if the monitor should stop based on kernel state. -/
def check (monitor : HeartbeatMonitor) (status : Status) : HeartbeatMonitor :=
  { monitor with pc := if status = .exited then .stopped else .waiting }

/-- Handle successful heartbeat response. -/
def success (monitor : HeartbeatMonitor) : HeartbeatMonitor :=
  if monitor.offline then
    { pc := .writing .idle "heartbeat detected after offline", offline := false }
  else { monitor with pc := .sleeping }

def timeout (monitor : HeartbeatMonitor) : HeartbeatMonitor :=
  if monitor.offline then { monitor with pc := .sleeping }
  else { pc := .writing .offline "lost heartbeat", offline := true }

end HeartbeatMonitor

/-- The shared state and the monitors started so far. -/
structure StatusWriters where
  kernel : KernelState
  monitors : List HeartbeatMonitor

namespace StatusWriters

/-- One step of one of the tasks. A heartbeat monitor is named by its place in
the list. -/
inductive Act
  /-- The proxy repeats an iopub status, with the type of its parent. -/
  | iopub (state : ExecutionState) (reason : Option String) (host : Host)
  /-- `start` marks the kernel as starting. -/
  | start (host : Host)
  /-- `start` has the kernel info: a kernel that is still starting is idle. -/
  | kernelInfo (host : Host)
  /-- The process monitor, or a failed spawn, marks the kernel as exited. -/
  | exit (reason : String) (host : Host)
  /-- A proxy connects and starts a heartbeat monitor. -/
  | monitor
  | check (i : ℕ)
  | success (i : ℕ)
  | timeout (i : ℕ)
  /-- An error on the heartbeat socket, or the exit event: the monitor stops. -/
  | stop (i : ℕ)
  | write (i : ℕ) (host : Host)
  | wake (i : ℕ)

def setStatus (s : StatusWriters) (status : Status) (reason : Option String)
    (host : Host) : StatusWriters :=
  { s with kernel := (s.kernel.setStatus status reason host).1 }

def setMonitor (s : StatusWriters) (i : ℕ) (monitor : HeartbeatMonitor) :
    StatusWriters :=
  { s with monitors := s.monitors.set i monitor }

/-- A step of monitor `i`, if it stands where the step is taken. -/
def atPc (s : StatusWriters) (i : ℕ) (pc : HeartbeatPc)
    (next : HeartbeatMonitor → HeartbeatMonitor) : Option StatusWriters :=
  match s.monitors[i]? with
  | some monitor => if monitor.pc = pc then some (s.setMonitor i (next monitor)) else none
  | none => none

def step (s : StatusWriters) : Act → Option StatusWriters
  | .iopub .busy reason host => some (s.setStatus .busy reason host)
  | .iopub .idle reason host => some (s.setStatus .idle reason host)
  | .start host => some (s.setStatus .starting (some "start API called") host)
  | .kernelInfo host =>
      -- Only promote from a startup state.
      if s.kernel.status = .uninitialized ∨ s.kernel.status = .starting ∨
          s.kernel.status = .ready then
        some (s.setStatus .idle (some "kernel_info_reply received") host)
      else some s
  | .exit reason host => some (s.setStatus .exited (some reason) host)
  | .monitor => some { s with monitors := s.monitors ++ [HeartbeatMonitor.new] }
  | .check i => s.atPc i .checking fun monitor => monitor.check s.kernel.status
  | .success i => s.atPc i .waiting HeartbeatMonitor.success
  | .timeout i => s.atPc i .waiting HeartbeatMonitor.timeout
  | .stop i =>
      match s.monitors[i]? with
      | some monitor =>
          if monitor.pc = .waiting ∨ monitor.pc = .sleeping then
            some (s.setMonitor i { monitor with pc := .stopped })
          else none
      | none => none
  | .write i host =>
      match s.monitors[i]? with
      | some monitor =>
          match monitor.pc with
          | .writing status reason =>
              some ((s.setStatus status (some reason) host).setMonitor i
                { monitor with pc := .sleeping })
          | _ => none
      | none => none
  | .wake i => s.atPc i .sleeping fun monitor => { monitor with pc := .checking }

inductive Took (s : StatusWriters) : Act → StatusWriters → Prop
  | busy {reason : Option String} {host : Host} :
      Took s (.iopub .busy reason host) (s.setStatus .busy reason host)
  | idle {reason : Option String} {host : Host} :
      Took s (.iopub .idle reason host) (s.setStatus .idle reason host)
  | start {host : Host} :
      Took s (.start host) (s.setStatus .starting (some "start API called") host)
  | promote {host : Host}
      (hstatus : s.kernel.status = .uninitialized ∨ s.kernel.status = .starting ∨
        s.kernel.status = .ready) :
      Took s (.kernelInfo host) (s.setStatus .idle (some "kernel_info_reply received") host)
  | started {host : Host} : Took s (.kernelInfo host) s
  | exit {reason : String} {host : Host} :
      Took s (.exit reason host) (s.setStatus .exited (some reason) host)
  | monitor : Took s .monitor { s with monitors := s.monitors ++ [HeartbeatMonitor.new] }
  | check {i : ℕ} {monitor : HeartbeatMonitor} (hmonitor : s.monitors[i]? = some monitor)
      (hpc : monitor.pc = .checking) :
      Took s (.check i) (s.setMonitor i (monitor.check s.kernel.status))
  | success {i : ℕ} {monitor : HeartbeatMonitor} (hmonitor : s.monitors[i]? = some monitor)
      (hpc : monitor.pc = .waiting) : Took s (.success i) (s.setMonitor i monitor.success)
  | timeout {i : ℕ} {monitor : HeartbeatMonitor} (hmonitor : s.monitors[i]? = some monitor)
      (hpc : monitor.pc = .waiting) : Took s (.timeout i) (s.setMonitor i monitor.timeout)
  | stop {i : ℕ} {monitor : HeartbeatMonitor} (hmonitor : s.monitors[i]? = some monitor)
      (hpc : monitor.pc = .waiting ∨ monitor.pc = .sleeping) :
      Took s (.stop i) (s.setMonitor i { monitor with pc := .stopped })
  | write {i : ℕ} {host : Host} {monitor : HeartbeatMonitor} {status : Status} {reason : String}
      (hmonitor : s.monitors[i]? = some monitor) (hpc : monitor.pc = .writing status reason) :
      Took s (.write i host) ((s.setStatus status (some reason) host).setMonitor i
        { monitor with pc := .sleeping })
  | wake {i : ℕ} {monitor : HeartbeatMonitor} (hmonitor : s.monitors[i]? = some monitor)
      (hpc : monitor.pc = .sleeping) :
      Took s (.wake i) (s.setMonitor i { monitor with pc := .checking })

def machine : Machine StatusWriters Act := ⟨step⟩

/-- A session before anything has happened to it. -/
def init (kernel : KernelState) : StatusWriters where
  kernel := kernel
  monitors := []

/-- Monitor `i` is about to write this status. -/
def Writing (s : StatusWriters) (i : ℕ) (status : Status) : Prop :=
  ∃ monitor reason, s.monitors[i]? = some monitor ∧ monitor.pc = .writing status reason

/-- No monitor marks an exited kernel offline. -/
def NoLateOffline (s : StatusWriters) : Act → Prop
  | .write i _ => s.kernel.status = .exited → ¬ s.Writing i .offline
  | _ => True

/-- Wherever a run finds the kernel exited, it stays exited for as long as it is
not started. -/
def StaysExited (s : StatusWriters) (acts : List Act) : Prop :=
  ∀ as bs cs u v, acts = as ++ bs ++ cs → machine.run s as = some u →
    u.kernel.status = .exited → (∀ host, Act.start host ∉ bs) →
    machine.run u bs = some v → v.kernel.status = .exited

def MonitorWrites (monitor : HeartbeatMonitor) : Prop :=
  ∀ status reason, monitor.pc = .writing status reason →
    status = .idle ∨ status = .offline

def Inv (s : StatusWriters) : Prop := ∀ monitor ∈ s.monitors, MonitorWrites monitor

/-! ## What a step does -/

theorem monitorWrites_success (monitor : HeartbeatMonitor) :
    MonitorWrites monitor.success := by
  intro status reason hpc
  unfold HeartbeatMonitor.success at hpc
  split at hpc
  · cases hpc
    exact Or.inl rfl
  · cases hpc

theorem monitorWrites_timeout (monitor : HeartbeatMonitor) :
    MonitorWrites monitor.timeout := by
  intro status reason hpc
  unfold HeartbeatMonitor.timeout at hpc
  split at hpc
  · cases hpc
  · cases hpc
    exact Or.inr rfl

theorem inv_setMonitor {s : StatusWriters} (h : s.Inv) (i : ℕ)
    {monitor : HeartbeatMonitor} (hmonitor : MonitorWrites monitor) :
    (s.setMonitor i monitor).Inv := by
  intro other hother
  rcases List.mem_or_eq_of_mem_set hother with hmem | rfl
  · exact h other hmem
  · exact hmonitor

theorem atPc_eq_some_iff {s t : StatusWriters} {i : ℕ} {pc : HeartbeatPc}
    {next : HeartbeatMonitor → HeartbeatMonitor} :
    s.atPc i pc next = some t ↔
      ∃ monitor, s.monitors[i]? = some monitor ∧ monitor.pc = pc ∧
        t = s.setMonitor i (next monitor) := by
  unfold atPc
  cases s.monitors[i]? with
  | none => simp
  | some monitor =>
      by_cases hpc : monitor.pc = pc
      · simp [hpc, eq_comm]
      · simp [hpc]

theorem step_took {s t : StatusWriters} {a : Act} (h : s.step a = some t) : Took s a t := by
  cases a with
  | iopub state reason host =>
      cases state with
      | busy =>
          cases h
          exact .busy
      | idle =>
          cases h
          exact .idle
  | start host =>
      cases h
      exact .start
  | kernelInfo host =>
      simp only [step] at h
      split at h
      · cases h
        exact .promote ‹_›
      · cases h
        exact .started
  | exit reason host =>
      cases h
      exact .exit
  | monitor =>
      cases h
      exact .monitor
  | check i =>
      obtain ⟨monitor, hmonitor, hpc, rfl⟩ := atPc_eq_some_iff.mp h
      exact .check hmonitor hpc
  | success i =>
      obtain ⟨monitor, hmonitor, hpc, rfl⟩ := atPc_eq_some_iff.mp h
      exact .success hmonitor hpc
  | timeout i =>
      obtain ⟨monitor, hmonitor, hpc, rfl⟩ := atPc_eq_some_iff.mp h
      exact .timeout hmonitor hpc
  | wake i =>
      obtain ⟨monitor, hmonitor, hpc, rfl⟩ := atPc_eq_some_iff.mp h
      exact .wake hmonitor hpc
  | stop i =>
      simp only [step] at h
      split at h
      · split at h
        · cases h
          exact .stop ‹_› ‹_›
        · cases h
      · cases h
  | write i host =>
      simp only [step] at h
      split at h
      · split at h
        · cases h
          exact .write ‹_› ‹_›
        · cases h
      · cases h

/-- Every step of a monitor but `write` leaves the shared state alone; the others
write one status. -/
theorem step_kernel {s t : StatusWriters} {a : Act} (h : s.step a = some t) :
    t.kernel = s.kernel ∨
      ∃ status reason host, t.kernel = (s.kernel.setStatus status reason host).1 ∧
        (status = .idle ∨ status = .busy ∨ status = .exited ∨ a = .start host ∨
          ∃ i, a = .write i host ∧ s.Writing i status) := by
  cases step_took h with
  | @busy reason host => exact Or.inr ⟨.busy, reason, host, rfl, by simp⟩
  | @idle reason host => exact Or.inr ⟨.idle, reason, host, rfl, by simp⟩
  | @start host => exact Or.inr ⟨.starting, _, host, rfl, by simp⟩
  | @promote host hstatus => exact Or.inr ⟨.idle, _, host, rfl, by simp⟩
  | @exit reason host => exact Or.inr ⟨.exited, _, host, rfl, by simp⟩
  | started | monitor | check | success | timeout | stop | wake => exact Or.inl rfl
  | @write i host monitor status reason hmonitor hpc =>
      exact Or.inr ⟨status, some reason, host, rfl, by simp [Writing, hmonitor, hpc]⟩

theorem step_inv {s t : StatusWriters} {a : Act} (hs : s.Inv) (h : s.step a = some t) :
    t.Inv := by
  have hnext : ∀ (monitor : HeartbeatMonitor) (pc : HeartbeatPc),
      (∀ status reason, pc ≠ .writing status reason) →
      MonitorWrites { monitor with pc } := by
    intro monitor pc hne status reason heq
    exact absurd heq (hne status reason)
  cases step_took h with
  | busy | idle | start | promote | started | exit => exact hs
  | monitor =>
      intro monitor hmem
      rcases List.mem_append.mp hmem with hold | hnew
      · exact hs monitor hold
      · obtain rfl := List.mem_singleton.mp hnew
        exact hnext HeartbeatMonitor.new .checking (by simp)
  | @check i monitor hmonitor hpc =>
      refine inv_setMonitor hs i (hnext monitor _ ?_)
      intro status reason
      split <;> simp
  | @success i monitor hmonitor hpc =>
      exact inv_setMonitor hs i (monitorWrites_success monitor)
  | @timeout i monitor hmonitor hpc =>
      exact inv_setMonitor hs i (monitorWrites_timeout monitor)
  | @wake i monitor hmonitor hpc =>
      exact inv_setMonitor hs i (hnext monitor .checking (by simp))
  | @stop i monitor hmonitor hpc =>
      exact inv_setMonitor hs i (hnext monitor .stopped (by simp))
  | @write i host monitor status reason hmonitor hpc =>
      exact inv_setMonitor (s := s.setStatus status _ host) hs i
        (hnext monitor .sleeping (by simp))

/-- An exited kernel stays exited in every step but a start and a late offline. -/
theorem step_exited {s t : StatusWriters} {a : Act} (hs : s.Inv)
    (hexited : s.kernel.status = .exited) (hoffline : s.NoLateOffline a)
    (hstart : ∀ host, a ≠ .start host) (h : s.step a = some t) :
    t.kernel.status = .exited := by
  rcases step_kernel h with heq | ⟨status, reason, host, heq, hcause⟩
  · rw [heq, hexited]
  · rw [heq, KernelState.setStatus_status]
    rcases hcause with rfl | rfl | rfl | hcause | ⟨i, rfl, monitor, why, hmonitor, hpc⟩
    · simp [hexited]
    · simp [hexited]
    · simp
    · exact absurd hcause (hstart host)
    · rcases hs monitor (List.mem_of_getElem? hmonitor) status why hpc with rfl | rfl
      · simp [hexited]
      · exact absurd ⟨monitor, why, hmonitor, hpc⟩ (hoffline hexited)

theorem run_inv {s t : StatusWriters} {acts : List Act} (hs : s.Inv)
    (hrun : machine.run s acts = some t) : t.Inv :=
  machine.run_of_step (fun _ _ _ hs h => step_inv hs h) hs hrun

theorem run_exited {s t : StatusWriters} {acts : List Act} (hs : s.Inv)
    (hexited : s.kernel.status = .exited) (hoffline : machine.Meets NoLateOffline s acts)
    (hstart : ∀ host, Act.start host ∉ acts) (hrun : machine.run s acts = some t) :
    t.kernel.status = .exited := by
  have hmeets : machine.Meets (fun u a => u.NoLateOffline a ∧ ∀ host, a ≠ .start host)
      s acts := by
    refine machine.meets_iff_forall_append.mpr fun as a bs u heq hu => ⟨?_, ?_⟩
    · exact machine.meets_iff_forall_append.mp hoffline as a bs u heq hu
    · rintro host rfl
      exact hstart host (by simp [heq])
  refine (machine.run_invariant (I := fun u => u.Inv ∧ u.kernel.status = .exited)
    ?_ ⟨hs, hexited⟩ hmeets hrun).2
  rintro u a v ⟨hinv, hu⟩ ⟨ha, hne⟩ hstep
  exact ⟨step_inv hinv hstep, step_exited hinv hu ha hne hstep⟩

theorem run_late_offline {s : StatusWriters} {a : Act} (h : ¬ s.NoLateOffline a) :
    s.kernel.status = .exited ∧ (∀ host, Act.start host ∉ [a]) ∧
      ∃ t, machine.run s [a] = some t ∧ t.kernel.status ≠ .exited := by
  cases a with
  | write i host =>
      simp only [NoLateOffline, not_forall, not_not] at h
      obtain ⟨hexited, monitor, reason, hmonitor, hpc⟩ := h
      refine ⟨hexited, by simp, (s.setStatus .offline (some reason) host).setMonitor i
        { monitor with pc := .sleeping }, ?_, ?_⟩
      · simp [Machine.run, machine, step, hmonitor, hpc]
      · simp [setMonitor, setStatus, KernelState.setStatus_status]
  | _ => exact absurd trivial h

/-- An exited kernel is not resurrected, in exactly the runs in which no
heartbeat monitor marks it offline after its exit. -/
theorem staysExited_iff (kernel : KernelState) (acts : List Act) :
    StaysExited (init kernel) acts ↔ machine.Meets NoLateOffline (init kernel) acts := by
  have hinit : (init kernel).Inv := fun monitor hmem => absurd hmem (by simp [init])
  constructor
  · intro hstays
    refine machine.meets_iff_forall_append.mpr fun as a bs u heq hu => ?_
    by_contra hlate
    obtain ⟨hexited, hstart, t, hrun, ht⟩ := run_late_offline hlate
    exact ht (hstays as [a] bs u t (by simp [heq]) hu hexited hstart hrun)
  · intro hmeets as bs cs u v heq hu hexited hstart hv
    subst heq
    exact run_exited (run_inv hinit hu) hexited (Machine.Meets.segment machine hmeets hu)
      hstart hv

/-- A monitor times out while the kernel runs and gets the lock after the process
monitor: the exited kernel is offline. -/
theorem not_staysExited_timeout :
    ¬ ∀ (kernel : KernelState) (acts : List Act), StaysExited (init kernel) acts := by
  intro h
  let life : List Act := [.start sampleHost, .monitor, .check 0, .timeout 0,
    .exit "child process exited" sampleHost]
  have hexited : ∃ u, machine.run (init (KernelState.new "s" "/" sampleHost)) life = some u ∧
      u.kernel.status = .exited ∧
      ∃ v, machine.run u [.write 0 sampleHost] = some v ∧ v.kernel.status = .offline :=
    ⟨_, rfl, rfl, _, rfl, rfl⟩
  obtain ⟨u, hu, hstatus, v, hv, hoffline⟩ := hexited
  have hhere := h (KernelState.new "s" "/" sampleHost) (life ++ [Act.write 0 sampleHost] ++ [])
    life [.write 0 sampleHost] [] u v rfl hu hstatus (by simp) hv
  rw [hoffline] at hhere
  cases hhere

end StatusWriters

end Kallichore
