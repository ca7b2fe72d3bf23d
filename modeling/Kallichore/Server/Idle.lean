import Kallichore.KernelState.Writers

/-!
# The idle timer

When the idle timer runs out the server looks at its sessions one by one: a
session that is busy or has a client keeps the server alive, and if there is none
the server shuts down. It goes by the status, which is not only written by the
kernel: a heartbeat monitor that times out during a long computation marks the
kernel offline, and idle once it is heard of again, and a second `start` writes over
whatever the first kernel does. A session that is starting is not looked for at all,
and the first of two clients to disconnect leaves the session marked as having none.

What a session is really doing is kept beside its status: for each of its kernels
what it last said on iopub, whether it is gone, and whether its start is under way;
and how many clients are attached. The status does not depend on it.
-/

namespace Kallichore

/-- What a kernel of a session is really doing. A kernel is named by its place among
those that the session started or adopted. -/
structure IdleKernel where
  /-- What it last said on iopub. -/
  lastIopub : Option ExecutionState
  /-- Its process has ended, or could not be spawned. -/
  exited : Bool
  /-- The call of `start` that is for this kernel has not returned. -/
  starting : Bool

namespace IdleKernel

/-- A kernel that `start` is called for. -/
def started : IdleKernel where
  lastIopub := none
  exited := false
  starting := true

/-- A kernel that was running before the session connects to it. -/
def adopted : IdleKernel where
  lastIopub := none
  exited := false
  starting := false

def Executing (kernel : IdleKernel) : Prop :=
  kernel.lastIopub = some .busy ∧ kernel.exited = false

def Starting (kernel : IdleKernel) : Prop := kernel.starting = true ∧ kernel.exited = false

end IdleKernel

/-- A session as the idle timer sees it, with what it is really doing. -/
structure IdleSession where
  writers : StatusWriters
  /-- The clients attached. -/
  clients : ℕ
  kernels : List IdleKernel

namespace IdleSession

def new (sessionId workingDirectory : String) (host : Host) : IdleSession where
  writers := .init (KernelState.new sessionId workingDirectory host)
  clients := 0
  kernels := []

def modify (s : IdleSession) (k : ℕ) (f : IdleKernel → IdleKernel) : IdleSession :=
  { s with kernels := s.kernels.modify k f }

/-- Kernel `k` says this on iopub. -/
def heard (s : IdleSession) (k : ℕ) (state : ExecutionState) : IdleSession :=
  s.modify k fun kernel => { kernel with lastIopub := some state }

/-- The `start` that is for kernel `k` returns. -/
def returned (s : IdleSession) (k : ℕ) : IdleSession :=
  s.modify k fun kernel => { kernel with starting := false }

/-- Kernel `k` is gone. -/
def ended (s : IdleSession) (k : ℕ) : IdleSession :=
  s.modify k fun kernel => { kernel with exited := true }

def append (s : IdleSession) (kernel : IdleKernel) : IdleSession :=
  { s with kernels := s.kernels ++ [kernel] }

/-- What a write of the status that is about kernel `k` says of the session. That
`Exited` is written says nothing: another kernel may be running. -/
def record (s : IdleSession) (k : ℕ) : StatusWriters.Act → IdleSession
  | .iopub state _ _ => s.heard k state
  | .start _ => s.append .started
  | .kernelInfo _ => s.returned k
  | _ => s

def step (s : IdleSession) (k : ℕ) (a : StatusWriters.Act) : Option IdleSession :=
  (s.writers.step a).map fun writers => { s.record k a with writers }

def kernel (s : IdleSession) : KernelState := s.writers.kernel

def setConnected (s : IdleSession) (connected : Bool) : IdleSession :=
  { s with writers := { s.writers with kernel := { s.writers.kernel with connected } } }

/-- Kernel `k` of the session is executing a request. -/
def Executes (s : IdleSession) (k : ℕ) : Prop :=
  ∃ kernel, s.kernels[k]? = some kernel ∧ kernel.Executing

/-- A kernel of the session is executing a request. -/
def Executing (s : IdleSession) : Prop := ∃ k, s.Executes k

/-- A kernel of the session is still starting. -/
def Starting (s : IdleSession) : Prop :=
  ∃ (k : ℕ) (kernel : IdleKernel), s.kernels[k]? = some kernel ∧ kernel.Starting

/-- Kernel `k` is there and is not gone. -/
def Runs (s : IdleSession) (k : ℕ) : Prop :=
  ∃ kernel, s.kernels[k]? = some kernel ∧ kernel.exited = false

/-- The write that is about kernel `k` would hide that a kernel is executing: it is
not this one's own word, or it is not taken after an exit. -/
def Hides (s : IdleSession) (k : ℕ) : StatusWriters.Act → Prop
  | .write _ _ | .start _ | .exit _ _ => s.Executing
  | .iopub .idle _ _ => ∃ j, j ≠ k ∧ s.Executes j
  | .iopub .busy _ _ => s.kernel.status = .exited ∧ s.Runs k
  | _ => False

/-- The session is set to work or started. -/
def Stirs (s : IdleSession) (k : ℕ) : StatusWriters.Act → Prop
  | .start _ => True
  | .iopub .busy _ _ => s.Runs k
  | _ => False

/-- The session is not executing, starting or attached to. -/
structure Unused (s : IdleSession) : Prop where
  executing : ¬ s.Executing
  starting : ¬ s.Starting
  clients : s.clients = 0

end IdleSession

inductive IdleCheckPc
  | waiting
  /-- Looking at the sessions; these are left. -/
  | looking (rest : List ℕ)
  deriving DecidableEq, Repr

structure IdleServer where
  kernelSessions : List ℕ
  session : ℕ → Option IdleSession
  /-- The sessions that `delete_session` has found exited. -/
  deleting : List ℕ
  check : IdleCheckPc

namespace IdleServer

inductive Act
  | createSession (i : ℕ) (sessionId workingDirectory : String) (host : Host)
  /-- One of the tasks that write the status goes on, for kernel `k` of the session
  where it is a task of one kernel. -/
  | session (i k : ℕ) (a : StatusWriters.Act)
  /-- The session connects to a kernel that is already running. -/
  | adopt (i : ℕ)
  /-- The `start` that is for kernel `k` returns with an error. -/
  | startFails (i k : ℕ)
  /-- The process of kernel `k` ends, or could not be spawned. -/
  | kernelEnds (i k : ℕ)
  | connect (i : ℕ)
  | disconnect (i : ℕ)
  | checkExited (i : ℕ)
  | deleteSession (i : ℕ)
  /-- The timer runs out: look at the sessions of the server at this moment. -/
  | checkIdleSessions
  /-- Look at the next session. -/
  | look
  /-- All sessions are idle and disconnected: begin to shut down. -/
  | shutDown

def setSession (s : IdleServer) (i : ℕ) (session : IdleSession) : IdleServer :=
  { s with session := Function.update s.session i (some session) }

def keepsAlive (session : IdleSession) : Bool :=
  session.kernel.status = .busy || session.kernel.connected

def step (s : IdleServer) : Act → Option IdleServer
  | .createSession i sessionId workingDirectory host =>
      match s.session i with
      | none => some { s.setSession i (.new sessionId workingDirectory host) with
          kernelSessions := s.kernelSessions ++ [i] }
      | some _ => none
  | .session i k a => (s.session i).bind fun session => (session.step k a).map (s.setSession i)
  | .adopt i => (s.session i).map fun session => s.setSession i (session.append .adopted)
  | .startFails i k => (s.session i).map fun session => s.setSession i (session.returned k)
  | .kernelEnds i k => (s.session i).map fun session => s.setSession i (session.ended k)
  | .connect i =>
      (s.session i).map fun session =>
        s.setSession i { session.setConnected true with clients := session.clients + 1 }
  | .disconnect i =>
      (s.session i).bind fun session =>
        match session.clients with
        | 0 => none
        | clients + 1 => some (s.setSession i { session.setConnected false with clients })
  | .checkExited i =>
      (s.session i).bind fun session =>
        if session.kernel.status = .exited then some { s with deleting := i :: s.deleting }
        else none
  | .deleteSession i =>
      if i ∈ s.deleting then some { s with kernelSessions := s.kernelSessions.erase i } else none
  | .checkIdleSessions =>
      match s.check with
      | .waiting => some { s with check := .looking s.kernelSessions }
      | .looking _ => none
  | .look =>
      match s.check with
      | .looking (i :: rest) => (s.session i).map fun session =>
          { s with check := if keepsAlive session then .waiting else .looking rest }
      | _ => none
  | .shutDown =>
      match s.check with
      | .looking [] => some { s with check := .waiting }
      | _ => none

inductive Took (s : IdleServer) : Act → IdleServer → Prop
  | createSession {i : ℕ} {sessionId workingDirectory : String} {host : Host}
      (hnone : s.session i = none) :
      Took s (.createSession i sessionId workingDirectory host)
        { s.setSession i (.new sessionId workingDirectory host) with
          kernelSessions := s.kernelSessions ++ [i] }
  | session {i k : ℕ} {a : StatusWriters.Act} {u v : IdleSession} (hu : s.session i = some u)
      (hv : u.step k a = some v) : Took s (.session i k a) (s.setSession i v)
  | adopt {i : ℕ} {u : IdleSession} (hu : s.session i = some u) :
      Took s (.adopt i) (s.setSession i (u.append .adopted))
  | startFails {i k : ℕ} {u : IdleSession} (hu : s.session i = some u) :
      Took s (.startFails i k) (s.setSession i (u.returned k))
  | kernelEnds {i k : ℕ} {u : IdleSession} (hu : s.session i = some u) :
      Took s (.kernelEnds i k) (s.setSession i (u.ended k))
  | connect {i : ℕ} {u : IdleSession} (hu : s.session i = some u) :
      Took s (.connect i)
        (s.setSession i { u.setConnected true with clients := u.clients + 1 })
  | disconnect {i clients : ℕ} {u : IdleSession} (hu : s.session i = some u)
      (hclients : u.clients = clients + 1) :
      Took s (.disconnect i) (s.setSession i { u.setConnected false with clients })
  | checkExited {i : ℕ} {u : IdleSession} (hu : s.session i = some u)
      (hstatus : u.kernel.status = .exited) :
      Took s (.checkExited i) { s with deleting := i :: s.deleting }
  | deleteSession {i : ℕ} (hdeleting : i ∈ s.deleting) :
      Took s (.deleteSession i) { s with kernelSessions := s.kernelSessions.erase i }
  | checkIdleSessions (hcheck : s.check = .waiting) :
      Took s .checkIdleSessions { s with check := .looking s.kernelSessions }
  | look {i : ℕ} {rest : List ℕ} {u : IdleSession} (hcheck : s.check = .looking (i :: rest))
      (hu : s.session i = some u) :
      Took s .look { s with check := if keepsAlive u then .waiting else .looking rest }
  | shutDown (hcheck : s.check = .looking []) : Took s .shutDown { s with check := .waiting }

def machine : Machine IdleServer Act := ⟨step⟩

def init : IdleServer where
  kernelSessions := []
  session := fun _ => none
  deleting := []
  check := .waiting

/-- The idle timer has looked at the session, or will not. -/
def Passed (s : IdleServer) (i : ℕ) : Prop :=
  ∃ rest, s.check = .looking rest ∧ i ∉ rest

/-- While a kernel executes, nothing writes over its status: no heartbeat monitor, no
`start`, no exit and no idle status of another kernel, and none begins to execute
while the session is marked as exited; nobody disconnects while another client is
attached; a session that is starting is not looked at; and one that was looked at is
neither set to work, nor started, nor attached to before the timer is done. -/
def Undisturbed (s : IdleServer) : Act → Prop
  | .session i k a => ∀ session, s.session i = some session →
      ¬ session.Hides k a ∧ (session.Stirs k a → ¬ s.Passed i)
  | .connect i => ¬ s.Passed i
  | .disconnect i => ∀ session, s.session i = some session → session.clients ≤ 1
  | .look => ∀ i rest session, s.check = .looking (i :: rest) → s.session i = some session →
      keepsAlive session = false → ¬ session.Starting
  | _ => True

end IdleServer

/-! ## One session -/

namespace IdleSession

/-- The kernel at a place after one was changed is the changed one or as before. -/
theorem modify_kernel {s : IdleSession} {k j : ℕ} {f : IdleKernel → IdleKernel}
    {kernel : IdleKernel} (h : (s.modify k f).kernels[j]? = some kernel) :
    (j = k ∧ ∃ old, s.kernels[k]? = some old ∧ kernel = f old) ∨
      (j ≠ k ∧ s.kernels[j]? = some kernel) := by
  rw [modify, List.getElem?_modify] at h
  obtain ⟨old, hold, heq⟩ := Option.map_eq_some_iff.mp h
  by_cases hjk : j = k
  · subst hjk
    exact Or.inl ⟨rfl, old, hold, by simpa using heq.symm⟩
  · refine Or.inr ⟨hjk, ?_⟩
    rw [if_neg (Ne.symm hjk)] at heq
    rw [hold, heq]

/-- The kernel at a place after one was added is the new one or as before. -/
theorem append_kernel {s : IdleSession} {j : ℕ} {new kernel : IdleKernel}
    (h : (s.append new).kernels[j]? = some kernel) :
    kernel = new ∨ s.kernels[j]? = some kernel := by
  rw [append, List.getElem?_append] at h
  split at h
  · exact Or.inr h
  · rw [List.getElem?_singleton] at h
    split at h
    · exact Or.inl (Option.some.inj h).symm
    · cases h

/-- What is true of some kernel after one was changed was so before, if the change does not
make it true. -/
theorem exists_of_modify {s : IdleSession} {k : ℕ} {f : IdleKernel → IdleKernel}
    {P : IdleKernel → Prop} (hf : ∀ kernel, P (f kernel) → P kernel)
    (h : ∃ (j : ℕ) (kernel : IdleKernel), (s.modify k f).kernels[j]? = some kernel ∧ P kernel) :
    ∃ (j : ℕ) (kernel : IdleKernel), s.kernels[j]? = some kernel ∧ P kernel := by
  obtain ⟨j, kernel, hkernel, hP⟩ := h
  rcases modify_kernel hkernel with ⟨rfl, old, hold, rfl⟩ | ⟨-, hold⟩
  · exact ⟨j, old, hold, hf old hP⟩
  · exact ⟨j, kernel, hold, hP⟩

theorem exists_of_append {s : IdleSession} {new : IdleKernel} {P : IdleKernel → Prop}
    (hnew : ¬ P new)
    (h : ∃ (j : ℕ) (kernel : IdleKernel), (s.append new).kernels[j]? = some kernel ∧ P kernel) :
    ∃ (j : ℕ) (kernel : IdleKernel), s.kernels[j]? = some kernel ∧ P kernel := by
  obtain ⟨j, kernel, hkernel, hP⟩ := h
  rcases append_kernel hkernel with rfl | hold
  · exact absurd hP hnew
  · exact ⟨j, kernel, hold, hP⟩

/-- The status is as it was, and no kernel begins to execute or to start. -/
structure Calms (s t : IdleSession) : Prop where
  writers : t.writers = s.writers
  clients : t.clients = s.clients
  executing : t.Executing → s.Executing
  starting : t.Starting → s.Starting

theorem calms_adopted (s : IdleSession) : s.Calms (s.append .adopted) where
  writers := rfl
  clients := rfl
  executing := exists_of_append fun h => by cases h.1
  starting := exists_of_append fun h => by cases h.1

theorem calms_returned (s : IdleSession) (k : ℕ) : s.Calms (s.returned k) where
  writers := rfl
  clients := rfl
  executing := exists_of_modify fun _ h => h
  starting := exists_of_modify fun _ h => by cases h.1

theorem calms_ended (s : IdleSession) (k : ℕ) : s.Calms (s.ended k) where
  writers := rfl
  clients := rfl
  executing := exists_of_modify fun _ h => by cases h.2
  starting := exists_of_modify fun _ h => by cases h.2

/-- After a word on iopub a kernel executes that said it is busy, or that executed
before and said nothing. -/
theorem executes_heard {s : IdleSession} {k j : ℕ} {state : ExecutionState}
    (h : (s.heard k state).Executes j) :
    (j = k ∧ state = .busy ∧ s.Runs k) ∨ (j ≠ k ∧ s.Executes j) := by
  obtain ⟨kernel, hkernel, hexecuting⟩ := h
  rcases modify_kernel hkernel with ⟨rfl, old, hold, rfl⟩ | ⟨hjk, hold⟩
  · exact Or.inl ⟨rfl, Option.some.inj hexecuting.1, old, hold, hexecuting.2⟩
  · exact Or.inr ⟨hjk, kernel, hold, hexecuting⟩

theorem executing_of_started {s : IdleSession} (h : (s.append .started).Executing) :
    s.Executing := exists_of_append (fun hnew => by cases hnew.1) h

theorem starting_of_heard {s : IdleSession} {k : ℕ} {state : ExecutionState}
    (h : (s.heard k state).Starting) : s.Starting :=
  exists_of_modify (P := IdleKernel.Starting)
    (f := fun kernel => { kernel with lastIopub := some state }) (fun _ hold => hold) h

/-- The status shows what the session is really doing. -/
structure Honest (s : IdleSession) : Prop where
  busy : s.Executing → s.kernel.status = .busy
  connected : s.clients ≠ 0 → s.kernel.connected = true

theorem unused_new (sessionId workingDirectory : String) (host : Host) :
    (new sessionId workingDirectory host).Unused := by
  refine ⟨?_, ?_, rfl⟩
  · rintro ⟨k, kernel, hkernel, -⟩
    cases hkernel
  · rintro ⟨k, kernel, hkernel, -⟩
    cases hkernel

theorem honest_new (sessionId workingDirectory : String) (host : Host) :
    (new sessionId workingDirectory host).Honest :=
  ⟨fun hexecuting => absurd hexecuting (unused_new sessionId workingDirectory host).executing,
    fun hclients => absurd rfl hclients⟩

theorem Calms.honest {s t : IdleSession} (h : s.Calms t) (hs : s.Honest) : t.Honest := by
  refine ⟨?_, ?_⟩
  · intro hexecuting
    rw [kernel, h.writers]
    exact hs.busy (h.executing hexecuting)
  · rw [h.clients, kernel, h.writers]
    exact hs.connected

theorem Calms.unused {s t : IdleSession} (h : s.Calms t) (hs : s.Unused) : t.Unused :=
  ⟨fun hexecuting => hs.executing (h.executing hexecuting),
    fun hstarting => hs.starting (h.starting hstarting), h.clients.trans hs.clients⟩

theorem step_connected {s t : StatusWriters} {a : StatusWriters.Act} (h : s.step a = some t) :
    t.kernel.connected = s.kernel.connected := by
  rcases StatusWriters.step_kernel h with heq | ⟨status, reason, host, heq, -⟩
  · rw [heq]
  · rw [heq, KernelState.setStatus_connected]

theorem record_clients (s : IdleSession) (k : ℕ) (a : StatusWriters.Act) :
    (s.record k a).clients = s.clients := by
  cases a <;> rfl

/-- A session with a kernel that executes is busy, unless a write hides it. -/
theorem step_busy {s t : IdleSession} {k : ℕ} {a : StatusWriters.Act} (hs : s.Honest)
    (hC : ¬ s.Hides k a) (h : s.step k a = some t) (hexecuting : t.Executing) :
    t.kernel.status = .busy := by
  obtain ⟨writers, hw, rfl⟩ := Option.map_eq_some_iff.mp h
  change writers.kernel.status = .busy
  change (s.record k a).Executing at hexecuting
  have hsame : s.Executing → writers.kernel = s.kernel → writers.kernel.status = .busy :=
    fun hbusy heq => heq ▸ hs.busy hbusy
  cases StatusWriters.step_took hw with
  | @busy reason host =>
      have hopen : s.kernel.status ≠ .exited := by
        intro hexited
        obtain ⟨j, hj⟩ := hexecuting
        rcases executes_heard hj with ⟨-, -, hruns⟩ | ⟨-, hother⟩
        · exact hC ⟨hexited, hruns⟩
        · cases hexited.symm.trans (hs.busy ⟨j, hother⟩)
      change (s.kernel.setStatus .busy reason host).1.status = .busy
      rw [KernelState.setStatus_status, if_neg fun hlate => hopen hlate.1]
  | idle =>
      obtain ⟨j, hj⟩ := hexecuting
      rcases executes_heard hj with ⟨-, hbusy, -⟩ | ⟨hjk, hother⟩
      · cases hbusy
      · exact absurd ⟨j, hjk, hother⟩ hC
  | start => exact absurd (executing_of_started hexecuting) hC
  | promote hstatus =>
      have hbusy := hs.busy ((s.calms_returned k).executing hexecuting)
      rw [kernel] at hbusy
      simp [hbusy] at hstatus
  | started => exact hsame ((s.calms_returned k).executing hexecuting) rfl
  | monitor | check | success | timeout | stop | wake => exact hsame hexecuting rfl
  | exit => exact absurd hexecuting hC
  | write hmonitor hpc => exact absurd hexecuting hC

theorem step_honest {s t : IdleSession} {k : ℕ} {a : StatusWriters.Act} (hs : s.Honest)
    (hC : ¬ s.Hides k a) (h : s.step k a = some t) : t.Honest := by
  refine ⟨step_busy hs hC h, ?_⟩
  obtain ⟨writers, hw, rfl⟩ := Option.map_eq_some_iff.mp h
  change (s.record k a).clients ≠ 0 → writers.kernel.connected = true
  rw [record_clients, step_connected hw]
  exact hs.connected

theorem step_unused {s t : IdleSession} {k : ℕ} {a : StatusWriters.Act} (hs : s.Unused)
    (hC : ¬ s.Stirs k a) (h : s.step k a = some t) : t.Unused := by
  obtain ⟨writers, hw, rfl⟩ := Option.map_eq_some_iff.mp h
  refine ⟨?_, ?_, (s.record_clients k a).trans hs.clients⟩
  · intro hexecuting
    change (s.record k a).Executing at hexecuting
    cases a with
    | iopub state reason host =>
        obtain ⟨j, hj⟩ := hexecuting
        rcases executes_heard hj with ⟨-, rfl, hruns⟩ | ⟨-, hother⟩
        · exact hC hruns
        · exact hs.executing ⟨j, hother⟩
    | start host => exact hC trivial
    | kernelInfo host => exact hs.executing ((s.calms_returned k).executing hexecuting)
    | _ => exact hs.executing hexecuting
  · intro hstarting
    change (s.record k a).Starting at hstarting
    cases a with
    | iopub state reason host => exact hs.starting (starting_of_heard hstarting)
    | start host => exact hC trivial
    | kernelInfo host => exact hs.starting ((s.calms_returned k).starting hstarting)
    | _ => exact hs.starting hstarting

/-- A session that does not keep the server alive and is not starting is unused. -/
theorem unused_of_looked {s : IdleSession} (hs : s.Honest)
    (hidle : IdleServer.keepsAlive s = false) (hstarting : ¬ s.Starting) : s.Unused := by
  simp only [IdleServer.keepsAlive, Bool.or_eq_false_iff, decide_eq_false_iff_not] at hidle
  refine ⟨fun hexecuting => hidle.1 (hs.busy hexecuting), hstarting, ?_⟩
  by_contra hclients
  cases (hs.connected hclients).symm.trans hidle.2

end IdleSession

/-! ## The sessions of the server -/

namespace IdleServer

theorem step_took {s t : IdleServer} {a : Act} (h : s.step a = some t) : Took s a t := by
  cases a with
  | createSession i sessionId workingDirectory host =>
      simp only [step] at h
      split at h
      · cases h
        exact .createSession ‹_›
      · cases h
  | session i k a =>
      obtain ⟨u, hu, h⟩ := Option.bind_eq_some_iff.mp h
      obtain ⟨v, hv, rfl⟩ := Option.map_eq_some_iff.mp h
      exact .session hu hv
  | adopt i =>
      obtain ⟨u, hu, rfl⟩ := Option.map_eq_some_iff.mp h
      exact .adopt hu
  | startFails i k =>
      obtain ⟨u, hu, rfl⟩ := Option.map_eq_some_iff.mp h
      exact .startFails hu
  | kernelEnds i k =>
      obtain ⟨u, hu, rfl⟩ := Option.map_eq_some_iff.mp h
      exact .kernelEnds hu
  | connect i =>
      obtain ⟨u, hu, rfl⟩ := Option.map_eq_some_iff.mp h
      exact .connect hu
  | disconnect i =>
      obtain ⟨u, hu, h⟩ := Option.bind_eq_some_iff.mp h
      split at h
      · cases h
      · cases h
        exact .disconnect hu ‹_›
  | checkExited i =>
      obtain ⟨u, hu, h⟩ := Option.bind_eq_some_iff.mp h
      obtain ⟨hstatus, h⟩ := Option.ite_none_right_eq_some.mp h
      cases h
      exact .checkExited hu hstatus
  | deleteSession i =>
      obtain ⟨hdeleting, h⟩ := Option.ite_none_right_eq_some.mp h
      cases h
      exact .deleteSession hdeleting
  | checkIdleSessions =>
      simp only [step] at h
      split at h
      · cases h
        exact .checkIdleSessions ‹_›
      · cases h
  | look =>
      simp only [step] at h
      split at h
      · obtain ⟨u, hu, rfl⟩ := Option.map_eq_some_iff.mp h
        exact .look ‹_› hu
      · cases h
  | shutDown =>
      simp only [step] at h
      split at h
      · cases h
        exact .shutDown ‹_›
      · cases h

/-- Where a session comes from in a step. -/
inductive SessionChange (s : IdleServer) (j : ℕ) (v : IdleSession) : Act → Prop
  | same (a : Act) (h : s.session j = some v) : SessionChange s j v a
  | created (sessionId workingDirectory : String) (host : Host)
      (h : v = .new sessionId workingDirectory host) :
      SessionChange s j v (.createSession j sessionId workingDirectory host)
  | stepped (k : ℕ) (b : StatusWriters.Act) (u : IdleSession) (hu : s.session j = some u)
      (h : u.step k b = some v) : SessionChange s j v (.session j k b)
  | calmed (a : Act) (u : IdleSession) (hu : s.session j = some u) (h : u.Calms v)
      (hlook : a ≠ .look) : SessionChange s j v a
  | connected (u : IdleSession) (hu : s.session j = some u)
      (h : v = { u.setConnected true with clients := u.clients + 1 }) :
      SessionChange s j v (.connect j)
  | disconnected (u : IdleSession) (hu : s.session j = some u) (clients : ℕ)
      (hclients : u.clients = clients + 1) (h : v = { u.setConnected false with clients }) :
      SessionChange s j v (.disconnect j)

theorem sessionChange_of_set {s t : IdleServer} {a : Act} {i j : ℕ} {w v : IdleSession}
    (ht : t.session = (s.setSession i w).session) (hj : t.session j = some v)
    (h : SessionChange s i w a) : SessionChange s j v a := by
  by_cases hij : j = i
  · subst hij
    have heq : t.session j = some w := by rw [ht]; simp [setSession]
    obtain rfl : v = w := Option.some.inj (hj.symm.trans heq)
    exact h
  · refine .same a ?_
    rw [← hj, ht]
    simp [setSession, hij]

theorem step_session {s t : IdleServer} {a : Act} (h : s.step a = some t) {j : ℕ}
    {v : IdleSession} (hj : t.session j = some v) : SessionChange s j v a := by
  cases step_took h with
  | @createSession i sessionId workingDirectory host hnone =>
      exact sessionChange_of_set (by rfl) hj (.created sessionId workingDirectory host rfl)
  | @session i k b u w hu hw => exact sessionChange_of_set rfl hj (.stepped k b u hu hw)
  | @adopt i u hu =>
      exact sessionChange_of_set rfl hj (.calmed _ u hu u.calms_adopted (by simp))
  | @startFails i k u hu =>
      exact sessionChange_of_set rfl hj (.calmed _ u hu (u.calms_returned k) (by simp))
  | @kernelEnds i k u hu =>
      exact sessionChange_of_set rfl hj (.calmed _ u hu (u.calms_ended k) (by simp))
  | @connect i u hu => exact sessionChange_of_set rfl hj (.connected u hu rfl)
  | @disconnect i clients u hu hclients =>
      exact sessionChange_of_set rfl hj (.disconnected u hu clients hclients rfl)
  | checkExited | deleteSession | checkIdleSessions | look | shutDown => exact .same _ hj

/-- A listed session that the timer has passed was passed before, or was created or
looked at just now. -/
theorem step_passed {s t : IdleServer} {a : Act} (h : s.step a = some t) {i : ℕ}
    (hpassed : t.Passed i) (hmem : i ∈ t.kernelSessions) :
    s.Passed i ∧ (i ∈ s.kernelSessions ∨ s.session i = none) ∨
      a = .look ∧ ∃ rest session, s.check = .looking (i :: rest) ∧
        s.session i = some session ∧ keepsAlive session = false := by
  have hkept : t.check = s.check → t.kernelSessions = s.kernelSessions →
      s.Passed i ∧ (i ∈ s.kernelSessions ∨ s.session i = none) := by
    intro hcheck hsessions
    obtain ⟨rest, hrest, hout⟩ := hpassed
    exact ⟨⟨rest, hcheck.symm.trans hrest, hout⟩, Or.inl (hsessions ▸ hmem)⟩
  cases step_took h with
  | createSession hnone =>
      refine Or.inl ⟨hpassed, ?_⟩
      rcases List.mem_append.mp hmem with hold | hnew
      · exact Or.inl hold
      · rw [List.mem_singleton.mp hnew]
        exact Or.inr hnone
  | session | adopt | startFails | kernelEnds | connect | disconnect | checkExited =>
      exact Or.inl (hkept rfl rfl)
  | deleteSession hdeleting => exact Or.inl ⟨hpassed, Or.inl (List.mem_of_mem_erase hmem)⟩
  | checkIdleSessions hcheck =>
      obtain ⟨rest, hrest, hout⟩ := hpassed
      cases hrest
      exact absurd hmem hout
  | @look j rest session hlooking hsession =>
      obtain ⟨rest', hrest', hout⟩ := hpassed
      simp only at hrest'
      split at hrest'
      · cases hrest'
      · rename_i hidle
        cases hrest'
        by_cases hij : i = j
        · subst hij
          exact Or.inr ⟨rfl, rest, session, hlooking, hsession, by simpa using hidle⟩
        · refine Or.inl ⟨⟨j :: rest, hlooking, ?_⟩, Or.inl hmem⟩
          simp [hij, hout]
  | shutDown hcheck =>
      obtain ⟨rest, hrest, -⟩ := hpassed
      cases hrest

/-- The statuses are honest, and the sessions that the timer has passed are
unused. -/
structure Watched (s : IdleServer) : Prop where
  honest : ∀ i session, s.session i = some session → session.Honest
  unused : ∀ i session, i ∈ s.kernelSessions → s.Passed i → s.session i = some session →
    session.Unused

theorem honest_of_change {s : IdleServer} {a : Act} (hs : s.Watched) (hC : s.Undisturbed a)
    {j : ℕ} {v : IdleSession} (h : SessionChange s j v a) : v.Honest := by
  cases h with
  | same a h => exact hs.honest j v h
  | created sessionId workingDirectory host h =>
      rw [h]
      exact IdleSession.honest_new sessionId workingDirectory host
  | stepped k b u hu h => exact IdleSession.step_honest (hs.honest j u hu) (hC u hu).1 h
  | calmed a u hu h => exact h.honest (hs.honest j u hu)
  | connected u hu h =>
      rw [h]
      exact ⟨(hs.honest j u hu).busy, fun _ => rfl⟩
  | disconnected u hu clients hclients h =>
      rw [h]
      refine ⟨(hs.honest j u hu).busy, fun hleft => absurd ?_ hleft⟩
      have hone := hC u hu
      change clients = 0
      omega

theorem step_watched {s t : IdleServer} {a : Act} (hs : s.Watched) (hC : s.Undisturbed a)
    (h : s.step a = some t) : t.Watched := by
  refine ⟨fun j v hv => honest_of_change hs hC (step_session h hv), ?_⟩
  intro i v hmem hpassed hv
  rcases step_passed h hpassed hmem with ⟨hbefore, hlisted⟩ | ⟨rfl, rest, u, hlook, hu, hidle⟩
  · -- The session was passed before this step.
    have hunused : ∀ u, s.session i = some u → u.Unused := by
      intro u hu
      rcases hlisted with hlisted | hnone
      · exact hs.unused i u hlisted hbefore hu
      · cases hnone.symm.trans hu
    cases step_session h hv with
    | same a heq => exact hunused v heq
    | created sessionId workingDirectory host heq =>
        rw [heq]
        exact IdleSession.unused_new sessionId workingDirectory host
    | stepped k b u hu heq =>
        exact IdleSession.step_unused (hunused u hu) (fun hstirs => (hC u hu).2 hstirs hbefore) heq
    | calmed a u hu hcalms => exact hcalms.unused (hunused u hu)
    | connected u hu heq => exact absurd hbefore hC
    | disconnected u hu clients hclients heq =>
        have hzero := (hunused u hu).clients
        omega
  · have hsame : s.session i = some v := by
      cases step_session h hv with
      | same a heq => exact heq
      | calmed a u hu hcalms hlook => exact absurd rfl hlook
    obtain rfl : u = v := Option.some.inj (hu.symm.trans hsame)
    exact IdleSession.unused_of_looked (hs.honest i u hu) hidle (hC i rest u hlook hu hidle)

end IdleServer

end Kallichore
