import Kallichore.Lib.Machine
import Kallichore.KernelState.Basic
import Kallichore.ExecutionQueue.Ledger

/-!
# Starting a kernel and watching it exit

One call of `start` and the tasks it spawns: `start_zmq_proxy`, which reports
over the startup channel whether the kernel's sockets came up, and `run_child`,
which waits for the child process and records its exit. `start` owns the only
receiver of the startup channel and has many ways to return early; the channel
is closed from then on. A proxy ignores that its report was not delivered;
`run_child` does not, and panics.

The request that `start` serves may be dropped while it waits, with all that `start` has
not handed to a task of its own. Between the spawn and the writing of the process ID it
waits for the lock, and the child has no `run_child` yet.

Other tasks of the session change the shared state at any time: the proxy of the
running kernel and heartbeat monitors write its status, clients' requests pass
through its queue, and another `start` with its tasks may mark it as starting or as
exited, and write the process ID of its own child.
-/

namespace Kallichore

/-- What `start` is told over the startup channel. -/
inductive StartupStatus
  | connected
  | connectionFailed
  | abnormalExit (code : Int)
  deriving DecidableEq, Repr

/-- Where the call of `start` is. -/
inductive StartPc
  | called
  /-- Marked as starting: files, environment and command are being set up. -/
  | preparing
  /-- The child runs: about to write its process ID. -/
  | spawned
  | handshaking
  | connecting
  /-- The proxy is running: waiting on the startup channel. -/
  | waiting
  /-- About to store the kernel info. -/
  | connected
  | returned
  deriving DecidableEq, Repr

/-- Where `start_zmq_proxy` is, up to its listening loop. -/
inductive ProxyStartPc
  | absent
  | connecting
  | kernelInfo
  | listening
  | ended
  deriving DecidableEq, Repr

inductive Child
  | absent
  | running
  | exited (code : Int)
  deriving DecidableEq, Repr

/-- Where `run_child` is. -/
inductive RunChildPc
  | absent
  /-- The child runs, and `start` has yet to put `run_child` in place. -/
  | pending
  /-- Waiting for the child to exit. -/
  | waiting
  /-- About to look whether the kernel was still starting. -/
  | checking (code : Int)
  /-- About to mark the kernel as exited. -/
  | marking (code : Int)
  /-- About to notify the exit event. -/
  | notifying (code : Int)
  /-- About to tell the client. -/
  | announcing (code : Int)
  | done
  | panicked
  deriving DecidableEq, Repr

/-- One `start` and the tasks it spawns, around the shared state. -/
structure Launch where
  kernel : KernelState
  start : StartPc
  startup : List StartupStatus
  proxy : ProxyStartPc
  child : Child
  runChild : RunChildPc
  exitNotified : Bool
  wsJson : List WebsocketMessage

namespace Launch

inductive Act
  /-- `start` marks the kernel as starting. -/
  | mark (host : Host)
  /-- A registration socket, file, environment or command could not be set up. -/
  | prepareFails
  /-- The process could not be spawned; it is marked as exited. -/
  | spawnFails (error : String) (host : Host)
  | spawn
  /-- The process ID is written and `run_child` put in place, with or without a handshake
  to wait for. -/
  | identify (pid : Option UInt32) (jep66 : Bool)
  | handshakeCompleted
  /-- The handshake failed or timed out. -/
  | handshakeFails
  /-- A startup status arrived during the handshake. -/
  | handshakeStartup
  /-- The proxy is started. -/
  | connect
  /-- There was no connection file to start it with. -/
  | connectFails
  /-- `start` takes a startup status off the channel. -/
  | recv
  | handleKernelInfo (host : Host)
  /-- The request that `start` serves is dropped. -/
  | drop
  | proxyConnected
  | proxyKernelInfo
  /-- A socket error, the connection timeout or no kernel info. -/
  | proxyFails
  /-- The session's exit event was notified before the proxy connected, here or for another
  kernel. -/
  | proxyExited
  | childExits (code : Int)
  /-- The next step of `run_child`. -/
  | runChild (host : Host)
  /-- Another task marks the kernel busy, idle, offline, starting or exited. -/
  | otherStatus (status : Status) (reason : Option String) (host : Host)
  /-- Another `start` writes the process ID of its child. -/
  | otherProcess (pid : Option UInt32)
  /-- Another task uses the execution queue. -/
  | otherQueue (op : ExecutionQueue.Op)

/-- Whether the startup channel still has a receiver. -/
def Listening (s : Launch) : Prop := s.start ≠ .returned

instance (s : Launch) : Decidable s.Listening := inferInstanceAs (Decidable (_ ≠ _))

def setStatus (s : Launch) (status : Status) (reason : Option String) (host : Host) :
    Launch :=
  { s with
    kernel := (s.kernel.setStatus status reason host).1
    wsJson := s.wsJson ++ (s.kernel.setStatus status reason host).2 }

def report (s : Launch) (status : StartupStatus) : Launch :=
  if s.Listening then { s with startup := s.startup ++ [status] } else s

/-- The steps of `run_child` after the child has exited. -/
def stepRunChild (s : Launch) (host : Host) : Option Launch :=
  match s.runChild with
  | .waiting =>
      match s.child with
      | .exited code => some { s with runChild := .checking code }
      | _ => none
  | .checking code =>
      -- If we were still in the Starting state when the process exited, that's bad.
      if s.kernel.status = .starting then
        if s.Listening then
          some { s with startup := s.startup ++ [.abnormalExit code], runChild := .marking code }
        else some { s with runChild := .panicked }
      else some { s with runChild := .marking code }
  | .marking code =>
      some { s.setStatus .exited (some "child process exited") host with
        runChild := .notifying code }
  | .notifying code => some { s with exitNotified := true, runChild := .announcing code }
  | .announcing code =>
      some { s with wsJson := s.wsJson ++ [.kernel (.exited code)], runChild := .done }
  | _ => none

def step (s : Launch) : Act → Option Launch
  | .mark host =>
      if s.start = .called then
        some { s.setStatus .starting (some "start API called") host with start := .preparing }
      else none
  | .prepareFails =>
      if s.start = .preparing then some { s with start := .returned } else none
  | .spawnFails error host =>
      if s.start = .preparing then
        some { s.setStatus .exited (some ("failed to spawn process: " ++ error)) host with
          start := .returned }
      else none
  | .spawn =>
      if s.start = .preparing then
        some { s with start := .spawned, child := .running, runChild := .pending }
      else none
  | .identify pid jep66 =>
      if s.start = .spawned then
        some { s with
          kernel := { s.kernel with processId := pid }
          start := if jep66 then .handshaking else .connecting
          runChild := .waiting }
      else none
  | .handshakeCompleted =>
      if s.start = .handshaking then some { s with start := .connecting } else none
  | .handshakeFails =>
      if s.start = .handshaking then some { s with start := .returned } else none
  | .handshakeStartup =>
      match s.start, s.startup with
      | .handshaking, _ :: rest => some { s with start := .returned, startup := rest }
      | _, _ => none
  | .connect =>
      if s.start = .connecting then
        some { s with start := .waiting, proxy := .connecting }
      else none
  | .connectFails =>
      if s.start = .connecting then some { s with start := .returned } else none
  | .recv =>
      match s.start, s.startup with
      | .waiting, .connected :: rest => some { s with start := .connected, startup := rest }
      | .waiting, _ :: rest => some { s with start := .returned, startup := rest }
      | _, _ => none
  | .handleKernelInfo host =>
      if s.start = .connected then
        -- Only promote from a startup state.
        if s.kernel.status = .uninitialized ∨ s.kernel.status = .starting ∨
            s.kernel.status = .ready then
          some { s.setStatus .idle (some "kernel_info_reply received") host with
            start := .returned }
        else some { s with start := .returned }
      else none
  | .drop =>
      if s.start = .returned then none
      else some { s with
        start := .returned
        -- A child that was not handed to `run_child` goes on without one.
        runChild := if s.runChild = .pending then .absent else s.runChild }
  | .proxyConnected =>
      if s.proxy = .connecting then some { s with proxy := .kernelInfo } else none
  | .proxyKernelInfo =>
      if s.proxy = .kernelInfo then some { s.report .connected with proxy := .listening }
      else none
  | .proxyFails =>
      if s.proxy = .connecting ∨ s.proxy = .kernelInfo then
        some { s.report .connectionFailed with proxy := .ended }
      else none
  | .proxyExited =>
      if s.proxy = .connecting then some { s with proxy := .ended } else none
  | .childExits code =>
      if s.child = .running then some { s with child := .exited code } else none
  | .runChild host => s.stepRunChild host
  | .otherStatus status reason host =>
      if status = .busy ∨ status = .idle ∨ status = .offline ∨ status = .starting ∨
          status = .exited then
        some (s.setStatus status reason host)
      else none
  | .otherProcess pid => some { s with kernel := { s.kernel with processId := pid } }
  | .otherQueue op =>
      some { s with kernel :=
        { s.kernel with executionQueue := (s.kernel.executionQueue.perform op).1 } }

def machine : Machine Launch Act := ⟨step⟩

/-- `start` has just been called. -/
def init (kernel : KernelState) : Launch where
  kernel := kernel
  start := .called
  startup := []
  proxy := .absent
  child := .absent
  runChild := .absent
  exitNotified := false
  wsJson := []

/-- The exit is recorded, but for the notification. -/
def Cleared (s : Launch) : Prop :=
  s.kernel.status = .exited ∧ s.kernel.processId = none ∧
    s.kernel.executionQueue.active = none ∧ s.kernel.executionQueue.pending = []

def Recorded (s : Launch) : Prop := s.Cleared ∧ s.exitNotified = true

/-- If the kernel is still starting, someone is there to be told. -/
def Heard (s : Launch) : Prop := s.kernel.status = .starting → s.Listening

/-- The child's exit has not yet been compared with the status. -/
def Unchecked (s : Launch) : Prop :=
  s.runChild = .waiting ∨ ∃ code, s.runChild = .checking code

/-- `run_child` has yet to mark the kernel as exited. -/
def Unmarked (s : Launch) : Prop := s.Unchecked ∨ ∃ code, s.runChild = .marking code

/-- Marking the kernel as exited clears it: if it is marked already, nothing is left to
clear. -/
def Markable (s : Launch) : Prop := s.kernel.status = .exited → s.Cleared

/-- `run_child` has marked the kernel as exited and not yet ended. -/
def Ending (s : Launch) : Prop :=
  ∃ code, s.runChild = .notifying code ∨ s.runChild = .announcing code

/-- `start` is not dropped between the spawn and `run_child`, which finds someone to tell
when it looks and a kernel it can clear when it marks it; before it has ended nobody marks
the kernel offline or starting again, writes a process ID or submits a request. -/
def Orderly (s : Launch) : Act → Prop
  | .drop => s.runChild ≠ .pending
  | .runChild _ => (∀ code, s.runChild = .checking code → s.Heard) ∧
      ∀ code, s.runChild = .marking code → s.Markable
  | .otherStatus status _ _ => s.Ending → status = .idle ∨ status = .busy ∨ status = .exited
  | .otherProcess pid => s.Ending → pid = none
  | .otherQueue op => s.Ending → ∀ request, op ≠ .process request
  | _ => True

/-- Left to itself, `run_child` reaches its end with the exit recorded. -/
def Ends (s : Launch) (host : Host) : Prop :=
  ∃ n t, machine.run s (List.replicate n (.runChild host)) = some t ∧
    t.runChild = .done ∧ t.Recorded

/-- What holds of the shared state where `run_child` is. -/
def At (s : Launch) : RunChildPc → Prop
  | .notifying _ => s.Cleared
  | .announcing _ => s.Recorded
  | .panicked => False
  | .absent | .pending | .waiting | .checking _ | .marking _ | .done => True

/-- The exit is looked at once, by a `run_child` that has not panicked. -/
structure Inv (s : Launch) : Prop where
  unspawned : s.start = .called ∨ s.start = .preparing → s.runChild = .absent
  spawned : s.start = .spawned → s.runChild = .pending
  watched : s.child = .absent ↔ s.runChild = .absent
  here : s.At s.runChild

/-! ## The steps keep the invariant -/

/-- `At` is about the shared state and the exit event. -/
theorem at_congr {s t : Launch} (hkernel : t.kernel = s.kernel)
    (hnotified : t.exitNotified = s.exitNotified) (pc : RunChildPc) :
    t.At pc ↔ s.At pc := by
  cases pc <;> simp [At, Recorded, Cleared, hkernel, hnotified]

/-- What `start` has come to before the child has its `run_child`. -/
def Early (pc : StartPc) : Prop := pc = .called ∨ pc = .preparing ∨ pc = .spawned

/-- A step that only moves `start` or the proxy on. -/
theorem inv_of_move {s t : Launch} (hs : s.Inv) (hkernel : t.kernel = s.kernel)
    (hnotified : t.exitNotified = s.exitNotified) (hrunChild : t.runChild = s.runChild)
    (hchild : t.child = s.child) (hstart : t.start = s.start ∨ ¬ Early t.start) : t.Inv := by
  refine ⟨?_, ?_, ?_, ?_⟩
  · intro hpc
    rcases hstart with heq | hlate
    · rw [hrunChild, hs.unspawned (heq ▸ hpc)]
    · exact absurd (hpc.imp_right Or.inl) hlate
  · intro hpc
    rcases hstart with heq | hlate
    · rw [hrunChild, hs.spawned (heq ▸ hpc)]
    · exact absurd (Or.inr (Or.inr hpc)) hlate
  · rw [hchild, hrunChild, hs.watched]
  · rw [hrunChild]
    exact (at_congr hkernel hnotified _).mpr hs.here

theorem inv_of_write {s t : Launch} (hs : s.Inv) (hstart : t.start = s.start)
    (hrunChild : t.runChild = s.runChild) (hchild : t.child = s.child)
    (hnotified : t.exitNotified = s.exitNotified)
    (hcleared : s.Ending → s.Cleared → t.Cleared) : t.Inv := by
  have hhere := hs.here
  refine ⟨?_, ?_, ?_, ?_⟩
  · rw [hstart, hrunChild]
    exact hs.unspawned
  · rw [hstart, hrunChild]
    exact hs.spawned
  · rw [hchild, hrunChild]
    exact hs.watched
  · rw [hrunChild]
    cases hpc : s.runChild with
    | absent | pending | waiting | checking | marking | done => trivial
    | notifying code =>
        rw [hpc] at hhere
        exact hcleared ⟨code, Or.inl hpc⟩ hhere
    | announcing code =>
        rw [hpc] at hhere
        exact ⟨hcleared ⟨code, Or.inr hpc⟩ hhere.1, hnotified.trans hhere.2⟩
    | panicked =>
        rw [hpc] at hhere
        exact hhere

/-- An exited kernel that is said to be idle, busy or exited is left as it is. -/
theorem cleared_of_late {s : Launch} (h : s.Cleared) {status : Status}
    (hstatus : status = .idle ∨ status = .busy ∨ status = .exited) (reason : Option String)
    (host : Host) : (s.setStatus status reason host).Cleared := by
  have hkernel : (s.kernel.setStatus status reason host).1 = s.kernel := by
    rcases hstatus with rfl | rfl | rfl
    · exact KernelState.setStatus_of_exited h.1 (Or.inl rfl) reason host
    · exact KernelState.setStatus_of_exited h.1 (Or.inr rfl) reason host
    · simp [KernelState.setStatus, h.1]
  simpa only [Cleared, setStatus, hkernel] using h

theorem cleared_perform {s : Launch} (h : s.Cleared) {op : ExecutionQueue.Op}
    (hop : ∀ request, op ≠ .process request) :
    Cleared { s with kernel :=
      { s.kernel with executionQueue := (s.kernel.executionQueue.perform op).1 } } := by
  obtain ⟨hstatus, hpid, hactive, hpending⟩ := h
  refine ⟨hstatus, hpid, ?_, ?_⟩
  all_goals
    cases op with
    | process request => exact absurd rfl (hop request)
    | next => simp [ExecutionQueue.perform, ExecutionQueue.nextRequest, hpending]
    | remove msgId =>
        simp [ExecutionQueue.perform, ExecutionQueue.removePending, hactive, hpending]
    | clear => simp [ExecutionQueue.perform]

theorem cleared_setStatus_iff (s : Launch) (reason : Option String) (host : Host) :
    (s.setStatus .exited reason host).Cleared ↔ s.Markable := by
  by_cases h : s.kernel.status = .exited
  · have hkernel : (s.kernel.setStatus .exited reason host).1 = s.kernel := by
      simp [KernelState.setStatus, h]
    simp only [Markable, Cleared, setStatus, hkernel, h, true_and, true_implies]
  · refine iff_of_true ⟨?_, ?_, ?_, ?_⟩ fun heq => absurd heq h
    · simp [setStatus, KernelState.setStatus_status]
    · simp [setStatus, KernelState.setStatus_processId, h]
    · simp [setStatus, KernelState.setStatus_executionQueue, h]
    · simp [setStatus, KernelState.setStatus_executionQueue, h]

/-- `run_child` takes its steps one after the other. -/
theorem stepRunChild_cases {s t : Launch} {host : Host} (h : s.stepRunChild host = some t) :
    (∃ code, s.runChild = .waiting ∧ s.child = .exited code ∧
      t = { s with runChild := .checking code }) ∨
    (∃ code startup, s.runChild = .checking code ∧
      t = { s with startup, runChild := .marking code }) ∨
    (∃ code, s.runChild = .checking code ∧ ¬ s.Heard ∧
      t = { s with runChild := .panicked }) ∨
    (∃ code, s.runChild = .marking code ∧
      t = { s.setStatus .exited (some "child process exited") host with
        runChild := .notifying code }) ∨
    (∃ code, s.runChild = .notifying code ∧
      t = { s with exitNotified := true, runChild := .announcing code }) ∨
    (∃ code, s.runChild = .announcing code ∧
      t = { s with
        wsJson := s.wsJson ++ [WebsocketMessage.kernel (.exited code)]
        runChild := .done }) := by
  unfold stepRunChild at h
  split at h
  · rename_i hpc
    split at h
    · rename_i code hchild
      cases h
      exact Or.inl ⟨code, hpc, hchild, rfl⟩
    · cases h
  · rename_i code hpc
    split at h
    · rename_i hstarting
      split at h
      · cases h
        exact Or.inr (Or.inl ⟨code, _, hpc, rfl⟩)
      · rename_i hlistening
        cases h
        exact Or.inr (Or.inr (Or.inl
          ⟨code, hpc, fun hheard => hlistening (hheard hstarting), rfl⟩))
    · cases h
      exact Or.inr (Or.inl ⟨code, s.startup, hpc, rfl⟩)
  · rename_i code hpc
    cases h
    exact Or.inr (Or.inr (Or.inr (Or.inl ⟨code, hpc, rfl⟩)))
  · rename_i code hpc
    cases h
    exact Or.inr (Or.inr (Or.inr (Or.inr (Or.inl ⟨code, hpc, rfl⟩))))
  · rename_i code hpc
    cases h
    exact Or.inr (Or.inr (Or.inr (Or.inr (Or.inr ⟨code, hpc, rfl⟩))))
  · cases h

/-- A step of `run_child` moves it to a place where the invariant holds. -/
theorem inv_of_runChild {s t : Launch} (hs : s.Inv) (pc : RunChildPc)
    (hsource : s.runChild ≠ .absent ∧ s.runChild ≠ .pending) (htarget : pc ≠ .absent)
    (hrunChild : t.runChild = pc) (hstart : t.start = s.start) (hchild : t.child = s.child)
    (hhere : t.At pc) : t.Inv := by
  refine ⟨?_, ?_, ?_, ?_⟩
  · intro hpc
    exact absurd (hs.unspawned (hstart ▸ hpc)) hsource.1
  · intro hpc
    exact absurd (hs.spawned (hstart ▸ hpc)) hsource.2
  · rw [hchild, hrunChild, hs.watched]
    exact ⟨fun habsent => absurd habsent hsource.1, fun habsent => absurd habsent htarget⟩
  · rw [hrunChild]
    exact hhere

theorem inv_stepRunChild {s t : Launch} {host : Host} (hs : s.Inv)
    (horderly : s.Orderly (.runChild host)) (h : s.stepRunChild host = some t) : t.Inv := by
  have hhere := hs.here
  rcases stepRunChild_cases h with ⟨code, hpc, -, rfl⟩ | ⟨code, startup, hpc, rfl⟩ |
    ⟨code, hpc, hheard, -⟩ | ⟨code, hpc, rfl⟩ | ⟨code, hpc, rfl⟩ | ⟨code, hpc, rfl⟩
  all_goals rw [hpc] at hhere
  · exact inv_of_runChild hs (.checking code) (by simp [hpc]) (by simp) rfl rfl rfl trivial
  · exact inv_of_runChild hs (.marking code) (by simp [hpc]) (by simp) rfl rfl rfl trivial
  · exact absurd (horderly.1 code hpc) hheard
  · exact inv_of_runChild hs (.notifying code) (by simp [hpc]) (by simp) rfl rfl rfl
      ((s.cleared_setStatus_iff _ host).mpr (horderly.2 code hpc))
  · exact inv_of_runChild hs (.announcing code) (by simp [hpc]) (by simp) rfl rfl rfl
      ⟨hhere, rfl⟩
  · exact inv_of_runChild hs .done (by simp [hpc]) (by simp) rfl rfl rfl trivial

theorem ite_eq_some {c : Prop} [Decidable c] {u : Option Launch} {t : Launch}
    (h : (if c then u else none) = some t) : c ∧ u = some t := by
  by_cases hc : c
  · rw [if_pos hc] at h
    exact ⟨hc, h⟩
  · rw [if_neg hc] at h
    cases h

/-- Before the spawn there is no `run_child` to mind what `start` writes. -/
theorem inv_of_unspawned {s t : Launch} (hs : s.Inv)
    (hstart : s.start = .called ∨ s.start = .preparing) (hstart' : t.start ≠ .spawned)
    (hrunChild : t.runChild = s.runChild) (hchild : t.child = s.child) : t.Inv := by
  have habsent := hs.unspawned hstart
  refine ⟨fun _ => hrunChild.trans habsent, fun hpc => absurd hpc hstart', ?_, ?_⟩
  · rw [hchild, hrunChild]
    exact hs.watched
  · rw [hrunChild, habsent]
    trivial

theorem inv_identify {s t : Launch} {pid : Option UInt32} {jep66 : Bool} (hs : s.Inv)
    (h : s.step (.identify pid jep66) = some t) : t.Inv := by
  obtain ⟨hspawned, heq⟩ := ite_eq_some h
  cases heq
  have hchild : s.child ≠ .absent := by
    rw [Ne, hs.watched, hs.spawned hspawned]
    simp
  exact ⟨by cases jep66 <;> simp, by cases jep66 <;> simp, by simpa using hchild, trivial⟩

theorem inv_childExits {s t : Launch} {code : Int} (hs : s.Inv)
    (h : s.step (.childExits code) = some t) : t.Inv := by
  obtain ⟨hrunning, heq⟩ := ite_eq_some h
  cases heq
  refine ⟨hs.unspawned, hs.spawned, ?_, hs.here⟩
  have hwatched := hs.watched
  rw [hrunning] at hwatched
  simpa using hwatched

theorem inv_handleKernelInfo {s t : Launch} {host : Host} (hs : s.Inv)
    (h : s.step (.handleKernelInfo host) = some t) : t.Inv := by
  obtain ⟨hconnected, heq⟩ := ite_eq_some h
  split at heq
  · cases heq
    have hwritten : (s.setStatus .idle (some "kernel_info_reply received") host).Inv :=
      inv_of_write hs rfl rfl rfl rfl fun _ hcleared =>
        cleared_of_late hcleared (Or.inl rfl) _ host
    exact inv_of_move hwritten rfl rfl rfl rfl (Or.inr (by simp [Early]))
  · cases heq
    exact inv_of_move hs rfl rfl rfl rfl (Or.inr (by simp [Early]))

theorem inv_drop {s t : Launch} (hs : s.Inv) (horderly : s.Orderly .drop)
    (h : s.step .drop = some t) : t.Inv := by
  simp only [step] at h
  split at h
  · cases h
  · cases h
    exact inv_of_move hs rfl rfl (if_neg horderly) rfl (Or.inr (by simp [Early]))

/-- The steps of `start` that only take it further. -/
theorem inv_of_start {s t : Launch} {a : Act} (hs : s.Inv)
    (ha : a = .handshakeStartup ∨ a = .recv) (h : s.step a = some t) : t.Inv := by
  rcases ha with rfl | rfl
  all_goals
    simp only [step] at h
    split at h
  · cases h
    exact inv_of_move hs rfl rfl rfl rfl (Or.inr (by simp [Early]))
  · cases h
  · cases h
    exact inv_of_move hs rfl rfl rfl rfl (Or.inr (by simp [Early]))
  · cases h
    exact inv_of_move hs rfl rfl rfl rfl (Or.inr (by simp [Early]))
  · cases h

theorem step_inv {s t : Launch} {a : Act} (hs : s.Inv) (horderly : s.Orderly a)
    (h : s.step a = some t) : t.Inv := by
  cases a with
  | mark host =>
      obtain ⟨hcalled, heq⟩ := ite_eq_some h
      cases heq
      exact inv_of_unspawned hs (Or.inl hcalled) (by simp) rfl rfl
  | spawnFails error host =>
      obtain ⟨hpreparing, heq⟩ := ite_eq_some h
      cases heq
      exact inv_of_unspawned hs (Or.inr hpreparing) (by simp) rfl rfl
  | spawn =>
      obtain ⟨-, heq⟩ := ite_eq_some h
      cases heq
      exact ⟨by simp, fun _ => rfl, by simp, trivial⟩
  | identify pid jep66 => exact inv_identify hs h
  | prepareFails | handshakeCompleted | handshakeFails | connectFails | connect =>
      obtain ⟨-, heq⟩ := ite_eq_some h
      cases heq
      exact inv_of_move hs rfl rfl rfl rfl (Or.inr (by simp [Early]))
  | handshakeStartup => exact inv_of_start hs (Or.inl rfl) h
  | recv => exact inv_of_start hs (Or.inr rfl) h
  | handleKernelInfo host => exact inv_handleKernelInfo hs h
  | drop => exact inv_drop hs horderly h
  | proxyConnected | proxyExited =>
      obtain ⟨-, heq⟩ := ite_eq_some h
      cases heq
      exact inv_of_move hs rfl rfl rfl rfl (Or.inl rfl)
  | proxyKernelInfo | proxyFails =>
      obtain ⟨-, heq⟩ := ite_eq_some h
      cases heq
      simp only [report]
      split
      all_goals exact inv_of_move hs rfl rfl rfl rfl (Or.inl rfl)
  | childExits code => exact inv_childExits hs h
  | runChild host => exact inv_stepRunChild hs horderly h
  | otherStatus status reason host =>
      obtain ⟨-, heq⟩ := ite_eq_some h
      cases heq
      exact inv_of_write hs rfl rfl rfl rfl fun hending hcleared =>
        cleared_of_late hcleared (horderly hending) reason host
  | otherProcess pid =>
      cases h
      refine inv_of_write hs rfl rfl rfl rfl fun hending hcleared => ?_
      exact ⟨hcleared.1, horderly hending, hcleared.2.2⟩
  | otherQueue op =>
      cases h
      exact inv_of_write hs rfl rfl rfl rfl fun hending hcleared =>
        cleared_perform hcleared (horderly hending)

/-! ## `run_child` reaches its end -/

/-- Nothing follows the end of `run_child`, nor a panic. -/
theorem ends_iff_of_stuck {s : Launch} {host : Host} (h : s.stepRunChild host = none) :
    s.Ends host ↔ s.runChild = .done ∧ s.Recorded := by
  constructor
  · rintro ⟨n, v, hrun, hv, hrecorded⟩
    cases n with
    | zero =>
        cases hrun
        exact ⟨hv, hrecorded⟩
    | succ n =>
        rw [List.replicate_succ, Machine.run_cons_eq_some_iff] at hrun
        obtain ⟨u, hu, -⟩ := hrun
        have hsome : s.stepRunChild host = some u := hu
        rw [h] at hsome
        cases hsome
  · rintro ⟨hdone, hrecorded⟩
    exact ⟨0, s, rfl, hdone, hrecorded⟩

theorem ends_iff_of_step {s t : Launch} {host : Host} (hdone : s.runChild ≠ .done)
    (h : s.stepRunChild host = some t) : s.Ends host ↔ t.Ends host := by
  constructor
  · rintro ⟨n, v, hrun, hv, hrecorded⟩
    cases n with
    | zero =>
        cases hrun
        exact absurd hv hdone
    | succ n =>
        rw [List.replicate_succ, Machine.run_cons_eq_some_iff] at hrun
        obtain ⟨u, hu, hrun⟩ := hrun
        obtain rfl : u = t := Option.some.inj (hu.symm.trans h)
        exact ⟨n, v, hrun, hv, hrecorded⟩
  · rintro ⟨n, v, hrun, hv, hrecorded⟩
    refine ⟨n + 1, v, ?_, hv, hrecorded⟩
    rw [List.replicate_succ, Machine.run_cons_eq_some_iff]
    exact ⟨t, h, hrun⟩

theorem ends_iff_of_announcing {s : Launch} {host : Host} {code : Int}
    (hpc : s.runChild = .announcing code) : s.Ends host ↔ s.Recorded := by
  have hstep : s.stepRunChild host = some
      { s with
        wsJson := s.wsJson ++ [WebsocketMessage.kernel (.exited code)]
        runChild := .done } := by
    simp [stepRunChild, hpc]
  rw [ends_iff_of_step (by simp [hpc]) hstep, ends_iff_of_stuck (by simp [stepRunChild])]
  exact and_iff_right rfl

theorem ends_iff_of_notifying {s : Launch} {host : Host} {code : Int}
    (hpc : s.runChild = .notifying code) : s.Ends host ↔ s.Cleared := by
  have hstep : s.stepRunChild host = some
      { s with exitNotified := true, runChild := .announcing code } := by
    simp [stepRunChild, hpc]
  rw [ends_iff_of_step (by simp [hpc]) hstep, ends_iff_of_announcing rfl]
  exact and_iff_left rfl

theorem ends_iff_of_marking {s : Launch} {host : Host} {code : Int}
    (hpc : s.runChild = .marking code) : s.Ends host ↔ s.Markable := by
  have hstep : s.stepRunChild host = some
      { s.setStatus .exited (some "child process exited") host with
        runChild := .notifying code } := by
    simp [stepRunChild, hpc]
  rw [ends_iff_of_step (by simp [hpc]) hstep, ends_iff_of_notifying rfl]
  exact s.cleared_setStatus_iff _ host

/-- At its check, `run_child` needs someone to hear it. -/
theorem ends_iff_of_checking {s : Launch} {host : Host} {code : Int}
    (hpc : s.runChild = .checking code) : s.Ends host ↔ s.Heard ∧ s.Markable := by
  have hdone : s.runChild ≠ .done := by simp [hpc]
  by_cases hstarting : s.kernel.status = .starting
  · by_cases hlistening : s.Listening
    · have hstep : s.stepRunChild host = some
          { s with
            startup := s.startup ++ [StartupStatus.abnormalExit code]
            runChild := .marking code } := by
        simp [stepRunChild, hpc, hstarting, hlistening]
      rw [ends_iff_of_step hdone hstep, ends_iff_of_marking rfl]
      exact (and_iff_right fun _ => hlistening).symm
    · have hstep : s.stepRunChild host = some { s with runChild := .panicked } := by
        simp [stepRunChild, hpc, hstarting, hlistening]
      rw [ends_iff_of_step hdone hstep, ends_iff_of_stuck (by simp [stepRunChild])]
      exact iff_of_false (by simp) fun hboth => hlistening (hboth.1 hstarting)
  · have hstep : s.stepRunChild host = some { s with runChild := .marking code } := by
      simp [stepRunChild, hpc, hstarting]
    rw [ends_iff_of_step hdone hstep, ends_iff_of_marking rfl]
    exact (and_iff_right fun heq => absurd heq hstarting).symm

theorem ends_iff_of_waiting {s : Launch} {host : Host} {code : Int}
    (hpc : s.runChild = .waiting) (hchild : s.child = .exited code) :
    s.Ends host ↔ s.Heard ∧ s.Markable := by
  have hstep : s.stepRunChild host = some { s with runChild := .checking code } := by
    simp [stepRunChild, hpc, hchild]
  rw [ends_iff_of_step (by simp [hpc]) hstep]
  exact ends_iff_of_checking rfl

theorem run_inv {kernel : KernelState} {acts : List Act} {t : Launch}
    (hmeets : machine.Meets Orderly (init kernel) acts)
    (hrun : machine.run (init kernel) acts = some t) : t.Inv := by
  have hinit : (init kernel).Inv := by
    refine ⟨fun _ => rfl, ?_, ?_, trivial⟩ <;> simp [init]
  exact machine.run_invariant (fun _ _ _ hs ha h => step_inv hs ha h) hinit hmeets hrun

/-- In every orderly run `run_child` has not panicked, and a child that has exited has one
or is about to. Until it is done, it reaches its end with the exit recorded exactly if it
is past its check or has someone to tell, and has marked the kernel or can clear it. -/
theorem run_child_ends {kernel : KernelState} {acts : List Act} {t : Launch}
    (hmeets : machine.Meets Orderly (init kernel) acts)
    (hrun : machine.run (init kernel) acts = some t) :
    t.runChild ≠ .panicked ∧
      ∀ code host, t.child = .exited code → t.runChild ≠ .absent ∧
        (t.runChild ≠ .pending → t.runChild ≠ .done →
          (t.Ends host ↔ (t.Unchecked → t.Heard) ∧ (t.Unmarked → t.Markable))) := by
  have hinv := run_inv hmeets hrun
  have hhere := hinv.here
  refine ⟨fun hpanicked => ?_, fun code host hchild => ⟨fun habsent => ?_, fun hplace hdone => ?_⟩⟩
  · rw [hpanicked] at hhere
    exact hhere
  · rw [← hinv.watched, hchild] at habsent
    cases habsent
  · cases hpc : t.runChild with
    | absent =>
        rw [← hinv.watched, hchild] at hpc
        cases hpc
    | pending => exact absurd hpc hplace
    | waiting =>
        rw [ends_iff_of_waiting hpc hchild]
        simp [Unmarked, Unchecked, hpc]
    | checking code' =>
        rw [ends_iff_of_checking hpc]
        simp [Unmarked, Unchecked, hpc]
    | marking code' =>
        rw [ends_iff_of_marking hpc]
        simp [Unmarked, Unchecked, hpc]
    | notifying code' =>
        rw [hpc] at hhere
        exact iff_of_true ((ends_iff_of_notifying hpc).mpr hhere)
          (by simp [Unmarked, Unchecked, hpc])
    | announcing code' =>
        rw [hpc] at hhere
        exact iff_of_true ((ends_iff_of_announcing hpc).mpr hhere)
          (by simp [Unmarked, Unchecked, hpc])
    | done => exact absurd hpc hdone
    | panicked =>
        rw [hpc] at hhere
        exact absurd hhere id

/-- A kernel that exits while `start` waits for its handshake. -/
def earlyExit : List Act :=
  [.mark sampleHost, .spawn, .identify (some 7) true, .childExits 1]

/-- `start` hears of the exit it was still waiting to hear of. -/
theorem run_child_ends_earlyExit :
    ∃ t, machine.run (init (KernelState.new "s" "/" sampleHost)) earlyExit = some t ∧
      t.Ends sampleHost := by
  have hmeets : machine.Meets Orderly (init (KernelState.new "s" "/" sampleHost))
      earlyExit := by
    simp [earlyExit, Machine.Meets, Orderly]
  refine ⟨_, rfl, ?_⟩
  apply (((run_child_ends hmeets rfl).2 1 sampleHost rfl).2 (by decide) (by decide)).mpr
  exact ⟨fun _ _ => by decide, fun _ hexited => absurd hexited (by decide)⟩

/-- `start` gives up on the handshake and returns; the child exits later. Nothing
records that exit, and the kernel is starting for good. -/
theorem not_ends_handshakeFails :
    ¬ ∀ (kernel : KernelState) (acts : List Act) (t : Launch) (code : Int),
      machine.run (init kernel) acts = some t → t.child = .exited code →
        t.runChild = .waiting → t.Ends sampleHost := by
  intro h
  have hends := h (KernelState.new "s" "/" sampleHost)
    [.mark sampleHost, .spawn, .identify (some 7) true, .handshakeFails, .childExits 1] _ 1
    rfl rfl rfl
  rw [ends_iff_of_waiting rfl rfl] at hends
  exact absurd (hends.1 rfl) (by decide)

end Launch

end Kallichore
