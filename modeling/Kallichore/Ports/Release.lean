import Kallichore.Ports.Generate

/-!
# What becomes of reserved ports

A connection file is generated for a kernel by `start`, and by `ensure_connection_file` for a
session that has none. It is stored in the session's state, and what `start` hands to the
proxy is what it finds stored. Ports are released in one place, at the end of
`start_zmq_proxy`, by their numbers; a task that comes to its end elsewhere releases nothing.

The list has only the ports. Here each of them comes with the call that reserved it and the
session it was reserved for, which no step looks at.
-/

namespace Kallichore

inductive PortCallKind
  | start
  | ensure
  deriving DecidableEq

/-- Where a call of `start` or `ensure_connection_file` is. -/
inductive PortCallPc
  | generating
  /-- The connection file is generated; about to store it. -/
  | storing
  /-- `start` writes the file, makes the command and spawns the kernel. -/
  | preparing
  /-- `start` does the same for a kernel that registers, and waits for the handshake. -/
  | handshaking
  /-- The handshake is complete. -/
  | connecting
  /-- The proxy is started, and `start` waits to hear of it. -/
  | waiting
  | returned
  deriving DecidableEq

structure PortCall where
  kind : PortCallKind
  session : ℕ
  generate : Generate
  pc : PortCallPc

def PortCall.Preparing (call : PortCall) : Prop :=
  call.pc = .generating ∨ call.pc = .storing ∨ call.pc = .preparing

/-- Where the task that runs `start_zmq_proxy` is. -/
inductive ProxyTaskPc
  /-- `connect` was called, and the task is not spawned yet. -/
  | called
  | connecting
  | listening
  /-- `listen` has returned; about to release the ports. -/
  | releasing
  | ended
  deriving DecidableEq

structure ProxyTask where
  session : ℕ
  /-- The ports of the connection file it was given. -/
  file : List UInt16
  pc : ProxyTaskPc

def ProxyTask.running (task : ProxyTask) : Bool :=
  match task.pc with
  | .connecting | .listening | .releasing => true
  | .called | .ended => false

structure Reservation where
  port : UInt16
  session : ℕ
  /-- The call that reserved the port. -/
  call : ℕ

/-- The reserved ports, the connection files stored in the sessions, and the tasks that deal
with them. -/
structure PortTable where
  reserved : List Reservation
  connectionFile : ℕ → Option (List UInt16)
  call : ℕ → Option PortCall
  proxy : ℕ → Option ProxyTask

namespace PortTable

inductive Act
  /-- `start` is called, for a kernel that registers itself or not. -/
  | start (c i : ℕ) (jep66 : Bool)
  | ensure (c i : ℕ)
  | pick (c : ℕ) (port : Option UInt16)
  | reserve (c : ℕ)
  | store (c : ℕ)
  /-- The file, the environment, the command, the process or the handshake fails, or the call
  is dropped because its client has gone. -/
  | startFails (c : ℕ)
  /-- The kernel has registered with these ports. -/
  | handshake (c : ℕ) (file : List UInt16)
  | startProxy (c p : ℕ)
  | startReturns (c : ℕ)
  /-- `connect` is called for a running kernel with these ports. -/
  | connect (p i : ℕ) (file : List UInt16)
  | connectFails (p : ℕ)
  | connectProxy (p : ℕ)
  | proxyListens (p : ℕ)
  /-- No connection, no kernel info, a timeout, or an exit before the connection. -/
  | proxyFails (p : ℕ)
  | proxyPanics (p : ℕ)
  | listenEnds (p : ℕ)
  | release (p : ℕ)

def reservedPorts (s : PortTable) : List UInt16 := s.reserved.map Reservation.port

def setCall (s : PortTable) (c : ℕ) (call : PortCall) : PortTable :=
  { s with call := Function.update s.call c (some call) }

def setProxy (s : PortTable) (p : ℕ) (task : ProxyTask) : PortTable :=
  { s with proxy := Function.update s.proxy p (some task) }

def setConnectionFile (s : PortTable) (i : ℕ) (file : List UInt16) : PortTable :=
  { s with connectionFile := Function.update s.connectionFile i (some file) }

/-- A call after a step of `generate`: it goes on with the file, or returns the error. -/
def afterGenerate (call : PortCall) (g : Generate) : PortCall :=
  { call with
    generate := g
    pc :=
      match g.pc with
      | .failed => .returned
      | .generated => .storing
      | _ => .generating }

/-- A call that begins with generating a connection file. -/
def generating (kind : PortCallKind) (session : ℕ) : PortCall where
  kind := kind
  session := session
  generate := .called
  pc := .generating

def plain (kind : PortCallKind) (session : ℕ) (pc : PortCallPc) : PortCall where
  kind := kind
  session := session
  generate := .absent
  pc := pc

/-- `start` starts the proxy with the file that it finds stored. -/
def spawnProxy (s : PortTable) (c p : ℕ) (call : PortCall) : PortTable :=
  match s.connectionFile call.session with
  | some file => (s.setProxy p ⟨call.session, file, .connecting⟩).setCall c
      { call with pc := .waiting }
  | none => s.setCall c { call with pc := .returned }

def step (s : PortTable) : Act → Option PortTable
  | .start c i jep66 =>
      match s.call c with
      | none => some (s.setCall c
          (if jep66 then plain .start i .handshaking else generating .start i))
      | some _ => none
  | .ensure c i =>
      match s.call c with
      | none =>
          match s.connectionFile i with
          | some _ => some (s.setCall c (plain .ensure i .returned))
          | none => some (s.setCall c (generating .ensure i))
      | some _ => none
  | .pick c port => (s.call c).bind fun call =>
      match call.pc, call.generate.pc with
      | .generating, .picking tries =>
          some (s.setCall c (afterGenerate call (call.generate.pick s.reservedPorts tries port)))
      | _, _ => none
  | .reserve c => (s.call c).bind fun call =>
      match call.pc, call.generate.pc with
      | .generating, .reserving port =>
          some { s.setCall c (afterGenerate call (call.generate.reserve port)) with
            reserved := s.reserved ++ [⟨port, call.session, c⟩] }
      | _, _ => none
  | .store c => (s.call c).bind fun call =>
      match call.pc with
      | .storing => some ((s.setConnectionFile call.session call.generate.ports).setCall c
          { call with pc := if call.kind = .start then .preparing else .returned })
      | _ => none
  | .startFails c => (s.call c).bind fun call =>
      match call.pc with
      | .storing | .preparing | .handshaking | .connecting =>
          some (s.setCall c { call with pc := .returned })
      | _ => none
  | .handshake c file => (s.call c).bind fun call =>
      match call.pc with
      | .handshaking => some ((s.setConnectionFile call.session file).setCall c
          { call with pc := .connecting })
      | _ => none
  | .startProxy c p => (s.call c).bind fun call =>
      match call.pc, s.proxy p with
      | .preparing, none | .connecting, none => some (s.spawnProxy c p call)
      | _, _ => none
  | .startReturns c => (s.call c).bind fun call =>
      match call.pc with
      | .waiting => some (s.setCall c { call with pc := .returned })
      | _ => none
  | .connect p i file =>
      match s.proxy p with
      | none => some ((s.setConnectionFile i file).setProxy p ⟨i, file, .called⟩)
      | some _ => none
  | .connectFails p => (s.proxy p).bind fun task =>
      match task.pc with
      | .called => some (s.setProxy p { task with pc := .ended })
      | _ => none
  | .connectProxy p => (s.proxy p).bind fun task =>
      match task.pc with
      | .called => some (s.setProxy p { task with pc := .connecting })
      | _ => none
  | .proxyListens p => (s.proxy p).bind fun task =>
      match task.pc with
      | .connecting => some (s.setProxy p { task with pc := .listening })
      | _ => none
  | .proxyFails p => (s.proxy p).bind fun task =>
      match task.pc with
      | .connecting => some (s.setProxy p { task with pc := .ended })
      | _ => none
  | .proxyPanics p => (s.proxy p).bind fun task =>
      match task.pc with
      | .connecting | .listening => some (s.setProxy p { task with pc := .ended })
      | _ => none
  | .listenEnds p => (s.proxy p).bind fun task =>
      match task.pc with
      | .listening => some (s.setProxy p { task with pc := .releasing })
      | _ => none
  | .release p => (s.proxy p).bind fun task =>
      match task.pc with
      | .releasing => some { s.setProxy p { task with pc := .ended } with
          reserved := s.reserved.filter fun r => r.port ∉ task.file }
      | _ => none

def machine : Machine PortTable Act := ⟨step⟩

def init : PortTable where
  reserved := []
  connectionFile := fun _ => none
  call := fun _ => none
  proxy := fun _ => none

/-- The session has a startup in progress or a running proxy task. -/
def Active (s : PortTable) (i : ℕ) : Prop :=
  (∃ c call, s.call c = some call ∧ call.kind = .start ∧ call.session = i ∧ call.pc ≠ .returned) ∨
    ∃ p task, s.proxy p = some task ∧ task.session = i ∧ task.running = true

structure NoLeak (s : PortTable) : Prop where
  /-- A call of `generate` that failed has left nothing in the list. -/
  failed : ∀ r ∈ s.reserved, ∀ call, s.call r.call = some call → call.generate.pc ≠ .failed
  /-- Nothing is reserved for a session that is neither starting nor running. -/
  active : ∀ r ∈ s.reserved, s.Active r.session

/-- Picking a port comes to nothing: there is none, or the last one tried is reserved. -/
def PickFails (reservedPorts : List UInt16) (tries : ℕ) : Option UInt16 → Prop
  | none => True
  | some candidate => candidate ∈ reservedPorts ∧ maxTries < tries + 1

/-- Each task that has reserved ports comes to where they are released: a call of `generate`
fails at its first port if at all, a start that has its ports does not fail before its
proxy has the file with them, the proxy ends after `listen`, and `ensure_connection_file`
finds a file. -/
def Orderly (s : PortTable) : Act → Prop
  | .pick c port => ∀ call, s.call c = some call → ∀ tries, call.generate.pc = .picking tries →
      PickFails s.reservedPorts tries port → call.generate.ports = []
  | .startFails c => ∀ call, s.call c = some call → call.generate.ports = []
  | .startProxy c _ => ∀ call, s.call c = some call → call.generate.ports = [] ∨
      s.connectionFile call.session = some call.generate.ports
  | .ensure _ i => s.connectionFile i ≠ none
  | .proxyFails p | .proxyPanics p => ∀ task, s.proxy p = some task →
      ∀ r ∈ s.reserved, r.session = task.session → r.port ∉ task.file
  | _ => True

instance (reservedPorts : List UInt16) (tries : ℕ) :
    (port : Option UInt16) → Decidable (PickFails reservedPorts tries port)
  | none => isTrue trivial
  | some _ => inferInstanceAs (Decidable (_ ∧ _))

instance (s : PortTable) : (a : Act) → Decidable (s.Orderly a)
  | .pick c port =>
      match hcall : s.call c with
      | none => isTrue (by simp [Orderly, hcall])
      | some call =>
          match hpc : call.generate.pc with
          | .picking tries => decidable_of_iff
              (PickFails s.reservedPorts tries port → call.generate.ports = [])
              (by simp [Orderly, hcall, hpc])
          | .absent | .reserving _ | .generated | .failed =>
              isTrue (by simp [Orderly, hcall, hpc])
  | .startFails c =>
      match hcall : s.call c with
      | none => isTrue (by simp [Orderly, hcall])
      | some call => decidable_of_iff (call.generate.ports = []) (by simp [Orderly, hcall])
  | .startProxy c p =>
      match hcall : s.call c with
      | none => isTrue (by simp [Orderly, hcall])
      | some call => decidable_of_iff (call.generate.ports = [] ∨
          s.connectionFile call.session = some call.generate.ports) (by simp [Orderly, hcall])
  | .ensure c i => inferInstanceAs (Decidable (s.connectionFile i ≠ none))
  | .proxyFails p =>
      match hproxy : s.proxy p with
      | none => isTrue (by simp [Orderly, hproxy])
      | some task => decidable_of_iff
          (∀ r ∈ s.reserved, r.session = task.session → r.port ∉ task.file)
          (by simp [Orderly, hproxy])
  | .proxyPanics p =>
      match hproxy : s.proxy p with
      | none => isTrue (by simp [Orderly, hproxy])
      | some task => decidable_of_iff
          (∀ r ∈ s.reserved, r.session = task.session → r.port ∉ task.file)
          (by simp [Orderly, hproxy])
  | .start _ _ _ | .reserve _ | .store _ | .handshake _ _ | .startReturns _ | .connect _ _ _
  | .connectFails _ | .connectProxy _ | .proxyListens _ | .listenEnds _ | .release _ =>
      isTrue trivial

/-! ## Who will release a port -/

variable {s : PortTable} {r : Reservation}

/-- A proxy task that will release the port. -/
def HeldByProxy (proxy : ℕ → Option ProxyTask) (r : Reservation) : Prop :=
  ∃ p task, proxy p = some task ∧ task.session = r.session ∧ task.running = true ∧
    r.port ∈ task.file

/-- The call that reserved the port is a start, and it or a proxy task has the port in hand. -/
structure Covered (proxy : ℕ → Option ProxyTask) (r : Reservation) (call : PortCall) : Prop where
  start : call.kind = .start
  session : call.session = r.session
  port : r.port ∈ call.generate.ports
  succeeded : call.generate.pc ≠ .failed
  inHand : call.Preparing ∨ HeldByProxy proxy r

structure Invariant (s : PortTable) : Prop where
  covered : ∀ r ∈ s.reserved, ∃ call, s.call r.call = some call ∧ Covered s.proxy r call
  /-- `ensure_connection_file` generates nothing. -/
  ensure : ∀ c call, s.call c = some call → call.kind = .ensure → call.pc = .returned

theorem setCall_call (s : PortTable) (c d : ℕ) (call : PortCall) :
    (s.setCall c call).call d = if d = c then some call else s.call d :=
  Function.update_apply _ _ _ _

theorem setProxy_proxy (s : PortTable) (p q : ℕ) (task : ProxyTask) :
    (s.setProxy p task).proxy q = if q = p then some task else s.proxy q :=
  Function.update_apply _ _ _ _

theorem Invariant.setCall (h : Invariant s) {c : ℕ} {call : PortCall}
    (hensure : call.kind = .ensure → call.pc = .returned)
    (hcovered : ∀ r ∈ s.reserved, r.call = c → ∀ old, s.call c = some old →
      Covered s.proxy r old → Covered s.proxy r call) :
    Invariant (s.setCall c call) := by
  refine ⟨?_, ?_⟩
  · intro r hr
    obtain ⟨old, hold, hcov⟩ := h.covered r hr
    rw [setCall_call]
    by_cases hc : r.call = c
    · rw [if_pos hc]
      rw [hc] at hold
      exact ⟨call, rfl, hcovered r hr hc old hold hcov⟩
    · rw [if_neg hc]
      exact ⟨old, hold, hcov⟩
  · intro d call' hd hkind
    rw [setCall_call] at hd
    split at hd
    · cases hd
      exact hensure hkind
    · exact h.ensure d call' hd hkind

theorem Invariant.setProxy (h : Invariant s) {p : ℕ} {task : ProxyTask}
    (hheld : ∀ r ∈ s.reserved, ∀ old, s.proxy p = some old → old.running = true →
      old.session = r.session → r.port ∈ old.file →
        task.running = true ∧ task.session = r.session ∧ r.port ∈ task.file) :
    Invariant (s.setProxy p task) := by
  refine ⟨?_, h.ensure⟩
  intro r hr
  obtain ⟨call, hcall, hcov⟩ := h.covered r hr
  refine ⟨call, hcall, hcov.start, hcov.session, hcov.port, hcov.succeeded, ?_⟩
  rcases hcov.inHand with hprep | ⟨q, old, hq, hsession, hrunning, hport⟩
  · exact .inl hprep
  · refine .inr ?_
    by_cases hqp : q = p
    · rw [hqp] at hq
      obtain ⟨hrunning', hsession', hport'⟩ := hheld r hr old hq hrunning hsession hport
      exact ⟨p, task, by rw [setProxy_proxy, if_pos rfl], hsession', hrunning', hport'⟩
    · exact ⟨q, old, by rw [setProxy_proxy, if_neg hqp, hq], hsession, hrunning, hport⟩

theorem Invariant.sublist (h : Invariant s) {reserved : List Reservation}
    (hsub : reserved.Sublist s.reserved) : Invariant { s with reserved } :=
  ⟨fun r hr => h.covered r (hsub.subset hr), h.ensure⟩

theorem Invariant.setConnectionFile (h : Invariant s) (i : ℕ) (file : List UInt16) :
    Invariant (s.setConnectionFile i file) := ⟨h.covered, h.ensure⟩

theorem Invariant.setCall_of_nil (h : Invariant s) {c : ℕ} {old call : PortCall}
    (hold : s.call c = some old) (hports : old.generate.ports = [])
    (hensure : call.kind = .ensure → call.pc = .returned) : Invariant (s.setCall c call) := by
  refine h.setCall hensure ?_
  intro r hr hc old' hold' hcov
  cases hold.symm.trans hold'
  have hport := hcov.port
  rw [hports] at hport
  cases hport

theorem Invariant.setCall_of_none (h : Invariant s) {c : ℕ} {call : PortCall}
    (hnone : s.call c = none) (hensure : call.kind = .ensure → call.pc = .returned) :
    Invariant (s.setCall c call) := by
  refine h.setCall hensure ?_
  intro r hr hc old hold
  cases hnone.symm.trans hold

theorem Invariant.setCall_of_pc (h : Invariant s) {c : ℕ} {old : PortCall} {pc : PortCallPc}
    (hold : s.call c = some old) (hkind : old.kind = .ensure → pc = .returned)
    (hpc : old.Preparing → PortCall.Preparing { old with pc }) :
    Invariant (s.setCall c { old with pc }) := by
  refine h.setCall hkind ?_
  intro r hr hc old' hold' hcov
  cases hold.symm.trans hold'
  exact ⟨hcov.start, hcov.session, hcov.port, hcov.succeeded, hcov.inHand.imp_left hpc⟩

theorem pick_eq_failed_iff {g : Generate} {reservedPorts : List UInt16} {tries : ℕ}
    {port : Option UInt16} :
    (g.pick reservedPorts tries port).pc = .failed ↔ PickFails reservedPorts tries port := by
  cases port with
  | none => exact iff_of_true rfl trivial
  | some candidate =>
      rw [Generate.pick, PickFails]
      split
      next hmem =>
        split
        next hlast => exact iff_of_true rfl ⟨hmem, hlast⟩
        next hlast => exact iff_of_false (by simp) fun h => hlast h.2
      next hmem => exact iff_of_false (by simp) fun h => hmem h.1

theorem preparing_afterGenerate (call : PortCall) {g : Generate} (h : g.pc ≠ .failed) :
    (afterGenerate call g).Preparing := by
  simp only [PortCall.Preparing, afterGenerate]
  split
  · exact absurd ‹_› h
  · exact .inr (.inl rfl)
  · exact .inl rfl

theorem Invariant.start_of_pc (h : Invariant s) {c : ℕ} {call : PortCall}
    (hcall : s.call c = some call) (hpc : call.pc ≠ .returned) : call.kind = .start := by
  cases hkind : call.kind with
  | start => rfl
  | ensure => exact absurd (h.ensure c call hcall hkind) hpc

theorem Invariant.pick (h : Invariant s) {c tries : ℕ} {call : PortCall} {port : Option UInt16}
    (hcall : s.call c = some call) (hpc : call.pc = .generating)
    (hC : PickFails s.reservedPorts tries port → call.generate.ports = []) :
    Invariant (s.setCall c
      (afterGenerate call (call.generate.pick s.reservedPorts tries port))) := by
  have hstart := h.start_of_pc hcall (by simp [hpc])
  by_cases hfails : PickFails s.reservedPorts tries port
  · refine h.setCall_of_nil hcall (hC hfails) fun hensure => ?_
    cases hstart.symm.trans hensure
  · have hnot := mt (@pick_eq_failed_iff call.generate _ _ _).mp hfails
    refine h.setCall (fun hensure => by cases hstart.symm.trans hensure) ?_
    intro r hr hc old hold hcov
    cases hcall.symm.trans hold
    refine ⟨hcov.start, hcov.session, ?_, hnot, .inl (preparing_afterGenerate call hnot)⟩
    exact (Generate.pick_ports call.generate s.reservedPorts tries port).symm ▸ hcov.port

theorem reserve_ne_failed (g : Generate) (port : UInt16) : (g.reserve port).pc ≠ .failed := by
  simp only [Generate.reserve]
  split
  · exact fun h => by cases h
  · exact fun h => by cases h

theorem Invariant.reserve (h : Invariant s) {c : ℕ} {call : PortCall} {port : UInt16}
    (hcall : s.call c = some call) (hpc : call.pc = .generating) :
    Invariant { s.setCall c (afterGenerate call (call.generate.reserve port)) with
      reserved := s.reserved ++ [⟨port, call.session, c⟩] } := by
  have hstart := h.start_of_pc hcall (by simp [hpc])
  have hprep := preparing_afterGenerate call (reserve_ne_failed call.generate port)
  have hmem : ∀ p ∈ call.generate.ports, p ∈ (call.generate.reserve port).ports :=
    fun p hp => List.mem_append_left _ hp
  have hcalls : Invariant (s.setCall c (afterGenerate call (call.generate.reserve port))) := by
    refine h.setCall (fun hensure => by cases hstart.symm.trans hensure) ?_
    intro r hr hc old hold hcov
    cases hcall.symm.trans hold
    exact ⟨hstart, hcov.session, hmem _ hcov.port, reserve_ne_failed _ _, .inl hprep⟩
  refine ⟨?_, hcalls.ensure⟩
  intro r hr
  rcases List.mem_append.mp hr with hr | hr
  · exact hcalls.covered r hr
  · rw [List.mem_singleton.mp hr]
    refine ⟨_, (setCall_call s c c _).trans (if_pos rfl), hstart, rfl, ?_,
      reserve_ne_failed _ _, .inl hprep⟩
    exact List.mem_append_right _ (List.mem_singleton_self port)

theorem Invariant.spawnProxy (h : Invariant s) {c p : ℕ} {call : PortCall}
    (hcall : s.call c = some call) (hkind : call.kind = .start) (hproxy : s.proxy p = none)
    (hC : call.generate.ports = [] ∨ s.connectionFile call.session = some call.generate.ports) :
    Invariant (s.spawnProxy c p call) := by
  rw [PortTable.spawnProxy]
  split
  next file hfile =>
    have hspawned : Invariant (s.setProxy p ⟨call.session, file, .connecting⟩) :=
      h.setProxy fun r hr old hold => by cases hproxy.symm.trans hold
    refine hspawned.setCall (fun hensure => by cases hkind.symm.trans hensure) ?_
    intro r hr hc old hold hcov
    cases hcall.symm.trans hold
    refine ⟨hcov.start, hcov.session, hcov.port, hcov.succeeded, .inr ?_⟩
    refine ⟨p, _, (setProxy_proxy s p p _).trans (if_pos rfl), hcov.session, rfl, ?_⟩
    have hport := hcov.port
    rcases hC with hnil | hown
    · rw [hnil] at hport
      cases hport
    · cases hfile.symm.trans hown
      exact hport
  next hfile =>
    rcases hC with hnil | hown
    · exact h.setCall_of_nil hcall hnil fun _ => rfl
    · cases hfile.symm.trans hown

theorem Invariant.proxyEnds (h : Invariant s) {p : ℕ} {task : ProxyTask}
    (hproxy : s.proxy p = some task)
    (hC : ∀ r ∈ s.reserved, r.session = task.session → r.port ∉ task.file) :
    Invariant (s.setProxy p { task with pc := .ended }) := by
  refine h.setProxy ?_
  intro r hr old hold hrunning hsession hport
  cases hproxy.symm.trans hold
  exact absurd hport (hC r hr hsession.symm)

theorem Invariant.proxyGoesOn (h : Invariant s) {p : ℕ} {task : ProxyTask} {pc : ProxyTaskPc}
    (hproxy : s.proxy p = some task)
    (hrunning : task.running = true → ProxyTask.running { task with pc } = true) :
    Invariant (s.setProxy p { task with pc }) := by
  refine h.setProxy ?_
  intro r hr old hold hold_running hsession hport
  cases hproxy.symm.trans hold
  exact ⟨hrunning hold_running, hsession, hport⟩

variable {t : PortTable}

theorem Invariant.of_start (hs : Invariant s) {c i : ℕ} {jep66 : Bool}
    (h : step s (.start c i jep66) = some t) : Invariant t := by
  simp only [step] at h
  split at h
  next hnone =>
    cases h
    refine hs.setCall_of_none hnone fun hensure => ?_
    split at hensure
    · cases hensure
    · cases hensure
  · cases h

theorem Invariant.of_ensure (hs : Invariant s) {c i : ℕ}
    (hC : s.Orderly (.ensure c i)) (h : step s (.ensure c i) = some t) : Invariant t := by
  simp only [step] at h
  split at h
  next hnone =>
    split at h
    · cases h
      exact hs.setCall_of_none hnone fun _ => rfl
    next hfile => exact absurd hfile hC
  · cases h

theorem Invariant.of_pick (hs : Invariant s) {c : ℕ} {port : Option UInt16}
    (hC : s.Orderly (.pick c port)) (h : step s (.pick c port) = some t) : Invariant t := by
  obtain ⟨call, hcall, h⟩ := Option.bind_eq_some_iff.mp h
  split at h
  next tries hpc hgen =>
    cases h
    exact hs.pick hcall hpc (hC call hcall tries hgen)
  · cases h

theorem Invariant.of_reserve (hs : Invariant s) {c : ℕ} (h : step s (.reserve c) = some t) :
    Invariant t := by
  obtain ⟨call, hcall, h⟩ := Option.bind_eq_some_iff.mp h
  split at h
  next port hpc hgen =>
    cases h
    exact hs.reserve hcall hpc
  · cases h

theorem Invariant.of_store (hs : Invariant s) {c : ℕ} (h : step s (.store c) = some t) :
    Invariant t := by
  obtain ⟨call, hcall, h⟩ := Option.bind_eq_some_iff.mp h
  split at h
  next hpc =>
    cases h
    have hstart := hs.start_of_pc hcall (by simp [hpc])
    refine (hs.setConnectionFile _ _).setCall_of_pc hcall ?_ ?_
    · intro hensure
      cases hstart.symm.trans hensure
    · intro _
      rw [if_pos hstart]
      exact .inr (.inr rfl)
  · cases h

theorem Invariant.of_startFails (hs : Invariant s) {c : ℕ}
    (hC : s.Orderly (.startFails c)) (h : step s (.startFails c) = some t) : Invariant t := by
  obtain ⟨call, hcall, h⟩ := Option.bind_eq_some_iff.mp h
  have hfails : Invariant (s.setCall c { call with pc := .returned }) :=
    hs.setCall_of_nil hcall (hC call hcall) fun _ => rfl
  split at h
  iterate 4
    · cases h
      exact hfails
  · cases h

theorem Invariant.of_handshake (hs : Invariant s) {c : ℕ} {file : List UInt16}
    (h : step s (.handshake c file) = some t) : Invariant t := by
  obtain ⟨call, hcall, h⟩ := Option.bind_eq_some_iff.mp h
  split at h
  next hpc =>
    cases h
    have hstart := hs.start_of_pc hcall (by simp [hpc])
    refine (hs.setConnectionFile _ _).setCall_of_pc hcall ?_ ?_
    · intro hensure
      cases hstart.symm.trans hensure
    · simp [PortCall.Preparing, hpc]
  · cases h

theorem Invariant.of_startProxy (hs : Invariant s) {c p : ℕ}
    (hC : s.Orderly (.startProxy c p)) (h : step s (.startProxy c p) = some t) : Invariant t := by
  obtain ⟨call, hcall, h⟩ := Option.bind_eq_some_iff.mp h
  split at h
  next hpc hnone =>
    cases h
    exact hs.spawnProxy hcall (hs.start_of_pc hcall (by simp [hpc])) hnone (hC call hcall)
  next hpc hnone =>
    cases h
    exact hs.spawnProxy hcall (hs.start_of_pc hcall (by simp [hpc])) hnone (hC call hcall)
  · cases h

theorem Invariant.of_startReturns (hs : Invariant s) {c : ℕ}
    (h : step s (.startReturns c) = some t) : Invariant t := by
  obtain ⟨call, hcall, h⟩ := Option.bind_eq_some_iff.mp h
  split at h
  next hpc =>
    cases h
    refine hs.setCall_of_pc hcall (fun _ => rfl) ?_
    simp [PortCall.Preparing, hpc]
  · cases h

theorem Invariant.of_connect (hs : Invariant s) {p i : ℕ} {file : List UInt16}
    (h : step s (.connect p i file) = some t) : Invariant t := by
  simp only [step] at h
  split at h
  next hnone =>
    cases h
    refine (hs.setConnectionFile i file).setProxy fun r hr old hold => ?_
    cases hnone.symm.trans hold
  · cases h

theorem Invariant.of_connectFails (hs : Invariant s) {p : ℕ}
    (h : step s (.connectFails p) = some t) : Invariant t := by
  obtain ⟨task, htask, h⟩ := Option.bind_eq_some_iff.mp h
  split at h
  next hpc =>
    cases h
    exact hs.proxyGoesOn htask (by simp [ProxyTask.running, hpc])
  · cases h

theorem Invariant.of_connectProxy (hs : Invariant s) {p : ℕ}
    (h : step s (.connectProxy p) = some t) : Invariant t := by
  obtain ⟨task, htask, h⟩ := Option.bind_eq_some_iff.mp h
  split at h
  · cases h
    exact hs.proxyGoesOn htask fun _ => rfl
  · cases h

theorem Invariant.of_proxyListens (hs : Invariant s) {p : ℕ}
    (h : step s (.proxyListens p) = some t) : Invariant t := by
  obtain ⟨task, htask, h⟩ := Option.bind_eq_some_iff.mp h
  split at h
  · cases h
    exact hs.proxyGoesOn htask fun _ => rfl
  · cases h

theorem Invariant.of_proxyFails (hs : Invariant s) {p : ℕ}
    (hC : s.Orderly (.proxyFails p)) (h : step s (.proxyFails p) = some t) : Invariant t := by
  obtain ⟨task, htask, h⟩ := Option.bind_eq_some_iff.mp h
  split at h
  · cases h
    exact hs.proxyEnds htask (hC task htask)
  · cases h

theorem Invariant.of_proxyPanics (hs : Invariant s) {p : ℕ}
    (hC : s.Orderly (.proxyPanics p)) (h : step s (.proxyPanics p) = some t) : Invariant t := by
  obtain ⟨task, htask, h⟩ := Option.bind_eq_some_iff.mp h
  have hends := hs.proxyEnds htask (hC task htask)
  split at h
  · cases h
    exact hends
  · cases h
    exact hends
  · cases h

theorem Invariant.of_listenEnds (hs : Invariant s) {p : ℕ} (h : step s (.listenEnds p) = some t) :
    Invariant t := by
  obtain ⟨task, htask, h⟩ := Option.bind_eq_some_iff.mp h
  split at h
  · cases h
    exact hs.proxyGoesOn htask fun _ => rfl
  · cases h

theorem Invariant.of_release (hs : Invariant s) {p : ℕ} (h : step s (.release p) = some t) :
    Invariant t := by
  obtain ⟨task, htask, h⟩ := Option.bind_eq_some_iff.mp h
  split at h
  · cases h
    have hless := hs.sublist (@List.filter_sublist _ (fun r => r.port ∉ task.file) s.reserved)
    refine hless.proxyEnds htask fun r hr _ => ?_
    exact of_decide_eq_true (List.mem_filter.mp hr).2
  · cases h

theorem step_invariant {a : Act} (hs : Invariant s) (hC : s.Orderly a)
    (h : machine.step s a = some t) : Invariant t := by
  change step s a = some t at h
  cases a with
  | start c i jep66 => exact hs.of_start h
  | ensure c i => exact hs.of_ensure hC h
  | pick c port => exact hs.of_pick hC h
  | reserve c => exact hs.of_reserve h
  | store c => exact hs.of_store h
  | startFails c => exact hs.of_startFails hC h
  | handshake c file => exact hs.of_handshake h
  | startProxy c p => exact hs.of_startProxy hC h
  | startReturns c => exact hs.of_startReturns h
  | connect p i file => exact hs.of_connect h
  | connectFails p => exact hs.of_connectFails h
  | connectProxy p => exact hs.of_connectProxy h
  | proxyListens p => exact hs.of_proxyListens h
  | proxyFails p => exact hs.of_proxyFails hC h
  | proxyPanics p => exact hs.of_proxyPanics hC h
  | listenEnds p => exact hs.of_listenEnds h
  | release p => exact hs.of_release h

theorem Invariant.noLeak (h : Invariant s) : NoLeak s := by
  refine ⟨?_, ?_⟩
  · intro r hr call hcall
    obtain ⟨call', hcall', hcov⟩ := h.covered r hr
    cases hcall.symm.trans hcall'
    exact hcov.succeeded
  · intro r hr
    obtain ⟨call, hcall, hcov⟩ := h.covered r hr
    rcases hcov.inHand with hprep | ⟨p, task, hp, hsession, hrunning, -⟩
    · refine .inl ⟨r.call, call, hcall, hcov.start, hcov.session, ?_⟩
      rcases hprep with hpc | hpc | hpc
      all_goals
        rw [hpc]
        exact fun h => by cases h
    · exact .inr ⟨p, task, hp, hsession, hrunning⟩

theorem invariant_init : Invariant init where
  covered _ h := by cases h
  ensure _ _ h := by cases h

/-- In every run in which the tasks that have reserved ports come to where they are released,
no port is leaked. -/
theorem noLeak_of_orderly (acts : List Act) {t : PortTable}
    (hmeets : machine.Meets Orderly init acts) (hrun : machine.run init acts = some t) :
    NoLeak t :=
  (machine.run_invariant (fun _ _ _ hs hC h => step_invariant hs hC h) invariant_init hmeets
    hrun).noLeak

/-- `start` generates a connection file with these ports. -/
def generatingActs (c : ℕ) (ports : List UInt16) : List Act :=
  ports.flatMap fun port => [.pick c (some port), .reserve c]

def started : List Act :=
  Act.start 0 0 false :: generatingActs 0 [9000, 9001, 9002, 9003, 9004] ++
    [Act.store 0, .startProxy 0 0, .proxyListens 0, .startReturns 0, .listenEnds 0, .release 0]

theorem noLeak_of_orderly_started :
    ∃ t, machine.run init started = some t ∧ t.reservedPorts = [] ∧ NoLeak t :=
  ⟨_, rfl, by decide, noLeak_of_orderly started (by decide) rfl⟩

def exhausted : List Act :=
  Act.start 0 0 false :: generatingActs 0 [9000, 9001] ++ [Act.pick 0 none]

/-- The proxy cannot connect to the kernel. -/
def unconnected : List Act :=
  Act.start 0 0 false :: generatingActs 0 [9000, 9001, 9002, 9003, 9004] ++
    [Act.store 0, .startProxy 0 0, .proxyFails 0, .startReturns 0]

/-- A call of `generate` that fails leaves two ports reserved, a start that fails leaves
five. -/
theorem not_noLeak_failed :
    (∃ t, machine.run init exhausted = some t ∧ t.reservedPorts = [9000, 9001] ∧ ¬ NoLeak t) ∧
    ∃ t, machine.run init unconnected = some t ∧
      t.reservedPorts = [9000, 9001, 9002, 9003, 9004] ∧ ¬ NoLeak t := by
  refine ⟨⟨_, rfl, by decide, fun h => ?_⟩, ⟨_, rfl, by decide, fun h => ?_⟩⟩
  · exact h.failed ⟨9000, 0, 0⟩ (List.mem_cons_self) _ rfl rfl
  · have hactive := h.active ⟨9000, 0, 0⟩ (List.mem_cons_self)
    rcases hactive with ⟨c, call, hc, -, -, hpc⟩ | ⟨p, task, hp, -, hrunning⟩
    · by_cases hzero : c = 0
      · subst hzero
        cases hc
        exact hpc rfl
      · simp [setCall, setProxy, setConnectionFile, spawnProxy, init, hzero] at hc
    · by_cases hzero : p = 0
      · subst hzero
        cases hp
        cases hrunning
      · simp [setCall, setProxy, setConnectionFile, spawnProxy, init, hzero] at hp

end PortTable

end Kallichore
