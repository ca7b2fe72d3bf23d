import Kallichore.Lifetime.Exit

/-!
# Shutting the server down

To shut down, the server looks at its sessions one by one and lists those that
are running, going by their status. A task of its own then registers for the
exit of each of them, while the sessions are asked to shut down, and the server
exits once all of them have. There is no timeout, so one session whose exit is
never notified again holds the server back for good.

The status says little about that: a session is idle from the moment it is
created, and one whose kernel could not be started may be left starting.
-/

namespace Kallichore

inductive ShutdownPc
  /-- Looking at the sessions; these are left. -/
  | reading (unread : List ℕ)
  /-- The waiting task is spawned; these sessions are left to be asked. -/
  | asking (unasked : List ℕ)
  /-- The server turned out not to be idle. -/
  | returned
  deriving DecidableEq, Repr

structure Shutdown where
  /-- Begun by `check_idle_sessions`, and not by a client or a signal. -/
  idle : Bool
  /-- The sessions found running, with the waiting task's listener for each. -/
  running : List (ℕ × Listener)
  pc : ShutdownPc

/-- The server: its list of sessions, by number, and the shutdowns begun. A
session that is deleted from the list lives on in the tasks that hold it. -/
structure Server where
  kernelSessions : List ℕ
  session : ℕ → Option Lifetime
  /-- The sessions that `delete_session` has found exited. -/
  deleting : List ℕ
  shutdown : ℕ → Option Shutdown
  /-- The server process has exited. -/
  exited : Bool

/-- The step notifies the exit event of its session. -/
def Lifetime.Act.notifiesExit : Lifetime.Act → Bool
  | .notifyExit _ | .adoptedEnds _ _ => true
  | _ => false

namespace Shutdown

def new (idle : Bool) (sessions : List ℕ) : Shutdown where
  idle := idle
  running := []
  pc := .reading sessions

/-- Register for the next session that the waiting task has come to. -/
def registerNext : List (ℕ × Listener) → Option (List (ℕ × Listener))
  | [] => none
  | (i, .unregistered) :: rest => some ((i, .registered) :: rest)
  | entry :: rest => (registerNext rest).map (entry :: ·)

/-- The exit event of a session was notified. -/
def wake (call : Shutdown) (i : ℕ) : Shutdown :=
  { call with
    running := call.running.map fun entry => if entry.1 = i then (i, entry.2.notify) else entry }

/-- Every session that the task waits for has exited. -/
def allExited (call : Shutdown) : Bool :=
  call.running.all fun entry => entry.2 = .notified

end Shutdown

namespace Server

inductive Act
  | createSession (i : ℕ) (sessionId workingDirectory : String) (host : Host)
      (mode : InterruptMode) (connection : KernelConnection)
  | session (i : ℕ) (a : Lifetime.Act)
  /-- A client connects to the session or disconnects from it. -/
  | setConnected (i : ℕ) (connected : Bool)
  /-- `delete_session` finds the session exited. -/
  | checkExited (i : ℕ)
  | deleteSession (i : ℕ)
  /-- A shutdown begins, on the sessions of the server at that moment. -/
  | shutdown (c : ℕ) (idle : Bool)
  | readStatus (c : ℕ)
  /-- Spawn the waiting task. -/
  | spawnWait (c : ℕ)
  /-- The waiting task registers for the exit of the next session. -/
  | listen (c : ℕ)
  /-- Ask the next session to shut down. -/
  | ask (c : ℕ) (msgId : String)
  /-- A session could not be asked: the shutdown fails. -/
  | askFails (c : ℕ)
  /-- All sessions have exited; exit the server. -/
  | exit (c : ℕ)

def setSession (s : Server) (i : ℕ) (session : Lifetime) : Server :=
  { s with session := Function.update s.session i (some session) }

def setShutdown (s : Server) (c : ℕ) (call : Shutdown) : Server :=
  { s with shutdown := Function.update s.shutdown c (some call) }

def runs (status : Status) : Bool := status ≠ .exited && status ≠ .uninitialized

/-- A session's status is read: the session is listed, passed over, or keeps the
server from being idle. -/
def readStatus (s : Server) (c : ℕ) (call : Shutdown) (i : ℕ) (rest : List ℕ)
    (session : Lifetime) : Server :=
  if call.idle && (session.kernel.status = .busy || session.kernel.connected) then
    s.setShutdown c { call with running := [], pc := .returned }
  else if runs session.kernel.status then
    s.setShutdown c
      { call with running := call.running ++ [(i, .unregistered)], pc := .reading rest }
  else s.setShutdown c { call with pc := .reading rest }

def step (D : Codecs) (s : Server) (a : Act) : Option Server :=
  if s.exited then none
  else
    match a with
    | .createSession i sessionId workingDirectory host mode connection =>
        match s.session i with
        | none => some { s.setSession i
            (Lifetime.init sessionId workingDirectory host mode connection) with
            kernelSessions := s.kernelSessions ++ [i] }
        | some _ => none
    | .session i a =>
        (s.session i).bind fun session => (session.step D a).map fun session =>
          { s.setSession i session with
            shutdown :=
              if a.notifiesExit then fun c => (s.shutdown c).map (·.wake i) else s.shutdown }
    | .setConnected i connected =>
        (s.session i).map fun session =>
          s.setSession i { session with kernel := { session.kernel with connected } }
    | .checkExited i =>
        (s.session i).bind fun session =>
          if session.kernel.status = .exited then some { s with deleting := i :: s.deleting }
          else none
    | .deleteSession i =>
        if i ∈ s.deleting then some { s with kernelSessions := s.kernelSessions.erase i }
        else none
    | .shutdown c idle =>
        match s.shutdown c with
        | none => some (s.setShutdown c (.new idle s.kernelSessions))
        | some _ => none
    | .readStatus c =>
        (s.shutdown c).bind fun call =>
          match call.pc with
          | .reading (i :: rest) => (s.session i).map fun session =>
              s.readStatus c call i rest session
          | _ => none
    | .spawnWait c =>
        (s.shutdown c).bind fun call =>
          match call.pc with
          | .reading [] =>
              some (s.setShutdown c { call with pc := .asking (call.running.map Prod.fst) })
          | _ => none
    | .listen c =>
        (s.shutdown c).bind fun call =>
          match call.pc with
          | .asking _ => (Shutdown.registerNext call.running).map fun running =>
              s.setShutdown c { call with running }
          | _ => none
    | .ask c msgId =>
        (s.shutdown c).bind fun call =>
          match call.pc with
          | .asking (i :: rest) => (s.session i).map fun session =>
              (s.setSession i (session.enqueue
                { msg := shutdownRequest msgId false, poster := .client })).setShutdown c
                  { call with pc := .asking rest }
          | _ => none
    | .askFails c =>
        (s.shutdown c).bind fun call =>
          match call.pc with
          | .asking (_ :: _) => some (s.setShutdown c { call with pc := .asking [] })
          | _ => none
    | .exit c =>
        (s.shutdown c).bind fun call =>
          match call.pc with
          | .asking _ => if call.allExited then some { s with exited := true } else none
          | _ => none

def machine (D : Codecs) : Machine Server Act := ⟨step D⟩

def init : Server where
  kernelSessions := []
  session := fun _ => none
  deleting := []
  shutdown := fun _ => none
  exited := false

variable {D : Codecs}

/-- The steps with the states they lead to. -/
inductive Took (D : Codecs) (s : Server) : Act → Server → Prop
  | createSession (i : ℕ) (sessionId workingDirectory : String) (host : Host)
      (mode : InterruptMode) (connection : KernelConnection) (hnone : s.session i = none) :
      Took D s (.createSession i sessionId workingDirectory host mode connection)
        { s.setSession i (Lifetime.init sessionId workingDirectory host mode connection) with
          kernelSessions := s.kernelSessions ++ [i] }
  | session (i : ℕ) (a : Lifetime.Act) (u v : Lifetime) (hu : s.session i = some u)
      (hv : u.step D a = some v) :
      Took D s (.session i a)
        { s.setSession i v with
          shutdown :=
            if a.notifiesExit then fun c => (s.shutdown c).map (·.wake i) else s.shutdown }
  | setConnected (i : ℕ) (connected : Bool) (u : Lifetime) (hu : s.session i = some u) :
      Took D s (.setConnected i connected)
        (s.setSession i { u with kernel := { u.kernel with connected } })
  | checkExited (i : ℕ) (u : Lifetime) (hu : s.session i = some u)
      (hstatus : u.kernel.status = .exited) :
      Took D s (.checkExited i) { s with deleting := i :: s.deleting }
  | deleteSession (i : ℕ) (hdeleting : i ∈ s.deleting) :
      Took D s (.deleteSession i) { s with kernelSessions := s.kernelSessions.erase i }
  | shutdown (c : ℕ) (idle : Bool) (hnone : s.shutdown c = none) :
      Took D s (.shutdown c idle) (s.setShutdown c (.new idle s.kernelSessions))
  | readStatus (c : ℕ) (call : Shutdown) (i : ℕ) (rest : List ℕ) (u : Lifetime)
      (hcall : s.shutdown c = some call) (hpc : call.pc = .reading (i :: rest))
      (hu : s.session i = some u) :
      Took D s (.readStatus c) (s.readStatus c call i rest u)
  | spawnWait (c : ℕ) (call : Shutdown) (hcall : s.shutdown c = some call)
      (hpc : call.pc = .reading []) :
      Took D s (.spawnWait c)
        (s.setShutdown c { call with pc := .asking (call.running.map Prod.fst) })
  | listen (c : ℕ) (call : Shutdown) (running : List (ℕ × Listener))
      (hcall : s.shutdown c = some call)
      (hrunning : Shutdown.registerNext call.running = some running) :
      Took D s (.listen c) (s.setShutdown c { call with running })
  | ask (c : ℕ) (msgId : String) (call : Shutdown) (i : ℕ) (rest : List ℕ) (u : Lifetime)
      (hcall : s.shutdown c = some call) (hpc : call.pc = .asking (i :: rest))
      (hu : s.session i = some u) :
      Took D s (.ask c msgId)
        ((s.setSession i (u.enqueue
          { msg := shutdownRequest msgId false, poster := .client })).setShutdown c
            { call with pc := .asking rest })
  | askFails (c : ℕ) (call : Shutdown) (hcall : s.shutdown c = some call) :
      Took D s (.askFails c) (s.setShutdown c { call with pc := .asking [] })
  | exit (c : ℕ) (call : Shutdown) (hcall : s.shutdown c = some call)
      (hexited : call.allExited = true) : Took D s (.exit c) { s with exited := true }

theorem step_took {s t : Server} {a : Act} (h : s.step D a = some t) : Took D s a t := by
  unfold step at h
  split at h
  · cases h
  cases a with
  | createSession i sessionId workingDirectory host mode connection =>
      simp only at h
      split at h
      · rename_i hnone
        cases h
        exact .createSession i sessionId workingDirectory host mode connection hnone
      · cases h
  | session i a =>
      obtain ⟨u, hu, h⟩ := Option.bind_eq_some_iff.mp h
      obtain ⟨v, hv, rfl⟩ := Option.map_eq_some_iff.mp h
      exact .session i a u v hu hv
  | setConnected i connected =>
      obtain ⟨u, hu, rfl⟩ := Option.map_eq_some_iff.mp h
      exact .setConnected i connected u hu
  | checkExited i =>
      obtain ⟨u, hu, h⟩ := Option.bind_eq_some_iff.mp h
      obtain ⟨hstatus, h⟩ := Option.ite_none_right_eq_some.mp h
      cases h
      exact .checkExited i u hu hstatus
  | deleteSession i =>
      obtain ⟨hdeleting, h⟩ := Option.ite_none_right_eq_some.mp h
      cases h
      exact .deleteSession i hdeleting
  | shutdown c idle =>
      simp only at h
      split at h
      · rename_i hnone
        cases h
        exact .shutdown c idle hnone
      · cases h
  | readStatus c =>
      obtain ⟨call, hcall, h⟩ := Option.bind_eq_some_iff.mp h
      split at h
      · rename_i i rest hpc
        obtain ⟨u, hu, rfl⟩ := Option.map_eq_some_iff.mp h
        exact .readStatus c call i rest u hcall hpc hu
      · cases h
  | spawnWait c =>
      obtain ⟨call, hcall, h⟩ := Option.bind_eq_some_iff.mp h
      split at h
      · rename_i hpc
        cases h
        exact .spawnWait c call hcall hpc
      · cases h
  | listen c =>
      obtain ⟨call, hcall, h⟩ := Option.bind_eq_some_iff.mp h
      split at h
      · obtain ⟨running, hrunning, rfl⟩ := Option.map_eq_some_iff.mp h
        exact .listen c call running hcall hrunning
      · cases h
  | ask c msgId =>
      obtain ⟨call, hcall, h⟩ := Option.bind_eq_some_iff.mp h
      split at h
      · rename_i i rest hpc
        obtain ⟨u, hu, rfl⟩ := Option.map_eq_some_iff.mp h
        exact .ask c msgId call i rest u hcall hpc hu
      · cases h
  | askFails c =>
      obtain ⟨call, hcall, h⟩ := Option.bind_eq_some_iff.mp h
      split at h
      · cases h
        exact .askFails c call hcall
      · cases h
  | exit c =>
      obtain ⟨call, hcall, h⟩ := Option.bind_eq_some_iff.mp h
      split at h
      · obtain ⟨hexited, h⟩ := Option.ite_none_right_eq_some.mp h
        cases h
        exact .exit c call hcall hexited
      · cases h

/-! ## The sessions and those who wait for them -/

/-- The step is one of the session's own. -/
def Steps (j : ℕ) : Act → Prop
  | .session i _ => i = j
  | _ => False

inductive SessionChange (D : Codecs) (j : ℕ) (u v : Lifetime) (a : Act) : Prop
  | same (hact : ¬ Steps j a) (h : v.incarnation = u.incarnation)
  | stepped (b : Lifetime.Act) (hact : a = .session j b) (h : u.step D b = some v)

@[simp] theorem setSession_self (s : Server) (i : ℕ) (session : Lifetime) :
    (s.setSession i session).session i = some session := by
  simp [setSession]

theorem setSession_of_ne (s : Server) {i j : ℕ} (session : Lifetime) (h : j ≠ i) :
    (s.setSession i session).session j = s.session j := by
  simp [setSession, h]

theorem sessionChange_of_set {s t : Server} {a : Act} {i j : ℕ} {u v w : Lifetime}
    (hact : ¬ Steps j a) (ht : t.session = (s.setSession i w).session)
    (hi : s.session i = some v) (hw : w.incarnation = v.incarnation)
    (hj : s.session j = some u) : ∃ v, t.session j = some v ∧ SessionChange D j u v a := by
  by_cases hij : j = i
  · subst hij
    obtain rfl : u = v := Option.some.inj (hj.symm.trans hi)
    exact ⟨w, by rw [ht, setSession_self], .same hact hw⟩
  · exact ⟨u, by rw [ht, setSession_of_ne s w hij, hj], .same hact rfl⟩

/-- A session changes by its own steps, and else only in what clients and the
server write. -/
theorem step_session {s t : Server} {a : Act} (h : s.step D a = some t) {j : ℕ} {u : Lifetime}
    (hj : s.session j = some u) :
    ∃ v, t.session j = some v ∧ SessionChange D j u v a := by
  cases step_took h with
  | createSession i sessionId workingDirectory host mode connection hnone =>
      have hne : j ≠ i := by
        rintro rfl
        cases hnone.symm.trans hj
      exact ⟨u, (setSession_of_ne s _ hne).trans hj, .same id rfl⟩
  | session i b u' v hu' hv =>
      by_cases hij : j = i
      · subst hij
        obtain rfl : u' = u := Option.some.inj (hu'.symm.trans hj)
        exact ⟨v, setSession_self s j v, .stepped b rfl hv⟩
      · exact ⟨u, (setSession_of_ne s v hij).trans hj, .same (Ne.symm hij) rfl⟩
  | setConnected i connected u' hu' => exact sessionChange_of_set id rfl hu' (by rfl) hj
  | ask c msgId call i rest u' hcall hpc hu' =>
      exact sessionChange_of_set id rfl hu' (by rfl) hj
  | readStatus c call i rest u' hcall hpc hu' =>
      refine ⟨u, Eq.trans ?_ hj, .same id rfl⟩
      unfold readStatus
      split
      · rfl
      · split <;> rfl
  | checkExited | deleteSession | shutdown | spawnWait | listen | askFails | exit =>
      exact ⟨u, hj, .same id rfl⟩

def creating (i : ℕ) : Act :=
  .createSession i "s" "/" sampleHost .signal WireMessage.sampleConnection

/-- A client shuts the server down, up to the point where all there is to do is
wait. -/
def shuttingDown (c : ℕ) : List Act :=
  [.shutdown c false, .readStatus c, .spawnWait c, .listen c, .ask c "x"]

end Server

end Kallichore
