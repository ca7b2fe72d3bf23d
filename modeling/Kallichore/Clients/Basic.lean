import Kallichore.KernelState.Basic
import Kallichore.Lib.Event
import Kallichore.Lib.Machine

/-!
# The clients of a session

A session has one client at a time. The server keeps a list of the clients of all
sessions, and a connection, whether it is a websocket upgrade or comes over a domain
socket, first takes the client it finds there for its session out of the list and
notifies it. It enters the list itself in a later step, and another one marks the
session as connected and begins the loop that reads the session's channel.

The loop of a client listens for its notification only while it waits in `select!`, where
it chooses freely among what is ready, and registers anew in every round. When it ends it
marks the session as disconnected, whoever else has attached meanwhile.

One session's clients are followed here, by the number of their connection. What the
connections for other sessions do to the list is left open.
-/

namespace Kallichore

/-- A message that a client sends over its websocket. -/
inductive ClientMessage
  | text (data : String)
  | ping
  | pong (data : List UInt8)
  | binary
  | frame
  | close
  deriving DecidableEq, Repr

inductive FromSocket
  | failed
  | ended
  | message (m : ClientMessage)
  deriving DecidableEq, Repr

def FromSocket.breaks : FromSocket → Bool
  | .failed | .ended => true
  | .message (.text data) => data.isEmpty
  | .message .close => true
  | .message _ => false

/-- The number that eight bytes are, the first of them the most significant. -/
def fromBeBytes (data : List UInt8) : UInt64 :=
  data.foldl (fun n byte => n * 256 + byte.toUInt64) 0

inductive ClientPc
  /-- It has replaced the client that was there, and is not in the list. -/
  | arriving
  /-- It is in the list, and has not begun its loop. -/
  | listed
  /-- In its loop, where it listens in `select!` only. -/
  | looping (listener : Listener)
  /-- It tells its client that another one is connecting. -/
  | disconnecting
  /-- Its loop has ended, and it is to mark the session as disconnected. -/
  | closing
  | gone
  deriving DecidableEq, Repr

structure ClientSession where
  socketPath : Option String
  pc : ClientPc
  pingOutbound : UInt64
  pongInbound : UInt64
  /-- It was notified that another client replaces it. -/
  replaced : Bool
  deriving DecidableEq, Repr

namespace ClientSession

def new (socketPath : Option String) : ClientSession where
  socketPath := socketPath
  pc := .arriving
  pingOutbound := 0
  pongInbound := 0
  replaced := false

/-- `disconnect.notify(usize::MAX)`. -/
def notify (c : ClientSession) : ClientSession :=
  { c with
    pc := match c.pc with
      | .looping listener => .looping listener.notify
      | pc => pc
    replaced := true }

/-- The client has not answered the last pings. -/
def lost (c : ClientSession) : Bool := 3 < c.pingOutbound - c.pongInbound

/-- A step that only the client itself takes part in. -/
inductive Turn
  /-- The upgrade fails, or the session is gone. -/
  | fail
  /-- A connection over a domain socket brings no websocket. -/
  | abandon
  /-- The loop arrives at `select!`. -/
  | listen
  | fromSocket (out : FromSocket)
  /-- The timer for pings, and whether the ping can be sent. -/
  | tick (sent : Bool)
  | disconnect
  deriving DecidableEq, Repr

/-- What the loop does with what it reads from the websocket. -/
def handleSocket (c : ClientSession) (out : FromSocket) : ClientSession :=
  if out.breaks then { c with pc := .closing }
  else
    match out with
    | .message (.pong data) =>
        if data.length = 8 then
          { c with pc := .looping .unregistered, pongInbound := fromBeBytes data }
        else { c with pc := .looping .unregistered }
    | _ => { c with pc := .looping .unregistered }

def handleTick (c : ClientSession) (sent : Bool) : ClientSession :=
  if c.lost then { c with pc := .closing }
  else
    { c with
      pc := if sent then .looping .unregistered else .closing
      pingOutbound := c.pingOutbound + 1 }

/-- The client waits in `select!`. -/
def selecting (c : ClientSession) : Bool :=
  c.pc = .looping .registered ∨ c.pc = .looping .notified

def turn (c : ClientSession) : Turn → Option ClientSession
  | .fail => if c.pc = .arriving then some { c with pc := .gone } else none
  | .abandon =>
      if c.pc = .listed ∧ c.socketPath.isSome then some { c with pc := .gone } else none
  | .listen =>
      if c.pc = .looping .unregistered then some { c with pc := .looping .registered } else none
  | .fromSocket out => if c.selecting then some (c.handleSocket out) else none
  | .tick sent => if c.selecting then some (c.handleTick sent) else none
  | .disconnect =>
      if c.pc = .looping .notified then some { c with pc := .disconnecting } else none

end ClientSession

/-- An entry of the server's list of clients. -/
structure ClientEntry where
  sessionId : String
  client : ℕ
  deriving DecidableEq, Repr

structure SessionClients where
  sessionId : String
  /-- The server's list, with the clients of all sessions. -/
  clientSessions : List ClientEntry
  /-- This session's clients, by number. -/
  clients : List ClientSession
  wsJson : List WebsocketMessage
  connected : Bool
  clientSocketPath : Option String

namespace SessionClients

inductive Act
  /-- A request to upgrade to a websocket (`handle_channels_websocket_request`). -/
  | upgrade
  /-- A connection to the domain socket with this path
  (`handle_domain_socket_connections`). -/
  | accept (path : String)
  /-- The client enters the list. -/
  | enlist (n : ℕ)
  /-- `handle_websocket_stream` begins. -/
  | attach (n : ℕ)
  | turn (n : ℕ) (t : ClientSession.Turn)
  /-- The loop takes a message off the channel and sends it to the client. -/
  | recv (n : ℕ)
  /-- The client is told that another one is connecting, if that can be sent. -/
  | sendClose (n : ℕ) (sent : Bool)
  /-- `handle_websocket_stream` ends. -/
  | detach (n : ℕ)
  /-- A message is put on the channel. -/
  | put (message : WebsocketMessage)
  /-- A connection for another session. -/
  | otherArrives (sessionId : String)
  | otherEnlists (entry : ClientEntry)

def client (s : SessionClients) (n : ℕ) : Option ClientSession := s.clients[n]?

def setClient (s : SessionClients) (n : ℕ) (c : ClientSession) : SessionClients :=
  { s with clients := s.clients.set n c }

/-- The client of the session that is found in the list. -/
def existing (s : SessionClients) : Option ℕ :=
  (s.clientSessions.find? fun entry => entry.sessionId = s.sessionId).map ClientEntry.client

/-- Notify the client that is there and take it out of the list. -/
def disconnectExisting (s : SessionClients) : SessionClients :=
  match s.existing with
  | some n =>
      { s with
        clientSessions := s.clientSessions.eraseP fun entry => entry.sessionId = s.sessionId
        clients := s.clients.modify n ClientSession.notify }
  | none => s

/-- A connection, up to where it has replaced the client that was there. -/
def arrive (s : SessionClients) (socketPath : Option String) : SessionClients :=
  let t := s.disconnectExisting
  { t with clients := t.clients ++ [ClientSession.new socketPath] }

def step (s : SessionClients) : Act → Option SessionClients
  | .upgrade => some (s.arrive none)
  | .accept path =>
      -- The connections to one domain socket enter the list one after the other.
      if s.clients.any fun c => c.pc = .arriving ∧ c.socketPath = some path then none
      else some (s.arrive (some path))
  | .enlist n =>
      match s.client n with
      | some c =>
          if c.pc = .arriving then
            let t := s.setClient n { c with pc := .listed }
            some { t with clientSessions := s.clientSessions ++ [⟨s.sessionId, n⟩] }
          else none
      | none => none
  | .attach n =>
      match s.client n with
      | some c =>
          if c.pc = .listed then
            let t := s.setClient n { c with pc := .looping .unregistered }
            some { t with connected := true, clientSocketPath := c.socketPath }
          else none
      | none => none
  | .turn n t =>
      match s.client n with
      | some c => (c.turn t).map (s.setClient n)
      | none => none
  | .recv n =>
      match s.client n, s.wsJson with
      | some c, _ :: rest =>
          if c.selecting then
            let t := s.setClient n { c with pc := .looping .unregistered }
            some { t with wsJson := rest }
          else none
      | _, _ => none
  | .sendClose n sent =>
      match s.client n with
      | some c =>
          if c.pc = .disconnecting then
            -- A message that cannot be sent is a panic in the client's task.
            some (s.setClient n { c with pc := if sent then .closing else .gone })
          else none
      | none => none
  | .detach n =>
      match s.client n with
      | some c =>
          if c.pc = .closing then
            let t := s.setClient n { c with pc := .gone }
            some { t with connected := false, clientSocketPath := none }
          else none
      | none => none
  | .put message => some { s with wsJson := s.wsJson ++ [message] }
  | .otherArrives sessionId =>
      if sessionId = s.sessionId then none
      else
        some { s with
          clientSessions := s.clientSessions.eraseP fun entry => entry.sessionId = sessionId }
  | .otherEnlists entry =>
      if entry.sessionId = s.sessionId then none
      else some { s with clientSessions := s.clientSessions ++ [entry] }

def machine : Machine SessionClients Act := ⟨step⟩

/-- A session that nobody has connected to. -/
def init (sessionId : String) : SessionClients where
  sessionId := sessionId
  clientSessions := []
  clients := []
  wsJson := []
  connected := false
  clientSocketPath := none

inductive Change (s : SessionClients) : Act → SessionClients → Prop
  | upgrade : Change s .upgrade (s.arrive none)
  | accept (path : String) : Change s (.accept path) (s.arrive (some path))
  | enlist {n : ℕ} {c : ClientSession} (hc : s.client n = some c) (hpc : c.pc = .arriving) :
      Change s (.enlist n)
        { s.setClient n { c with pc := .listed } with
          clientSessions := s.clientSessions ++ [⟨s.sessionId, n⟩] }
  | attach {n : ℕ} {c : ClientSession} (hc : s.client n = some c) (hpc : c.pc = .listed) :
      Change s (.attach n)
        { s.setClient n { c with pc := .looping .unregistered } with
          connected := true, clientSocketPath := c.socketPath }
  | turn {n : ℕ} {c d : ClientSession} {a : ClientSession.Turn} (hc : s.client n = some c)
      (hd : c.turn a = some d) : Change s (.turn n a) (s.setClient n d)
  | recv {n : ℕ} {c : ClientSession} {message : WebsocketMessage} {rest : List WebsocketMessage}
      (hc : s.client n = some c) (hchannel : s.wsJson = message :: rest)
      (hselecting : c.selecting = true) :
      Change s (.recv n)
        { s.setClient n { c with pc := .looping .unregistered } with wsJson := rest }
  | sendClose {n : ℕ} {c : ClientSession} {sent : Bool} (hc : s.client n = some c)
      (hpc : c.pc = .disconnecting) :
      Change s (.sendClose n sent)
        (s.setClient n { c with pc := if sent then .closing else .gone })
  | detach {n : ℕ} {c : ClientSession} (hc : s.client n = some c) (hpc : c.pc = .closing) :
      Change s (.detach n)
        { s.setClient n { c with pc := .gone } with connected := false, clientSocketPath := none }
  | put (message : WebsocketMessage) :
      Change s (.put message) { s with wsJson := s.wsJson ++ [message] }
  | otherArrives {sessionId : String} (hne : sessionId ≠ s.sessionId) :
      Change s (.otherArrives sessionId)
        { s with
          clientSessions := s.clientSessions.eraseP fun entry => entry.sessionId = sessionId }
  | otherEnlists {entry : ClientEntry} (hne : entry.sessionId ≠ s.sessionId) :
      Change s (.otherEnlists entry) { s with clientSessions := s.clientSessions ++ [entry] }

theorem change_of_step {s t : SessionClients} {a : Act} (h : s.step a = some t) :
    Change s a t := by
  cases a with
  | upgrade =>
      cases h
      exact .upgrade
  | accept path =>
      obtain ⟨-, h⟩ := Option.ite_none_left_eq_some.mp h
      cases h
      exact .accept path
  | enlist n =>
      simp only [step] at h
      split at h
      · obtain ⟨hpc, h⟩ := Option.ite_none_right_eq_some.mp h
        cases h
        exact .enlist ‹_› hpc
      · cases h
  | attach n =>
      simp only [step] at h
      split at h
      · obtain ⟨hpc, h⟩ := Option.ite_none_right_eq_some.mp h
        cases h
        exact .attach ‹_› hpc
      · cases h
  | turn n a =>
      simp only [step] at h
      split at h
      · obtain ⟨d, hd, rfl⟩ := Option.map_eq_some_iff.mp h
        exact .turn ‹_› hd
      · cases h
  | recv n =>
      simp only [step] at h
      split at h
      · obtain ⟨hselecting, h⟩ := Option.ite_none_right_eq_some.mp h
        cases h
        exact .recv ‹_› ‹_› hselecting
      · cases h
  | sendClose n sent =>
      simp only [step] at h
      split at h
      · obtain ⟨hpc, h⟩ := Option.ite_none_right_eq_some.mp h
        cases h
        exact .sendClose ‹_› hpc
      · cases h
  | detach n =>
      simp only [step] at h
      split at h
      · obtain ⟨hpc, h⟩ := Option.ite_none_right_eq_some.mp h
        cases h
        exact .detach ‹_› hpc
      · cases h
  | put message =>
      cases h
      exact .put message
  | otherArrives sessionId =>
      obtain ⟨hne, h⟩ := Option.ite_none_left_eq_some.mp h
      cases h
      exact .otherArrives hne
  | otherEnlists entry =>
      obtain ⟨hne, h⟩ := Option.ite_none_left_eq_some.mp h
      cases h
      exact .otherEnlists hne

end SessionClients

namespace ClientSession

/-! ## What a client is about -/

/-- The client's loop reads the session's channel. -/
def Reading (c : ClientSession) : Prop := ∃ listener, c.pc = .looping listener

/-- The client's loop reads the channel, and the client was not replaced. -/
def Current (c : ClientSession) : Prop := c.Reading ∧ c.replaced = false

/-- The client has marked the session as connected, and is to mark it as disconnected. -/
def Attached (c : ClientSession) : Prop :=
  c.Reading ∨ c.pc = .disconnecting ∨ c.pc = .closing

/-- The client's notification has woken it, or its loop has ended. -/
def Told (c : ClientSession) : Prop :=
  c.pc = .looping .notified ∨ c.pc = .disconnecting ∨ c.pc = .closing ∨ c.pc = .gone

/-- A notification finds the client in `select!`, or its loop has ended. -/
def Hears (c : ClientSession) : Prop :=
  c.selecting = true ∨ c.pc = .disconnecting ∨ c.pc = .closing ∨ c.pc = .gone

/-- A client that was replaced goes round its loop no more: it leaves where it does not
take the notification. -/
def Heeds (c : ClientSession) : Turn → Prop
  | .fromSocket out => c.replaced = true → out.breaks = true
  | .tick sent => c.replaced = true → c.lost = true ∨ sent = false
  | _ => True

theorem notify_reading_iff (c : ClientSession) : c.notify.Reading ↔ c.Reading := by
  simp only [Reading, notify]
  cases c.pc with
  | looping listener => exact iff_of_true ⟨_, rfl⟩ ⟨_, rfl⟩
  | _ => exact Iff.rfl

theorem notify_attached_iff (c : ClientSession) : c.notify.Attached ↔ c.Attached := by
  simp only [Attached, notify_reading_iff]
  simp only [notify]
  cases c.pc with
  | looping listener => simp
  | _ => exact Iff.rfl

theorem notify_told_iff (c : ClientSession) : c.notify.Told ↔ c.Hears := by
  simp only [Told, Hears, notify, selecting]
  cases c.pc with
  | looping listener => cases listener <;> simp
  | _ => simp

/-- The client neither attaches nor detaches, and does not begin to read. -/
structure Stays (c d : ClientSession) : Prop where
  socketPath : d.socketPath = c.socketPath
  replaced : d.replaced = c.replaced
  reading : d.Reading → c.Reading
  attached : d.Attached ↔ c.Attached

theorem reading_of_selecting {c : ClientSession} (h : c.selecting = true) : c.Reading := by
  simp only [selecting, decide_eq_true_eq] at h
  rcases h with h | h
  · exact ⟨_, h⟩
  · exact ⟨_, h⟩

@[simp] theorem handleSocket_pc (c : ClientSession) (out : FromSocket) :
    (c.handleSocket out).pc = if out.breaks then .closing else .looping .unregistered := by
  simp only [handleSocket]
  repeat' split
  all_goals rfl

@[simp] theorem handleSocket_socketPath (c : ClientSession) (out : FromSocket) :
    (c.handleSocket out).socketPath = c.socketPath := by
  simp only [handleSocket]
  repeat' split
  all_goals rfl

@[simp] theorem handleSocket_replaced (c : ClientSession) (out : FromSocket) :
    (c.handleSocket out).replaced = c.replaced := by
  simp only [handleSocket]
  repeat' split
  all_goals rfl

@[simp] theorem handleTick_pc (c : ClientSession) (sent : Bool) :
    (c.handleTick sent).pc =
      if c.lost || !sent then .closing else .looping .unregistered := by
  simp only [handleTick]
  split
  next hlost => simp [hlost]
  next hlost => cases sent <;> simp [hlost]

@[simp] theorem handleTick_socketPath (c : ClientSession) (sent : Bool) :
    (c.handleTick sent).socketPath = c.socketPath := by
  simp only [handleTick]
  split
  · rfl
  · rfl

@[simp] theorem handleTick_replaced (c : ClientSession) (sent : Bool) :
    (c.handleTick sent).replaced = c.replaced := by
  simp only [handleTick]
  split
  · rfl
  · rfl

theorem stays_of_round {c d : ClientSession} {ends : Bool} (hreading : c.Reading)
    (hpath : d.socketPath = c.socketPath) (hreplaced : d.replaced = c.replaced)
    (hpc : d.pc = if ends then .closing else .looping .unregistered) : Stays c d := by
  refine ⟨hpath, hreplaced, fun _ => hreading, ?_⟩
  refine iff_of_true ?_ (Or.inl hreading)
  cases ends with
  | true => exact Or.inr (Or.inr hpc)
  | false => exact Or.inl ⟨_, hpc⟩

theorem told_iff_of_round {d : ClientSession} {ends : Bool}
    (hpc : d.pc = if ends then .closing else .looping .unregistered) : d.Told ↔ ends = true := by
  cases ends with
  | true => simp [Told, hpc]
  | false => simp [Told, hpc]

theorem turn_stays {c d : ClientSession} {a : Turn} (h : c.turn a = some d) : Stays c d := by
  cases a with
  | fail =>
      obtain ⟨hpc, hd⟩ := Option.ite_none_right_eq_some.mp h
      cases hd
      exact ⟨rfl, rfl, by simp [Reading], by simp [Attached, Reading, hpc]⟩
  | abandon =>
      obtain ⟨⟨hpc, -⟩, hd⟩ := Option.ite_none_right_eq_some.mp h
      cases hd
      exact ⟨rfl, rfl, by simp [Reading], by simp [Attached, Reading, hpc]⟩
  | listen =>
      obtain ⟨hpc, hd⟩ := Option.ite_none_right_eq_some.mp h
      cases hd
      exact ⟨rfl, rfl, fun _ => ⟨_, hpc⟩, by simp [Attached, Reading, hpc]⟩
  | fromSocket out =>
      obtain ⟨hselecting, hd⟩ := Option.ite_none_right_eq_some.mp h
      cases hd
      exact stays_of_round (reading_of_selecting hselecting) (by simp) (by simp)
        (handleSocket_pc c out)
  | tick sent =>
      obtain ⟨hselecting, hd⟩ := Option.ite_none_right_eq_some.mp h
      cases hd
      exact stays_of_round (reading_of_selecting hselecting) (by simp) (by simp)
        (handleTick_pc c sent)
  | disconnect =>
      obtain ⟨hpc, hd⟩ := Option.ite_none_right_eq_some.mp h
      cases hd
      exact ⟨rfl, rfl, by simp [Reading], by simp [Attached, Reading, hpc]⟩

theorem turn_told_iff {c d : ClientSession} {a : Turn} (htold : c.replaced = true → c.Told)
    (h : c.turn a = some d) : (d.replaced = true → d.Told) ↔ c.Heeds a := by
  rw [(turn_stays h).replaced]
  cases a with
  | fail =>
      obtain ⟨hpc, hd⟩ := Option.ite_none_right_eq_some.mp h
      cases hd
      exact iff_of_true (fun _ => by simp [Told]) trivial
  | abandon =>
      obtain ⟨⟨hpc, -⟩, hd⟩ := Option.ite_none_right_eq_some.mp h
      cases hd
      exact iff_of_true (fun _ => by simp [Told]) trivial
  | listen =>
      obtain ⟨hpc, hd⟩ := Option.ite_none_right_eq_some.mp h
      cases hd
      refine iff_of_true (fun hreplaced => ?_) trivial
      have hlost := htold hreplaced
      simp [Told, hpc] at hlost
  | fromSocket out =>
      obtain ⟨-, hd⟩ := Option.ite_none_right_eq_some.mp h
      cases hd
      simp only [told_iff_of_round (handleSocket_pc c out), Heeds]
  | tick sent =>
      obtain ⟨-, hd⟩ := Option.ite_none_right_eq_some.mp h
      cases hd
      simp [told_iff_of_round (handleTick_pc c sent), Heeds]
  | disconnect =>
      obtain ⟨hpc, hd⟩ := Option.ite_none_right_eq_some.mp h
      cases hd
      exact iff_of_true (fun _ => by simp [Told]) trivial

end ClientSession

end Kallichore
