import Kallichore.Jupyter.Message
import Kallichore.Lib.LastMax
import Mathlib.Data.List.AList

/-!
# Workspace records

A workspace record holds the frontend channels of the windows looking at the
workspace, the command requests they have yet to answer and the agents connected
to it. This module embeds the operations on one record; the registry applies
them to the record it finds under a workspace ID.

A hash map is an association list without repeated keys. Nothing depends on the
order of its entries: where the source iterates over one, the order is an
argument. The ends of a channel are numbered by the task that holds the other
end: `window` is the connection that receives what is sent on a frontend
channel, `reply` the call that waits for an answer and `lease` the holder of a
client's cancellation token. What an operation does to them is returned as a
list of effects.
-/

namespace Kallichore

structure AgentCommandArg where
  name : String
  description : Option String
  required : Bool
  schema : Option Value

/-- A Positron command that agents are allowed to run. -/
structure AgentCommand where
  id : String
  description : String
  args : List AgentCommandArg
  returns : Option String

/-- The agent on whose behalf a command is being run. -/
structure AgentIdentity where
  name : Option String
  version : Option String

structure CommandRequest where
  id : String
  commandId : String
  args : List Value
  agent : AgentIdentity

structure CommandReply where
  id : String
  ok : Bool
  result : Option Value
  reason : Option String
  message : Option String

/-- An agent connected through the stdio bridge, as windows see it. -/
structure McpClient where
  id : Int32
  name : Option String
  version : Option String
  pid : Option ℤ
  workingDirectory : Option String
  sessionId : Option String
  connectedAt : ℕ

/-- What a window says when its channel connects. -/
structure FrontendHello where
  positronVersion : Option String
  commands : List AgentCommand
  guide : List (String × String)
  sessionIds : List String
  foregroundSessionId : Option String
  focused : Bool

inductive FrontendMessage
  | hello (hello : FrontendHello)
  | commandsChanged (commands : List AgentCommand) (guide : List (String × String))
  | foregroundChanged (sessionId : Option String)
  | sessionsChanged (sessionIds : List String)
  | focused
  | commandReply (reply : CommandReply)

/-- Whether the message makes its window the focused one. -/
def FrontendMessage.focuses : FrontendMessage → Bool
  | .hello opening => opening.focused
  | .focused => true
  | _ => false

inductive ServerFrontendMessage
  | commandRequest (request : CommandRequest)
  | clientsChanged (clients : List McpClient)

structure FrontendChannel where
  /-- Identifies the channel for the lifetime of the record. Generations and ranks of focus
  are natural numbers here: their 64 bits outlast the 2 ^ 64 events that would use them up. -/
  generation : ℕ
  /-- When the window last took focus; the highest wins command brokering. -/
  focusSeq : ℕ
  /-- The connection at the other end. -/
  window : ℕ
  /-- The receiver at the other end has not been dropped. -/
  alive : Bool
  deriving DecidableEq

/-- A command request waiting for an answer. -/
structure Pending where
  request : CommandRequest
  /-- The generation of the channel the request was handed to. -/
  servedBy : ℕ
  /-- The call that waits at the other end. -/
  reply : ℕ

/-- A connected agent, and the lease that keeps it listed. -/
structure Client where
  info : McpClient
  lease : ℕ

structure Workspace where
  displayName : String
  token : String
  positronVersion : Option String
  commands : List AgentCommand
  guide : List (String × String)
  /-- The sessions this workspace says it holds. -/
  sessionIds : List String
  foregroundSessionId : Option String
  disconnectedSince : Option ℕ
  nextGeneration : ℕ
  nextFocusSeq : ℕ
  channels : List FrontendChannel
  pending : AList fun _ : String => Pending
  /-- The connected agents, oldest first. -/
  clients : List Client
  /-- The ID given last. It wraps around, as machine integers do. -/
  nextClientId : Int32

/-- What an operation does outside the record. -/
inductive Effect
  /-- The channel accepted the message. -/
  | sent (generation window : ℕ) (message : ServerFrontendMessage)
  /-- The call was handed its reply. -/
  | replied (call : ℕ) (reply : CommandReply)
  /-- The sender of the call's reply was dropped. -/
  | dropped (call : ℕ)
  /-- The cancellation token of the lease was cancelled. -/
  | cancelled (lease : ℕ)

namespace Workspace

/-- The record of a workspace that was not registered before. -/
def new (displayName token : String) : Workspace where
  displayName := displayName
  token := token
  positronVersion := none
  commands := []
  guide := []
  sessionIds := []
  foregroundSessionId := none
  disconnectedSince := none
  nextGeneration := 0
  nextFocusSeq := 0
  channels := []
  pending := ∅
  clients := []
  nextClientId := 0

def connected (w : Workspace) : Bool := !w.channels.isEmpty

/-- The index of the channel commands should go to. `max_by_key` returns the last
of several maxima. -/
def primary (channels : List FrontendChannel) : Option ℕ :=
  (lastMax (fun entry => entry.1.focusSeq) channels.zipIdx).map Prod.snd

/-- Attach a channel; its generation is the new `nextGeneration`. -/
def attach (w : Workspace) (window : ℕ) : Workspace :=
  { w with
    nextGeneration := w.nextGeneration + 1
    channels := w.channels ++
      [{ generation := w.nextGeneration + 1, focusSeq := 0, window, alive := true }]
    disconnectedSince := none }

/-- Set the focus sequence of the first channel with this generation. -/
def setFocusSeq (generation focusSeq : ℕ) : List FrontendChannel → List FrontendChannel
  | [] => []
  | channel :: channels =>
      if channel.generation = generation then { channel with focusSeq } :: channels
      else channel :: setFocusSeq generation focusSeq channels

/-- Make a channel's window the one commands go to. The sequence number is taken
whether or not there is such a channel. -/
def focus (w : Workspace) (generation : ℕ) : Workspace :=
  { w with
    nextFocusSeq := w.nextFocusSeq + 1
    channels := setFocusSeq generation (w.nextFocusSeq + 1) w.channels }

def clientList (w : Workspace) : List McpClient := w.clients.map Client.info

/-- Send a message to every channel; those that have died do not accept it. -/
def broadcastClients (w : Workspace) : List Effect :=
  (w.channels.filter FrontendChannel.alive).map fun channel =>
    .sent channel.generation channel.window (.clientsChanged w.clientList)

/-- The loop of `dispatch`: try the primary channel, discard it if it has died.
There is no result when the turns run out. -/
def dispatchLoop : ℕ → List FrontendChannel →
    Option (List FrontendChannel × Option FrontendChannel)
  | 0, _ => none
  | turns + 1, channels =>
      match primary channels with
      | none => some (channels, none)
      | some index =>
          match channels[index]? with
          | none => none
          | some channel =>
              if channel.alive then some (channels, some channel)
              else dispatchLoop turns (channels.eraseIdx index)

/-- Hand a request to the window commands should go to. Gives the generation of
the channel that took it. -/
def dispatch (w : Workspace) (request : CommandRequest) :
    Workspace × Option ℕ × List Effect :=
  let (channels, taker) :=
    (dispatchLoop (w.channels.length + 1) w.channels).getD (w.channels, none)
  ({ w with channels }, taker.map FrontendChannel.generation,
    taker.toList.map fun channel =>
      .sent channel.generation channel.window (.commandRequest request))

/-- Record a connecting agent; its ID is the new `nextClientId`. -/
def addClient (w : Workspace) (lease now : ℕ) (info : McpClient) : Workspace × List Effect :=
  let w := { w with
    nextClientId := w.nextClientId + 1
    clients := w.clients ++
      [{ info := { info with id := w.nextClientId + 1, connectedAt := now }, lease }] }
  (w, w.broadcastClients)

/-- Take the first client with this ID out, if there is one. -/
def removeClient (w : Workspace) (id : Int32) : Workspace × List Effect :=
  match w.clients.findIdx? fun client => client.info.id == id with
  | none => (w, [])
  | some index =>
      let w := { w with clients := w.clients.eraseIdx index }
      (w, w.broadcastClients)

/-- The IDs of the requests a channel is serving. -/
def orphaned (w : Workspace) (generation : ℕ) : List String :=
  (w.pending.entries.filter fun entry => entry.2.servedBy == generation).map Sigma.fst

/-- Move the request with this ID to another window, or drop its reply sender. -/
def redispatch (w : Workspace) (id : String) : Workspace × List Effect :=
  match w.pending.lookup id with
  | none => (w, [])
  | some pending =>
      match { w with pending := w.pending.erase id }.dispatch pending.request with
      | (w, some servedBy, effects) =>
          ({ w with pending := w.pending.insert id { pending with servedBy } }, effects)
      | (w, none, effects) => (w, effects ++ [.dropped pending.reply])

/-- The receivers of these windows are dropped. -/
def dropReceivers (w : Workspace) (windows : List ℕ) : Workspace :=
  { w with channels := w.channels.map fun channel =>
      if channel.window ∈ windows then { channel with alive := false } else channel }

/-- The loop of `detach_channel` over the requests of the departing window, in
some order. A receiver may be dropped at any moment of it: each request comes
with the windows whose receivers went since the one before. -/
def redispatchAll (w : Workspace) : List (List ℕ × String) → Workspace × List Effect
  | [] => (w, [])
  | (windows, id) :: orphans =>
      let (w, effects) := (w.dropReceivers windows).redispatch id
      let (w, more) := w.redispatchAll orphans
      (w, effects ++ more)

def detachChannel (w : Workspace) (now generation : ℕ) (orphans : List (List ℕ × String)) :
    Workspace × List Effect :=
  let w := { w with channels := w.channels.filter fun channel =>
    channel.generation != generation }
  let (w, effects) := w.redispatchAll orphans
  if w.connected then (w, effects)
  else
    ({ w with disconnectedSince := some now, pending := ∅ },
      effects ++ w.pending.entries.map fun entry => .dropped entry.2.reply)

/-- Apply a message received from a window over the given channel. -/
def handleMessage (w : Workspace) (generation : ℕ) : FrontendMessage → Workspace × List Effect
  | .hello hello =>
      let w := { w with
        positronVersion := hello.positronVersion
        commands := hello.commands
        guide := hello.guide
        sessionIds := hello.sessionIds
        foregroundSessionId := hello.foregroundSessionId }
      (if hello.focused then w.focus generation else w, [])
  | .commandsChanged commands guide => ({ w with commands, guide }, [])
  | .foregroundChanged sessionId => ({ w with foregroundSessionId := sessionId }, [])
  | .sessionsChanged sessionIds => ({ w with sessionIds }, [])
  | .focused => (w.focus generation, [])
  | .commandReply reply =>
      match w.pending.lookup reply.id with
      | none => (w, [])
      | some pending =>
          ({ w with pending := w.pending.erase reply.id }, [.replied pending.reply reply])

/-- Try to hand a request to one of the windows, on behalf of a call. Gives
whether there was one; a request already pending under this ID is replaced, and
its reply sender dropped. -/
def enqueue (w : Workspace) (now call : ℕ) (request : CommandRequest) :
    Workspace × Bool × List Effect :=
  match w.dispatch request with
  | (w, none, effects) =>
      ({ w with disconnectedSince := w.disconnectedSince <|> some now }, false, effects)
  | (w, some servedBy, effects) =>
      ({ w with pending := w.pending.insert request.id { request, servedBy, reply := call } },
        true, effects ++ (w.pending.lookup request.id).toList.map fun replaced =>
          .dropped replaced.reply)

def cancelPending (w : Workspace) (requestId : String) : Workspace × List Effect :=
  ({ w with pending := w.pending.erase requestId },
    (w.pending.lookup requestId).toList.map fun pending => .dropped pending.reply)

theorem mem_setFocusSeq {channels : List FrontendChannel} {generation seq : ℕ}
    (hsorted : channels.Pairwise fun c d => c.generation < d.generation) {c : FrontendChannel}
    (hc : c ∈ setFocusSeq generation seq channels) :
    ∃ d ∈ channels, c = if d.generation = generation then { d with focusSeq := seq } else d := by
  induction channels with
  | nil => cases hc
  | cons d channels ih =>
      obtain ⟨hlater, hsorted⟩ := List.pairwise_cons.mp hsorted
      rw [setFocusSeq] at hc
      split at hc
      · rename_i hd
        obtain rfl | hc := List.mem_cons.mp hc
        · exact ⟨d, List.mem_cons_self, by rw [if_pos hd]⟩
        · refine ⟨c, List.mem_cons_of_mem _ hc, ?_⟩
          have := hlater c hc
          rw [if_neg (by omega)]
      · rename_i hd
        obtain rfl | hc := List.mem_cons.mp hc
        · exact ⟨c, List.mem_cons_self, by rw [if_neg hd]⟩
        · obtain ⟨e, he, heq⟩ := ih hsorted hc
          exact ⟨e, List.mem_cons_of_mem _ he, heq⟩

theorem map_generation_setFocusSeq (channels : List FrontendChannel) (generation seq : ℕ) :
    (setFocusSeq generation seq channels).map FrontendChannel.generation =
      channels.map FrontendChannel.generation := by
  induction channels with
  | nil => rfl
  | cons d channels ih =>
      rw [setFocusSeq]
      split
      · rfl
      · rw [List.map_cons, List.map_cons, ih]

theorem mem_setFocusSeq_of_ne {channels : List FrontendChannel} {generation seq : ℕ}
    {c : FrontendChannel} (hc : c ∈ channels) (hne : c.generation ≠ generation) :
    c ∈ setFocusSeq generation seq channels := by
  induction channels with
  | nil => cases hc
  | cons d channels ih =>
      rw [setFocusSeq]
      obtain rfl | hc := List.mem_cons.mp hc
      · rw [if_neg hne]
        exact List.mem_cons_self
      · split
        · exact List.mem_cons_of_mem _ hc
        · exact List.mem_cons_of_mem _ (ih hc)

theorem mem_channels_attach {w : Workspace} {window : ℕ} {c : FrontendChannel} :
    c ∈ (w.attach window).channels ↔
      c ∈ w.channels ∨ c = ⟨w.nextGeneration + 1, 0, window, true⟩ := by
  simp [attach]

theorem exists_of_mem_focus {w : Workspace} {generation : ℕ} {c : FrontendChannel}
    (hsorted : w.channels.Pairwise fun c d => c.generation < d.generation)
    (hc : c ∈ (w.focus generation).channels) :
    ∃ d ∈ w.channels, c =
      if d.generation = generation then { d with focusSeq := w.nextFocusSeq + 1 } else d :=
  mem_setFocusSeq hsorted hc

theorem exists_of_mem_dropReceivers {w : Workspace} {windows : List ℕ} {c : FrontendChannel}
    (hc : c ∈ (w.dropReceivers windows).channels) :
    ∃ d ∈ w.channels, c = if d.window ∈ windows then { d with alive := false } else d := by
  obtain ⟨d, hd, rfl⟩ := List.mem_map.mp hc
  exact ⟨d, hd, rfl⟩

theorem sorted_of_map_eq {channels rest : List FrontendChannel}
    (hsorted : channels.Pairwise fun c d => c.generation < d.generation)
    (h : rest.map FrontendChannel.generation = channels.map FrontendChannel.generation) :
    rest.Pairwise fun c d => c.generation < d.generation := by
  have hmap := List.pairwise_map.mpr hsorted
  rw [← h] at hmap
  exact List.pairwise_map.mp hmap

theorem map_generation_dropReceivers (w : Workspace) (windows : List ℕ) :
    (w.dropReceivers windows).channels.map FrontendChannel.generation =
      w.channels.map FrontendChannel.generation := by
  rw [dropReceivers, List.map_map]
  apply List.map_congr_left
  intro c _
  simp only [Function.comp]
  split <;> rfl

theorem sorted_attach {w : Workspace} (window : ℕ)
    (hsorted : w.channels.Pairwise fun c d => c.generation < d.generation)
    (hissued : ∀ c ∈ w.channels, c.generation ≤ w.nextGeneration) :
    (w.attach window).channels.Pairwise fun c d => c.generation < d.generation := by
  simp only [attach, List.pairwise_append, List.pairwise_singleton, List.mem_singleton, true_and]
  refine ⟨hsorted, ?_⟩
  rintro c hc _ rfl
  exact Nat.lt_succ_of_le (hissued c hc)

end Workspace

end Kallichore
