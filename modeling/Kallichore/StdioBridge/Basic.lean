import Kallichore.Lib.Machine
import Kallichore.StdioBridge.Link
import Mathlib.Logic.Function.Basic

/-!
# The tasks of the stdio bridge

`run` reads the client's messages one by one. It handles `initialize` and
notifications itself, and starts a task for every other request; a further task
keeps the presence stream. All of them share the link, under a lock: what a task
does while it holds the lock is one step, also where it waits for the endpoint
meanwhile, because the other tasks can do nothing then but wait for replies of
their own. A request is posted without the lock, so its POST and the outcome are
steps between which anything may happen.

`lines` are the client's messages so far, and a request's task goes by its place
among them. `out` is what was written to the client, and where it came from;
`events` is what went to endpoints, and `outcomes` what came of the POSTs of each
request.
-/

namespace Kallichore

namespace StdioBridge

/-- What a request's task took from the link, for its POST. -/
structure Snapshot where
  endpoint : Endpoint
  sessionId : Option String
  protocolVersion : Option String
  generation : ℕ

inductive RequestPc
  /-- About to look at the link, for the attempt with this number. -/
  | looking (attempt : ℕ)
  | posting (attempt : ℕ) (snapshot : Snapshot)
  | awaiting (attempt : ℕ) (snapshot : Snapshot)
  /-- The POST was refused, and the link is to be renewed. -/
  | refused (attempt : ℕ) (generation : ℕ)
  /-- The attempts are over. -/
  | offline
  | finished

structure Request where
  message : Value
  pc : RequestPc

inductive PresencePc
  | absent
  /-- About to look at the link, with the connection that its stream ended on. -/
  | looking (stale : Option ℕ)
  /-- Holding a stream on a connection, or trying to. -/
  | holding (connection : Option ℕ)

/-- Where a message to the client comes from. -/
inductive Origin
  /-- A line that could not be parsed. -/
  | unparsed
  /-- The endpoint's reply to the message on this line. -/
  | relayed (line : ℕ)
  /-- The bridge, which answers the message on this line itself. -/
  | own (line : ℕ)
  deriving DecidableEq

structure Entry where
  origin : Origin
  message : Value

structure Bridge where
  link : Link
  requests : ℕ → Option Request
  presence : PresencePc
  lines : List Value
  out : List Entry
  events : List Event
  outcomes : List (ℕ × Status)

inductive Act
  /-- A line that is not JSON. -/
  | unparsed (error : String)
  | line (message : Value) (attempts : Attempt × Attempt)
  | look (request : ℕ) (attempts : Attempt × Attempt)
  | post (request : ℕ)
  | outcome (request : ℕ) (reply : Reply)
  | reconnect (request : ℕ) (attempts : Attempt × Attempt)
  | giveUp (request : ℕ)
  | lookPresence (attempts : Attempt × Attempt)
  | presenceEnded

def method (message : Value) : Option String := (message.get "method").bind Value.asStr

/-- The client's `initialize`. -/
def isInitialize (message : Value) : Bool :=
  method message == some "initialize" && (message.get "id").isSome

/-- A request of the client's other than `initialize`. -/
def isRequest (message : Value) : Bool :=
  (method message).isSome && (message.get "id").isSome && !isInitialize message

/-- The client's `notifications/initialized`. -/
def isInitialized (message : Value) : Bool :=
  method message == some "notifications/initialized" && (message.get "id").isNone

def closedMessage : String := "Positron's MCP endpoint closed the response without answering."

namespace Bridge

def new (resolver : Resolver) : Bridge where
  link := .new resolver
  requests := fun _ => none
  presence := .absent
  lines := []
  out := []
  events := []
  outcomes := []

/-- `start_presence`, which the first message brings about. -/
def startPresence (b : Bridge) : Bridge :=
  match b.presence with
  | .absent => { b with presence := .looking none }
  | _ => b

def setPc (b : Bridge) (n : ℕ) (request : Request) (pc : RequestPc) : Bridge :=
  { b with requests := Function.update b.requests n (some { request with pc }) }

def send (b : Bridge) (origin : Origin) (messages : List Value) : Bridge :=
  { b with out := b.out ++ messages.map (Entry.mk origin) }

section Steps

variable (crates : Crates)

def reconnected (b : Bridge) (attempts : Attempt × Attempt) : Bridge :=
  let result := b.link.connect crates attempts
  { b with link := result.link, events := b.events ++ result.events }

/-- Write the answer that needs no endpoint. -/
def answerOffline (b : Bridge) (n : ℕ) (message : Value) : Bridge :=
  let (reply, protocolVersion) :=
    offlineReply crates message b.link.offline b.link.protocolVersion
  { b.send (.own n) reply.toList with link := { b.link with protocolVersion } }

/-- Relay the client's `initialize`, or answer it here when no endpoint is
answering. -/
def relayInitialize (b : Bridge) (n : ℕ) (message : Value) (attempts : Attempt × Attempt) :
    Bridge :=
  let link := { b.link with
    handshake := some message
    initialized := false
    protocolVersion := none }
  let result := link.connect crates attempts
  let b := { b.send (.relayed n) result.delivered with
    link := result.link
    events := b.events ++ result.events }
  if result.answered then b else b.answerOffline crates n message

/-- Relay a notification, or a response to a request of the server's. -/
def notify (b : Bridge) (message : Value) : Bridge :=
  { b with
    link := { b.link with
      initialized := b.link.initialized || method message == some "notifications/initialized" }
    events := b.events ++ (b.link.upstream.toList.map fun _ =>
      .posted none (some b.link.generation) message) }

def handleLine (b : Bridge) (message : Value) (attempts : Attempt × Attempt) : Bridge :=
  let n := b.lines.length
  let b := { b with lines := b.lines ++ [message] }
  let b :=
    if isInitialize message then b.relayInitialize crates n message attempts
    else if isRequest message then b.setPc n ⟨message, .looking 0⟩ (.looking 0)
    else b.notify message
  b.startPresence

/-- A request's task looks at the link, connecting first if need be. -/
def look (b : Bridge) (n attempt : ℕ) (request : Request) (attempts : Attempt × Attempt) :
    Bridge :=
  let b := if b.link.upstream.isNone then b.reconnected crates attempts else b
  match b.link.upstream with
  | none => b.setPc n request .offline
  | some endpoint =>
      b.setPc n request (.posting attempt
        { endpoint
          sessionId := b.link.sessionId
          protocolVersion := requestProtocolVersion request.message <|> b.link.protocolVersion
          generation := b.link.generation })

/-- What a request's POST brought back goes to the client. -/
def deliver (b : Bridge) (n : ℕ) (outcome : Outcome) : Bridge :=
  { b.send (.relayed n) outcome.delivered with
    outcomes := b.outcomes ++ [(n, outcome.status)] }

/-- What a request's task makes of the outcome of its POST. -/
def conclude (b : Bridge) (n attempt : ℕ) (request : Request) (snapshot : Snapshot)
    (outcome : Outcome) : Bridge :=
  let id := (request.message.get "id").getD .null
  let b := b.deliver n outcome
  match outcome.status with
  | .done =>
      let b :=
        if outcome.answered || (request.message.get "id").isNone then b
        else b.send (.own n) [errorResponse id (-32603) closedMessage]
      b.setPc n request .finished
  | .refused => b.setPc n request (.refused attempt snapshot.generation)
  | .failed reason =>
      let b :=
        if outcome.answered then b else b.send (.own n) [errorResponse id (-32603) reason]
      b.setPc n request .finished

def nextAttempt : ℕ → RequestPc
  | 0 => .looking 1
  | _ => .offline

def step (b : Bridge) : Act → Option Bridge
  | .unparsed error =>
      some (b.send .unparsed [errorResponse .null (-32700) ("Parse error: " ++ error)])
  | .line message attempts => some (b.handleLine crates message attempts)
  | .look n attempts =>
      match b.requests n with
      | some ⟨message, .looking attempt⟩ =>
          some (b.look crates n attempt ⟨message, .looking attempt⟩ attempts)
      | _ => none
  | .post n =>
      match b.requests n with
      | some ⟨message, .posting attempt snapshot⟩ =>
          let posted : Bridge := { b with
            events := b.events ++ [.posted (some n) (some snapshot.generation) message] }
          some (posted.setPc n ⟨message, .posting attempt snapshot⟩ (.awaiting attempt snapshot))
      | _ => none
  | .outcome n reply =>
      match b.requests n with
      | some ⟨message, .awaiting attempt snapshot⟩ =>
          some (b.conclude n attempt ⟨message, .awaiting attempt snapshot⟩ snapshot
            (post crates message reply))
      | _ => none
  | .reconnect n attempts =>
      match b.requests n with
      | some ⟨message, .refused attempt generation⟩ =>
          let b := if b.link.generation = generation then b.reconnected crates attempts else b
          some (b.setPc n ⟨message, .refused attempt generation⟩ (nextAttempt attempt))
      | _ => none
  | .giveUp n =>
      match b.requests n with
      | some ⟨message, .offline⟩ =>
          some ((b.answerOffline crates n message).setPc n ⟨message, .offline⟩ .finished)
      | _ => none
  | .lookPresence attempts =>
      match b.presence with
      | .looking stale =>
          let b := if b.link.upstream.isNone ∨ stale = some b.link.generation then
            b.reconnected crates attempts else b
          let connection := b.link.upstream.map fun _ => b.link.generation
          some { b with presence := .holding connection }
      | _ => none
  | .presenceEnded =>
      match b.presence with
      | .holding connection => some { b with presence := .looking connection }
      | _ => none

def machine : Machine Bridge Act := ⟨step crates⟩

end Steps

end Bridge

/-- The other crates as far as IDs go that are numbers or strings. -/
def scalarCrates : Crates where
  same
    | .number a, .number b => a == b
    | .string a, .string b => a == b
    | .number _, _ => false
    | .string _, _ => false
    | _, .number _ => false
    | _, .string _ => false
    | _, _ => true
  statusText := fun code => toString code
  negotiateInitialize := fun _ _ => .error (-32602, "unsupported protocol version")
  discover := fun _ => .ok (.object [])
  toolList := .ok (.object [])
  structuredError := .ok

def requestOf (id : UInt64) (method : String) : Value :=
  .object [("jsonrpc", .string "2.0"), ("id", .number (.posInt id)), ("method", .string method)]

/-- An empty connections directory, and an endpoint that replies so to a handshake. -/
def replying (reply : Reply) : Attempt × Attempt :=
  (⟨⟨fun _ => none, none⟩, reply⟩, ⟨⟨fun _ => none, none⟩, reply⟩)

/-- A resolver with an endpoint from the environment. -/
def home : Resolver where
  workspace := none
  environment := some ⟨"localhost", 8080, "/mcp/w/home".toList, "token"⟩
  environmentStale := false

end StdioBridge

end Kallichore
