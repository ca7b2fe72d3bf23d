import Kallichore.Jupyter.Message
import Mathlib.Data.List.DropRight

/-!
# The stdio bridge's link to its endpoint

The bridge relays an agent's messages to the HTTP endpoint of a workspace. `Link`
is what it knows of the endpoint, and `connect` finds one and shakes hands with it
on the client's behalf.

What lies outside is an argument. A `Reply` is what comes of an HTTP request: no
connection, an undelivered request, or a response with the messages its body
carries. `Directory` is what the connections directory says at the moment. `Crates`
is what the bridge uses of other crates: the equality of JSON values, and the
answers that the protocol crate gives when no endpoint does.
-/

namespace Kallichore

namespace StdioBridge

inductive Offline
  | noWorkspace
  | unreachable
  deriving DecidableEq, Repr

def Offline.code : Offline → String
  | noWorkspace => "NO_WORKSPACE"
  | unreachable => "POSITRON_NOT_RUNNING"

def Offline.message : Offline → String
  | noWorkspace =>
      "No Positron workspace is open for this directory. Ask the user to open this folder in " ++
      "Positron with the 'ai.mcp.enabled' setting on, then try again; there is no need to " ++
      "reconnect."
  | unreachable =>
      "Positron is not reachable: the workspace is closed, or its MCP server is turned off. " ++
      "Ask the user to open the workspace in Positron, then try again; there is no need to " ++
      "reconnect."

/-- A workspace's HTTP endpoint and the token it accepts. -/
structure Endpoint where
  host : String
  port : UInt16
  /-- The path, including any `/s/<session>` suffix. -/
  path : List Char
  token : String
  deriving DecidableEq

def mcpPathPrefix : List Char := "/mcp/w/".toList

def callerPathSegment : List Char := "/s/".toList

/-- The text up to the first occurrence of the pattern, and from it on. -/
def splitAtSegment (segment : List Char) : List Char → Option (List Char × List Char)
  | [] => none
  | c :: text =>
      if segment.isPrefixOf (c :: text) then some ([], c :: text)
      else (splitAtSegment segment text).map fun (before, rest) => (c :: before, rest)

namespace Endpoint

/-- The workspace the endpoint belongs to. -/
def workspaceId (endpoint : Endpoint) : Option String :=
  (endpoint.path.dropPrefix? mcpPathPrefix).bind fun rest =>
    let first := ((splitAtSegment callerPathSegment rest).map Prod.fst).getD rest
    let id := first.rdropWhile (· == '/')
    if id.isEmpty then none else some (String.ofList id)

/-- The `/s/<session>` suffix naming the caller's own session, if any. -/
def callerSuffix (endpoint : Endpoint) : Option (List Char) :=
  (splitAtSegment callerPathSegment endpoint.path).map Prod.snd

/-- The same endpoint with a caller's session named, if there is one. -/
def withCaller (endpoint : Endpoint) : Option (List Char) → Endpoint
  | none => endpoint
  | some suffix => { endpoint with path := endpoint.path.rdropWhile (· == '/') ++ suffix }

end Endpoint

/-- What the connections directory says: the endpoint in a workspace's descriptor,
and the workspace whose folder contains the working directory. -/
structure Directory where
  lookup : String → Option Endpoint
  workspaceForWorkingDir : Option String

/-- Finds the endpoint of the workspace this client belongs to. -/
structure Resolver where
  /-- The workspace to use regardless of the environment. -/
  workspace : Option String
  /-- The endpoint published in the environment. -/
  environment : Option Endpoint
  /-- Whether the environment's endpoint has stopped answering. -/
  environmentStale : Bool

/-- The endpoint to use, given the one that just stopped answering. -/
def Resolver.resolve (resolver : Resolver) (directory : Directory) (stale : Option Endpoint) :
    Resolver × Option Endpoint :=
  match resolver.workspace, resolver.environment with
  | some id, _ => (resolver, directory.lookup id)
  | none, some environment =>
      let resolver := { resolver with
        environmentStale := resolver.environmentStale || stale == some environment }
      let moved :=
        if resolver.environmentStale then environment.workspaceId.bind directory.lookup else none
      match moved with
      | some endpoint => (resolver, some (endpoint.withCaller environment.callerSuffix))
      | none => (resolver, some environment)
  | none, none => (resolver, directory.workspaceForWorkingDir.bind directory.lookup)

/-- What the bridge uses of other crates. -/
structure Crates where
  /-- Equality of JSON values. -/
  same : Value → Value → Bool
  /-- A status code as it is displayed. -/
  statusText : ℕ → String
  /-- The version agreed on and the answer to `initialize`, or an error's code and
  message. -/
  negotiateInitialize :
    Value → Offline → Except (Int64 × String) (String × Except String Value)
  discover : Offline → Except String Value
  toolList : Except String Value
  structuredError : Value → Except String Value

inductive Status
  /-- The endpoint accepted it. -/
  | done
  /-- It never reached a handler, and is safe to send again. -/
  | refused
  /-- It reached the server, which may have acted on it. -/
  | failed (reason : String)
  deriving DecidableEq

inductive Reply
  /-- It could not be built. -/
  | unbuilt (reason : String)
  /-- No connection could be made. -/
  | unconnected
  /-- It could not be delivered over the connection. -/
  | undelivered (reason : String)
  /-- A response with a status code, the session it issues, the messages in it and
  the error its body ended with, if any. -/
  | response (code : ℕ) (session : Option String) (messages : List Value)
      (lost : Option String)

structure Outcome where
  status : Status
  answered : Bool
  sessionId : Option String
  /-- The messages that came back. -/
  delivered : List Value

/-- The endpoint turned the request away before any tool was reached. -/
def isRefusal (code : ℕ) : Bool := code == 401 || code == 403 || code == 404 || code == 503

def isSuccess (code : ℕ) : Bool := 200 ≤ code && code < 300

section Post

variable (crates : Crates)

def carries (id : Value) (message : Value) : Bool :=
  match message.get "id" with
  | some v => crates.same v id
  | none => false

def post (message : Value) : Reply → Outcome
  | .unbuilt reason =>
      ⟨.failed ("Could not build the request: " ++ reason), false, none, []⟩
  | .unconnected => ⟨.refused, false, none, []⟩
  | .undelivered reason =>
      ⟨.failed ("Could not deliver the request to Positron: " ++ reason), false, none, []⟩
  | .response code session messages lost =>
      if isRefusal code then ⟨.refused, false, none, []⟩
      else
        let answered := match message.get "id" with
          | some id => messages.any (carries crates id)
          | none => false
        let status := match lost with
          | some e =>
              .failed ("The connection to Positron was lost while the request was in progress, " ++
                "so it may or may not have run: " ++ e)
          | none =>
              if isSuccess code then .done
              else .failed ("Positron's MCP endpoint answered " ++ crates.statusText code)
        ⟨status, answered, session, messages⟩

def ofInt64 (n : Int64) : Value :=
  .number (if n < 0 then .negInt n else .posInt n.toUInt64)

def errorResponse (id : Value) (code : Int64) (message : String) : Value :=
  .object [("jsonrpc", .string "2.0"), ("id", id),
    ("error", .object [("code", ofInt64 code), ("message", .string message)])]

def metaProtocolVersion : String := "io.modelcontextprotocol/protocolVersion"

def resultTypeVersion : String := "2026-07-28"

def requestProtocolVersion (message : Value) : Option String :=
  (((message.get "params").bind (·.get "_meta")).bind (·.get metaProtocolVersion)).bind Value.asStr

/-- Results name their type only in versions from `resultTypeVersion` on. -/
def withoutResultType (version : Option String) : Value → Value
  | .object fields =>
      if version.all (· < resultTypeVersion) then
        .object (fields.filter fun field => field.1 != "resultType")
      else .object fields
  | v => v

/-- The result of a request that has no endpoint, the code and message of an error,
and the protocol version from then on. -/
def offlineResult (message : Value) (offline : Offline) (version : Option String) :
    Except (Int64 × String) Value × Option String :=
  let internal (result : Except String Value) : Except (Int64 × String) Value :=
    result.mapError fun e => (-32603, e)
  match (message.get "method").bind Value.asStr with
  | some "initialize" =>
      match crates.negotiateInitialize ((message.get "params").getD .null) offline with
      | .ok (agreed, result) => (internal result, some agreed)
      | .error e => (.error e, version)
  | some "server/discover" => (internal (crates.discover offline), version)
  | some "tools/list" => (internal crates.toolList, version)
  | some "tools/call" =>
      (internal (crates.structuredError (.object [("status", .string "error"),
        ("code", .string offline.code), ("message", .string offline.message)])), version)
  | some "ping" => (.ok (.object []), version)
  | _ => (.error (-32603, offline.message), version)

/-- Answer a request with no endpoint to relay it to. -/
def offlineReply (message : Value) (offline : Offline) (version : Option String) :
    Option Value × Option String :=
  match message.get "id" with
  | none => (none, version)
  | some id =>
      match offlineResult crates message offline version with
      | (.ok result, version) =>
          let result :=
            withoutResultType (requestProtocolVersion message <|> version) result
          (some (.object [("jsonrpc", .string "2.0"), ("id", id), ("result", result)]), version)
      | (.error (code, text), version) =>
          (some (errorResponse id code text), version)

end Post

/-- The connection to the endpoint, shared by every request. -/
structure Link where
  resolver : Resolver
  upstream : Option Endpoint
  sessionId : Option String
  /-- Counts connections. -/
  generation : ℕ
  /-- The client's `initialize`. -/
  handshake : Option Value
  /-- Whether the client has sent `notifications/initialized`. -/
  initialized : Bool
  protocolVersion : Option String
  offline : Offline

namespace Link

def new (resolver : Resolver) : Link where
  resolver := resolver
  upstream := none
  sessionId := none
  generation := 0
  handshake := none
  initialized := false
  protocolVersion := none
  offline := .noWorkspace

def connected (link : Link) (endpoint : Endpoint) : Link :=
  { link with upstream := some endpoint, generation := link.generation + 1 }

end Link

/-- What happens on the way to the endpoint. -/
inductive Event
  /-- A message was posted: for which request, and on which connection. An attempt
  to connect that comes to nothing is not a connection. -/
  | posted (request : Option ℕ) (connection : Option ℕ) (message : Value)
  /-- The connection was adopted, with or without a handshake recorded. -/
  | adopted (connection : ℕ) (recorded : Bool)

/-- What an attempt to connect comes upon: the connections directory, and the reply
to the handshake. -/
structure Attempt where
  directory : Directory
  handshake : Reply

/-- The result of `connect`. -/
structure Connect where
  link : Link
  /-- Whether the client has been answered. -/
  answered : Bool
  /-- The messages the handshake brought back. -/
  delivered : List Value
  events : List Event

def initializedNotification : Value :=
  .object [("jsonrpc", .string "2.0"), ("method", .string "notifications/initialized")]

/-- The protocol version in the replies to a handshake; the last one counts. -/
def settledVersion (messages : List Value) : Option String :=
  messages.foldl (fun version message =>
    match (message.get "result").bind (·.get "protocolVersion") with
    | some v => v.asStr
    | none => version) none

namespace Link

variable (crates : Crates)

/-- The loop of `connect`, one turn for each attempt. -/
def connectLoop (link : Link) (stale : Option Endpoint) : List Attempt → Connect
  | [] => ⟨{ link with offline := .unreachable }, false, [], []⟩
  | attempt :: attempts =>
      let (resolver, endpoint) := link.resolver.resolve attempt.directory stale
      let link := { link with resolver }
      match endpoint, link.handshake with
      | none, _ => ⟨{ link with offline := .noWorkspace }, false, [], []⟩
      | some endpoint, none =>
          ⟨link.connected endpoint, false, [], [.adopted (link.generation + 1) false]⟩
      | some endpoint, some handshake =>
          let outcome := post crates handshake attempt.handshake
          let connection := link.generation + 1
          match outcome.status with
          | .done =>
              let link := { link with
                protocolVersion := settledVersion outcome.delivered <|> link.protocolVersion
                sessionId := outcome.sessionId }
              ⟨link.connected endpoint, outcome.answered, outcome.delivered,
                [.posted none (some connection) handshake] ++
                  (if link.initialized then
                    [.posted none (some connection) initializedNotification] else []) ++
                  [.adopted connection true]⟩
          | .refused =>
              let result := connectLoop link (some endpoint) attempts
              { result with events := .posted none none handshake :: result.events }
          | .failed _ =>
              ⟨{ link with offline := .unreachable }, outcome.answered, outcome.delivered,
                [.posted none none handshake]⟩

/-- Find an endpoint and, once the client has shaken hands, shake hands with it on
the client's behalf. The endpoint that was in use is taken as stale. -/
def connect (link : Link) (attempts : Attempt × Attempt) : Connect :=
  connectLoop crates { link with upstream := none, sessionId := none } link.upstream
    [attempts.1, attempts.2]

end Link

end StdioBridge

end Kallichore
