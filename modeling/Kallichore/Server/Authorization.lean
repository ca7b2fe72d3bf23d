import Kallichore.Clients.Basic
import Kallichore.Server.Configuration
import Kallichore.Workspaces.Registry

/-!
# Requests without the token

Most operations of the server look at the bearer token before anything else and return
when it is not the server's. Those that only read do not look at it, and neither do three
that do more: the heartbeat, which names the client that the idle timer tracks, the one
that sets the configuration, and the upgrade of a session's channels to a websocket, which
bypasses the generated routing. The sockets and pipes that are handed out where channels
are not upgraded in place are not protected by the token either, once they are there.

`handle` gives what one request does when no other is being handled, together with what
the tasks do with the messages it sends. What the operations that validate the token do
after it is a parameter.

`unchanged_iff_harmless` says which requests without the token change nothing.
-/

namespace Kallichore

/-- The authentication data of a request. -/
inductive AuthData
  | basic (username : String) (password : Option String)
  | bearer (token : String)
  | apiKey (key : String)
  deriving DecidableEq

/-- What a request for a websocket brings, and whether its connection is upgraded in the
end. -/
structure WebsocketUpgrade where
  secWebsocketKey : Option String
  upgraded : Bool

inductive Operation
  | clientHeartbeat (processId : Option Int32)
  | getServerConfiguration
  | listSessions
  | newSession (session : Value)
  | registerMcpWorkspace (registration : McpWorkspaceRegistration)
  | serverStatus
  | setServerConfiguration (configuration : ServerConfiguration)
  | shutdownServer
  | adoptSession (sessionId : String) (connectionInfo : Value)
  | channelsUpgrade (sessionId : String)
  | connectionInfo (sessionId : String)
  | deleteSession (sessionId : String)
  | deregisterMcpWorkspace (workspaceId : String)
  | executeCode (sessionId : String) (request : Value)
  | getSession (sessionId : String)
  | getSessionHistory (sessionId : String)
  | interruptSession (sessionId : String)
  | killSession (sessionId : String)
  | mcpWorkspaceChannel (workspaceId : String)
  | restartSession (sessionId : String) (restart : Option Value)
  | startSession (sessionId : String)

inductive Request
  | operation (op : Operation)
  /-- `GET /sessions/{session_id}/channels`. -/
  | sessionChannels (sessionId : String) (upgrade : WebsocketUpgrade)
  /-- `GET /mcp/workspaces/{workspace_id}/channel`. -/
  | mcpWorkspaceChannel (workspaceId : String) (upgrade : WebsocketUpgrade)
  /-- A connection to a session's domain socket, and whether it brings a websocket. -/
  | sessionSocket (sessionId : String) (opens : Bool)
  /-- A connection to a session's named pipe. -/
  | sessionPipe (sessionId : String) (opens : Bool)

/-- A response. What an authorized operation answers is known by its status only. -/
inductive ApiResponse
  | unauthorized
  | sessionNotFound
  | sessionDetails (session : KernelState)
  | listOfActiveSessions (sessions : List KernelState)
  /-- The status of the server, aggregated over these sessions. -/
  | serverStatus (sessions : List KernelState)
  | heartbeatReceived
  | serverConfiguration (configuration : ServerConfiguration)
  | setServerConfiguration (response : SetServerConfigurationResponse)
  | badRequest
  | switchingProtocols
  /-- The handler unwraps a key that the request does not have. -/
  | panicked
  | closed
  | other (status : ℕ)

structure ApiServer where
  token : Option String
  /-- Session channels upgrade in place, as they do over TCP. -/
  interceptSessionChannels : Bool
  kernelSessions : List KernelState
  clientSessions : List ClientEntry
  /-- The number of the next client. -/
  sessionCounter : ℕ
  settings : ServerSettings
  idlePoll : IdlePoll
  workspaces : Workspaces
  /-- The sessions whose domain socket is listened on. -/
  sessionSockets : List String
  /-- The sessions whose named pipe waits for its client. -/
  sessionPipes : List String
  fresh : ∀ entry ∈ clientSessions, entry.client < sessionCounter

/-- What the operations that validate the token do once it is valid. -/
structure Handlers where
  operation : Operation → ApiServer → ApiServer × ApiResponse
  mcpWorkspaceChannelRequest : String → WebsocketUpgrade → ApiServer → ApiServer × ApiResponse

namespace ApiServer

def validateToken (s : ApiServer) (auth : Option AuthData) : Bool :=
  match s.token with
  | some token =>
      match auth with
      | some (.bearer bearer) => bearer == token
      | some _ => false
      | none => false
  | none => true

def findSession (s : ApiServer) (sessionId : String) : Option KernelState :=
  s.kernelSessions.find? fun session => session.sessionId = sessionId

def findClient (s : ApiServer) (sessionId : String) : Option ClientEntry :=
  s.clientSessions.find? fun entry => entry.sessionId = sessionId

/-- Mark the session with this ID as connected or not. -/
def setConnected (connected : Bool) (sessionId : String) : List KernelState → List KernelState
  | [] => []
  | session :: rest =>
      if session.sessionId = sessionId then { session with connected } :: rest
      else session :: setConnected connected sessionId rest

/-- Take the client that is listed for the session off the list and disconnect it. -/
def disconnectExisting (s : ApiServer) (sessionId : String) : ApiServer :=
  match s.findClient sessionId with
  | some _ =>
      { s with
        clientSessions := s.clientSessions.eraseP fun entry => entry.sessionId = sessionId
        kernelSessions := setConnected false sessionId s.kernelSessions
        fresh := fun entry hentry => s.fresh entry (List.mem_of_mem_eraseP hentry) }
  | none => s

theorem lt_of_mem_append {clients : List ClientEntry} {counter : ℕ} {sessionId : String}
    (h : ∀ entry ∈ clients, entry.client < counter) :
    ∀ entry ∈ clients ++ [⟨sessionId, counter⟩], entry.client < counter + 1 := by
  intro entry hentry
  obtain hold | hnew := List.mem_append.mp hentry
  · exact Nat.lt_succ_of_lt (h entry hold)
  · cases List.mem_singleton.mp hnew
    exact Nat.lt_succ_self counter

/-- List a new client for the session, and mark the session as connected if the client
begins its loop. -/
def addClient (s : ApiServer) (sessionId : String) (opens : Bool) : ApiServer :=
  { s with
    clientSessions := s.clientSessions ++ [⟨sessionId, s.sessionCounter⟩]
    sessionCounter := s.sessionCounter + 1
    kernelSessions :=
      if opens then setConnected true sessionId s.kernelSessions else s.kernelSessions
    fresh := lt_of_mem_append s.fresh }

def guarded (s : ApiServer) (auth : Option AuthData)
    (rest : ApiServer → ApiServer × ApiResponse) : ApiServer × ApiResponse :=
  if s.validateToken auth then rest s else (s, .unauthorized)

/-- The idle timer receives the process ID as a nudge. -/
def clientHeartbeat (s : ApiServer) (processId : Option Int32) : ApiServer × ApiResponse :=
  ({ s with idlePoll := s.idlePoll.nudge (processId.map Int32.toUInt32) }, .heartbeatReceived)

def setServerConfiguration (s : ApiServer) (configuration : ServerConfiguration) :
    ApiServer × ApiResponse :=
  let after := s.settings.setServerConfiguration s.idlePoll configuration
  ({ s with settings := after.1.1, idlePoll := after.1.2 }, .setServerConfiguration after.2)

def getSession (s : ApiServer) (sessionId : String) : ApiServer × ApiResponse :=
  match s.findSession sessionId with
  | some session => (s, .sessionDetails session)
  | none => (s, .sessionNotFound)

def handleOperation (H : Handlers) (s : ApiServer) (auth : Option AuthData) (op : Operation) :
    ApiServer × ApiResponse :=
  match op with
  | .clientHeartbeat processId => s.clientHeartbeat processId
  | .getServerConfiguration => (s, .serverConfiguration s.settings.getServerConfiguration)
  | .listSessions => (s, .listOfActiveSessions s.kernelSessions)
  | .serverStatus => (s, .serverStatus s.kernelSessions)
  | .setServerConfiguration configuration => s.setServerConfiguration configuration
  | .getSession sessionId => s.getSession sessionId
  | .newSession _ | .registerMcpWorkspace _ | .shutdownServer | .adoptSession _ _
  | .channelsUpgrade _ | .connectionInfo _ | .deleteSession _ | .deregisterMcpWorkspace _
  | .executeCode _ _ | .getSessionHistory _ | .interruptSession _ | .killSession _
  | .mcpWorkspaceChannel _ | .restartSession _ _ | .startSession _ =>
      s.guarded auth (H.operation op)

/-- Upgrade the channels of a session, after the client that has them was disconnected. -/
def handleChannelsWebsocketRequest (s : ApiServer) (sessionId : String)
    (upgrade : WebsocketUpgrade) : ApiServer × ApiResponse :=
  match s.findSession sessionId with
  | none => (s, .badRequest)
  | some _ =>
      let s := s.disconnectExisting sessionId
      match upgrade.secWebsocketKey with
      | none => (s, .panicked)
      | some _ =>
          (if upgrade.upgraded then s.addClient sessionId true else s, .switchingProtocols)

def handleDomainSocketConnection (s : ApiServer) (sessionId : String) (opens : Bool) :
    ApiServer × ApiResponse :=
  if sessionId ∈ s.sessionSockets then
    let s := s.disconnectExisting sessionId
    match s.findSession sessionId with
    | some _ => (s.addClient sessionId opens, .switchingProtocols)
    | none => (s, .closed)
  else (s, .closed)

def handleNamedPipeConnection (s : ApiServer) (sessionId : String) (opens : Bool) :
    ApiServer × ApiResponse :=
  if sessionId ∈ s.sessionPipes then
    let s := { s with sessionPipes := s.sessionPipes.erase sessionId }
    match s.findSession sessionId with
    | some _ => (s.addClient sessionId opens, .switchingProtocols)
    | none => (s, .closed)
  else (s, .closed)

def handle (H : Handlers) (s : ApiServer) (auth : Option AuthData) :
    Request → ApiServer × ApiResponse
  | .operation op => s.handleOperation H auth op
  | .sessionChannels sessionId upgrade =>
      -- Elsewhere than over TCP the request reaches the generated service.
      if s.interceptSessionChannels then s.handleChannelsWebsocketRequest sessionId upgrade
      else s.guarded auth (H.operation (.channelsUpgrade sessionId))
  | .mcpWorkspaceChannel workspaceId upgrade =>
      s.guarded auth (H.mcpWorkspaceChannelRequest workspaceId upgrade)
  | .sessionSocket sessionId opens => s.handleDomainSocketConnection sessionId opens
  | .sessionPipe sessionId opens => s.handleNamedPipeConnection sessionId opens

/-! ## Nothing changes -/

/-- The sessions with their `connected` flags and execution queues, the clients, the
configuration, the workspaces and the client that the idle timer tracks are what they
were. -/
structure Unchanged (s t : ApiServer) : Prop where
  kernelSessions : t.kernelSessions = s.kernelSessions
  clientSessions : t.clientSessions = s.clientSessions
  settings : t.settings = s.settings
  idlePoll : t.idlePoll = s.idlePoll
  workspaces : t.workspaces = s.workspaces

/-- The request does not reach what the token should protect. -/
def Harmless (s : ApiServer) : Request → Prop
  | .operation (.clientHeartbeat processId) =>
      ∀ pid, processId = some pid → pid.toUInt32 = s.idlePoll.clientPid
  | .operation (.setServerConfiguration configuration) =>
      s.settings.KeepsConfiguration s.idlePoll configuration
  | .sessionChannels sessionId upgrade =>
      s.interceptSessionChannels = true → s.findSession sessionId ≠ none →
        s.findClient sessionId = none ∧
          (upgrade.secWebsocketKey = none ∨ upgrade.upgraded = false)
  | .sessionSocket sessionId _ =>
      sessionId ∈ s.sessionSockets →
        s.findClient sessionId = none ∧ s.findSession sessionId = none
  | .sessionPipe sessionId _ => sessionId ∈ s.sessionPipes → s.findSession sessionId = none
  | _ => True

theorem unchanged_refl (s : ApiServer) : s.Unchanged s := ⟨rfl, rfl, rfl, rfl, rfl⟩

theorem validateToken_eq_false {s : ApiServer} {token : String} {auth : Option AuthData}
    (htoken : s.token = some token) (hbearer : auth ≠ some (.bearer token)) :
    s.validateToken auth = false := by
  simp only [validateToken, htoken]
  split
  next bearer =>
    rw [beq_eq_false_iff_ne]
    rintro rfl
    exact hbearer rfl
  next => rfl
  next => rfl

theorem guarded_of_not_valid {s : ApiServer} {auth : Option AuthData}
    (hauth : s.validateToken auth = false) (rest : ApiServer → ApiServer × ApiResponse) :
    s.guarded auth rest = (s, .unauthorized) := by
  simp [guarded, hauth]

theorem nudge_eq_iff (poll : IdlePoll) (processId : Option Int32) :
    poll.nudge (processId.map Int32.toUInt32) = poll ↔
      ∀ pid, processId = some pid → pid.toUInt32 = poll.clientPid := by
  cases processId with
  | none => simp [IdlePoll.nudge]
  | some pid =>
      simp only [IdlePoll.nudge, Option.map_some, Option.some.injEq, forall_eq']
      split
      next hne => exact iff_of_false (fun heq => hne (congrArg IdlePoll.clientPid heq)) hne
      next heq => exact iff_of_true rfl (not_not.mp heq)

theorem clientHeartbeat_unchanged_iff (s : ApiServer) (processId : Option Int32) :
    s.Unchanged (s.clientHeartbeat processId).1 ↔
      ∀ pid, processId = some pid → pid.toUInt32 = s.idlePoll.clientPid := by
  rw [← nudge_eq_iff]
  exact ⟨fun h => h.idlePoll, fun h => ⟨rfl, rfl, rfl, h, rfl⟩⟩

theorem setServerConfiguration_unchanged_iff (s : ApiServer)
    (configuration : ServerConfiguration) :
    s.Unchanged (s.setServerConfiguration configuration).1 ↔
      s.settings.KeepsConfiguration s.idlePoll configuration := by
  rw [← ServerSettings.setServerConfiguration_eq_iff]
  constructor
  · intro h
    exact Prod.ext h.settings h.idlePoll
  · intro h
    exact ⟨rfl, rfl, congrArg Prod.fst h, congrArg Prod.snd h, rfl⟩

theorem getSession_fst (s : ApiServer) (sessionId : String) : (s.getSession sessionId).1 = s := by
  simp only [getSession]
  split <;> rfl

/-! ## Clients -/

theorem disconnectExisting_of_none {s : ApiServer} {sessionId : String}
    (h : s.findClient sessionId = none) : s.disconnectExisting sessionId = s := by
  simp [disconnectExisting, h]

theorem length_disconnectExisting {s : ApiServer} {sessionId : String}
    (h : s.findClient sessionId ≠ none) :
    (s.disconnectExisting sessionId).clientSessions.length < s.clientSessions.length := by
  obtain ⟨entry, hentry⟩ := Option.ne_none_iff_exists'.mp h
  have hmem := List.mem_of_find?_eq_some hentry
  have hlength := List.length_eraseP_of_mem hmem (List.find?_some hentry)
  simp only [disconnectExisting, hentry, hlength]
  exact Nat.sub_one_lt (List.length_pos_of_mem hmem).ne'

theorem sessionCounter_disconnectExisting (s : ApiServer) (sessionId : String) :
    (s.disconnectExisting sessionId).sessionCounter = s.sessionCounter := by
  simp only [disconnectExisting]
  split <;> rfl

theorem not_unchanged_addClient {s t : ApiServer} {sessionId : String} {opens : Bool}
    (hcounter : t.sessionCounter = s.sessionCounter) :
    ¬ s.Unchanged (t.addClient sessionId opens) := by
  intro h
  have hmem : (⟨sessionId, t.sessionCounter⟩ : ClientEntry) ∈ s.clientSessions := by
    rw [← h.clientSessions]
    exact List.mem_append_right _ (List.mem_singleton_self _)
  have hlt := s.fresh _ hmem
  rw [hcounter] at hlt
  exact Nat.lt_irrefl _ hlt

theorem not_unchanged_disconnectExisting {s : ApiServer} {sessionId : String}
    (h : s.findClient sessionId ≠ none) : ¬ s.Unchanged (s.disconnectExisting sessionId) := by
  intro hsame
  have hlt := length_disconnectExisting h
  rw [hsame.clientSessions] at hlt
  exact Nat.lt_irrefl _ hlt

theorem disconnectExisting_unchanged_iff (s : ApiServer) (sessionId : String) :
    s.Unchanged (s.disconnectExisting sessionId) ↔ s.findClient sessionId = none := by
  constructor
  · intro h
    by_contra hclient
    exact not_unchanged_disconnectExisting hclient h
  · intro h
    rw [disconnectExisting_of_none h]
    exact s.unchanged_refl

theorem map_sessionId_setConnected (connected : Bool) (sessionId : String)
    (sessions : List KernelState) :
    (setConnected connected sessionId sessions).map KernelState.sessionId =
      sessions.map KernelState.sessionId := by
  induction sessions with
  | nil => rfl
  | cons session rest ih =>
      simp only [setConnected]
      split
      · rfl
      · rw [List.map_cons, ih, List.map_cons]

theorem findSession_eq_none_iff_notMem (s : ApiServer) (sessionId : String) :
    s.findSession sessionId = none ↔
      sessionId ∉ s.kernelSessions.map KernelState.sessionId := by
  simp [findSession]

theorem findSession_disconnectExisting_eq_none_iff (s : ApiServer) (sessionId : String) :
    (s.disconnectExisting sessionId).findSession sessionId = none ↔
      s.findSession sessionId = none := by
  simp only [findSession_eq_none_iff_notMem, disconnectExisting]
  split
  · rw [map_sessionId_setConnected]
  · rfl

theorem handleChannelsWebsocketRequest_unchanged_iff (s : ApiServer) (sessionId : String)
    (upgrade : WebsocketUpgrade) :
    s.Unchanged (s.handleChannelsWebsocketRequest sessionId upgrade).1 ↔
      (s.findSession sessionId ≠ none → s.findClient sessionId = none ∧
        (upgrade.secWebsocketKey = none ∨ upgrade.upgraded = false)) := by
  cases hsession : s.findSession sessionId with
  | none => simp [handleChannelsWebsocketRequest, hsession, unchanged_refl]
  | some session =>
      cases hkey : upgrade.secWebsocketKey with
      | none =>
          simp only [handleChannelsWebsocketRequest, hsession, hkey,
            disconnectExisting_unchanged_iff]
          simp
      | some key =>
          cases hupgraded : upgrade.upgraded with
          | false =>
              simp only [handleChannelsWebsocketRequest, hsession, hkey, hupgraded,
                Bool.false_eq_true, if_false, disconnectExisting_unchanged_iff]
              simp
          | true =>
              simp only [handleChannelsWebsocketRequest, hsession, hkey, hupgraded, if_true]
              refine iff_of_false ?_ (by simp)
              exact not_unchanged_addClient (s.sessionCounter_disconnectExisting sessionId)

theorem handleDomainSocketConnection_unchanged_iff (s : ApiServer) (sessionId : String)
    (opens : Bool) :
    s.Unchanged (s.handleDomainSocketConnection sessionId opens).1 ↔
      (sessionId ∈ s.sessionSockets →
        s.findClient sessionId = none ∧ s.findSession sessionId = none) := by
  by_cases hsocket : sessionId ∈ s.sessionSockets
  · simp only [handleDomainSocketConnection, hsocket, if_true, true_imp_iff]
    rw [← s.findSession_disconnectExisting_eq_none_iff sessionId]
    cases (s.disconnectExisting sessionId).findSession sessionId with
    | none =>
        simp only [and_true]
        exact s.disconnectExisting_unchanged_iff sessionId
    | some session =>
        refine iff_of_false ?_ (by simp)
        exact not_unchanged_addClient (s.sessionCounter_disconnectExisting sessionId)
  · simp [handleDomainSocketConnection, hsocket, unchanged_refl]

theorem handleNamedPipeConnection_unchanged_iff (s : ApiServer) (sessionId : String)
    (opens : Bool) :
    s.Unchanged (s.handleNamedPipeConnection sessionId opens).1 ↔
      (sessionId ∈ s.sessionPipes → s.findSession sessionId = none) := by
  by_cases hpipe : sessionId ∈ s.sessionPipes
  · simp only [handleNamedPipeConnection, hpipe, if_true, true_imp_iff]
    have hfind : ({ s with sessionPipes := s.sessionPipes.erase sessionId } :
        ApiServer).findSession sessionId = s.findSession sessionId := rfl
    rw [hfind]
    cases s.findSession sessionId with
    | none => exact iff_of_true ⟨rfl, rfl, rfl, rfl, rfl⟩ rfl
    | some session => exact iff_of_false (not_unchanged_addClient rfl) (by simp)
  · simp [handleNamedPipeConnection, hpipe, unchanged_refl]

/-! ## Requests without the token -/

theorem handleOperation_unchanged_iff (H : Handlers) (s : ApiServer) {auth : Option AuthData}
    (hauth : s.validateToken auth = false) (op : Operation) :
    s.Unchanged (s.handleOperation H auth op).1 ↔ s.Harmless (.operation op) := by
  have hguarded : ∀ rest, s.Unchanged (s.guarded auth rest).1 := by
    intro rest
    rw [guarded_of_not_valid hauth]
    exact s.unchanged_refl
  cases op with
  | clientHeartbeat processId => exact s.clientHeartbeat_unchanged_iff processId
  | setServerConfiguration configuration =>
      exact s.setServerConfiguration_unchanged_iff configuration
  | getServerConfiguration => exact iff_of_true s.unchanged_refl trivial
  | listSessions => exact iff_of_true s.unchanged_refl trivial
  | serverStatus => exact iff_of_true s.unchanged_refl trivial
  | getSession sessionId =>
      refine iff_of_true ?_ trivial
      simp only [handleOperation, getSession_fst]
      exact s.unchanged_refl
  | newSession session => exact iff_of_true (hguarded _) trivial
  | registerMcpWorkspace registration => exact iff_of_true (hguarded _) trivial
  | shutdownServer => exact iff_of_true (hguarded _) trivial
  | adoptSession sessionId connectionInfo => exact iff_of_true (hguarded _) trivial
  | channelsUpgrade sessionId => exact iff_of_true (hguarded _) trivial
  | connectionInfo sessionId => exact iff_of_true (hguarded _) trivial
  | deleteSession sessionId => exact iff_of_true (hguarded _) trivial
  | deregisterMcpWorkspace workspaceId => exact iff_of_true (hguarded _) trivial
  | executeCode sessionId request => exact iff_of_true (hguarded _) trivial
  | getSessionHistory sessionId => exact iff_of_true (hguarded _) trivial
  | interruptSession sessionId => exact iff_of_true (hguarded _) trivial
  | killSession sessionId => exact iff_of_true (hguarded _) trivial
  | mcpWorkspaceChannel workspaceId => exact iff_of_true (hguarded _) trivial
  | restartSession sessionId restart => exact iff_of_true (hguarded _) trivial
  | startSession sessionId => exact iff_of_true (hguarded _) trivial

/-- A request whose bearer is absent or not the server's leaves everything as it was exactly
if it is harmless. -/
theorem unchanged_iff_harmless (H : Handlers) (s : ApiServer) {token : String}
    {auth : Option AuthData} (htoken : s.token = some token)
    (hbearer : auth ≠ some (.bearer token)) (request : Request) :
    s.Unchanged (s.handle H auth request).1 ↔ s.Harmless request := by
  have hauth := validateToken_eq_false htoken hbearer
  cases request with
  | operation op => exact s.handleOperation_unchanged_iff H hauth op
  | sessionChannels sessionId upgrade =>
      simp only [handle, Harmless]
      split
      next hintercept =>
        rw [handleChannelsWebsocketRequest_unchanged_iff]
        simp [hintercept]
      next hintercept =>
        rw [guarded_of_not_valid hauth]
        exact iff_of_true s.unchanged_refl fun h => absurd h hintercept
  | mcpWorkspaceChannel workspaceId upgrade =>
      simp only [handle, guarded_of_not_valid hauth]
      exact iff_of_true s.unchanged_refl trivial
  | sessionSocket sessionId opens =>
      exact s.handleDomainSocketConnection_unchanged_iff sessionId opens
  | sessionPipe sessionId opens => exact s.handleNamedPipeConnection_unchanged_iff sessionId opens

/-- A server over TCP with one session, which has no client. -/
def sampleServer : ApiServer where
  token := some "secret"
  interceptSessionChannels := true
  kernelSessions := [KernelState.new "a" "/" sampleHost]
  clientSessions := []
  sessionCounter := 0
  settings := ConfiguredServer.sampleSettings
  idlePoll := .start none
  workspaces := ∅
  sessionSockets := []
  sessionPipes := []
  fresh := by simp

def sampleHandlers : Handlers where
  operation := fun _ s => (s, .other 200)
  mcpWorkspaceChannelRequest := fun _ _ s => (s, .switchingProtocols)

theorem unchanged_iff_harmless_heartbeat :
    sampleServer.Unchanged
      (sampleServer.handle sampleHandlers none (.operation (.clientHeartbeat none))).1 :=
  (unchanged_iff_harmless sampleHandlers sampleServer rfl (by decide) _).mpr
    fun _ h => absurd h.symm (Option.some_ne_none _)

/-- Anyone can attach to a session. -/
theorem not_unchanged_sessionChannels :
    sampleServer.token = some "secret" ∧ ¬ sampleServer.Unchanged
      (sampleServer.handle sampleHandlers none (.sessionChannels "a" ⟨some "key", true⟩)).1 := by
  refine ⟨rfl, fun h => ?_⟩
  have hclients := congrArg List.length h.clientSessions
  revert hclients
  decide

end ApiServer

end Kallichore
