import Kallichore.Lib.Machine
import Kallichore.Listener.Call

/-!
# When the listener runs, and what it serves with

The listener starts with the first workspace that registers and stops with the last one that
deregisters. Three things have to keep up with each other: the registry, the handle of the
listener and the services that were built for its endpoints. Each is behind a lock of its
own, and a call goes from one to the next, so others come in between. The locks that are
held over a wait are part of the state: the handle's while a port is bound, and the
services' while a service waits for the handle.

`stopped_of_resting` says what is left when no call is under way any more. A workspace may
register between the moment a deregistration finds the registry empty and the moment it
takes the handle; `listening_iff_unraced` says that this alone leaves it without a listener.
-/

namespace Kallichore

namespace Listener

structure ListenerHandle where
  port : UInt16
  /-- The number of its cancellation token, in the order in which listeners were started. -/
  cancel : ℕ
  deriving DecidableEq

/-- One workspace's endpoint, for the caller that named the session it runs in. -/
structure WorkspaceService where
  workspaceId : String
  callerSessionId : Option (List Char)
  /-- The listener's token that the service's own is a child of. -/
  parent : ℕ
  deriving DecidableEq

/-- Bind on loopback: the preferred port first, and then any. What the system answers is an
argument, for binding a port and then for the address that was bound. -/
def bind (preferredPort : Option UInt16) (bindTo : UInt16 → Except String (Except String UInt16)) :
    Except String UInt16 :=
  match preferredPort.filter fun port => port ≠ 0 with
  | some port =>
      match bindTo port with
      | .ok localPort => localPort
      | .error _ => (bindTo 0).bind id
  | none => (bindTo 0).bind id

/-- `u16::try_from` of a port that was asked for. -/
def portOfInt (port : Int32) : Option UInt16 :=
  if 0 ≤ port.toInt ∧ port.toInt < 65536 then some (UInt16.ofNat port.toInt.toNat) else none

inductive RegisterMcpWorkspaceResponse
  | workspaceRegistered (url : List Char) (workspaceId token : String) (port : UInt16)
  | invalidRequest (code message : String)
  | unauthorized
  deriving DecidableEq

inductive DeregisterMcpWorkspaceResponse
  | workspaceDeregistered
  | workspaceNotFound
  | unauthorized
  deriving DecidableEq

def listenerFailed (e : String) : RegisterMcpWorkspaceResponse :=
  .invalidRequest "mcp_listener_failed" ("Failed to start the MCP listener: " ++ e)

def workspaceRegistered (workspaceId token : String) (port : UInt16) :
    RegisterMcpWorkspaceResponse :=
  .workspaceRegistered (endpointUrl port workspaceId) workspaceId token port

inductive CallPc
  | absent
  /-- `register_mcp_workspace`, about to lock the handle. -/
  | ensuring (registration : McpWorkspaceRegistration) (preferredPort : Option UInt16)
  /-- The handle is locked, and a port is being bound. -/
  | binding (registration : McpWorkspaceRegistration) (preferredPort : Option UInt16)
  | registering (registration : McpWorkspaceRegistration) (port : UInt16)
  /-- `deregister_mcp_workspace`, with the record gone. -/
  | dropping (workspaceId : String)
  | asking
  /-- The registry was found empty. -/
  | taking
  | cancelling (handle : ListenerHandle)
  | clearing (handle : ListenerHandle)
  | resetting
  /-- A request that has passed the guards, about to lock the services. -/
  | finding (workspaceId : String) (caller : Option (List Char))
  /-- The services are locked, and the request waits for the handle. -/
  | building (workspaceId : String) (caller : Option (List Char))
  | registered (response : RegisterMcpWorkspaceResponse)
  | deregistered (response : DeregisterMcpWorkspaceResponse)
  | answered (answer : Answer)
  | served (service : WorkspaceService)
  /-- Its connection went away before it was done. -/
  | dropped

namespace CallPc

def Done : CallPc → Prop
  | .absent | .registered _ | .deregistered _ | .answered _ | .served _ | .dropped => True
  | _ => False

/-- A request to the listener, under way. -/
def IsRequest : CallPc → Prop
  | .finding _ _ | .building _ _ => True
  | _ => False

/-- The handle of a listener that the call has taken and not yet cleared the services of. -/
def handle : CallPc → Option ListenerHandle
  | .cancelling handle | .clearing handle => some handle
  | _ => none

def Holds (g : ℕ) (pc : CallPc) : Prop := ∃ handle, pc.handle = some handle ∧ handle.cancel = g

def isBinding : CallPc → Bool
  | .binding _ _ => true
  | _ => false

/-- The call goes on to register a workspace, or to stop the listener if there is none. -/
def Pending : CallPc → Prop
  | .registering _ _ | .dropping _ | .asking | .taking => True
  | _ => False

/-- The call is about to register a workspace for the listener it has found. -/
def Registering : CallPc → Prop
  | .registering _ _ => True
  | _ => False

/-- A request that was let through to the endpoint, or has come to its end. -/
def Under (workspaceId : String) (caller : Option (List Char)) : CallPc → Prop
  | .finding id session | .building id session => id = workspaceId ∧ session = caller
  | .served service =>
      service.workspaceId = workspaceId ∧ service.callerSessionId = caller
  | .answered _ | .dropped => True
  | _ => False

theorem not_holds {pc : CallPc} (h : pc.handle = none) (g : ℕ) : ¬ pc.Holds g := by
  rintro ⟨handle, hsome, -⟩
  cases h.symm.trans hsome

theorem Done.handle {pc : CallPc} (h : pc.Done) : pc.handle = none := by
  cases pc with
  | cancelling handle => cases h
  | clearing handle => cases h
  | _ => rfl

theorem Done.not_pending {pc : CallPc} (h : pc.Done) : ¬ pc.Pending := by
  cases pc with
  | registering registration port => cases h
  | dropping workspaceId => cases h
  | asking => cases h
  | taking => cases h
  | _ => exact id

end CallPc

/-- The MCP server with the calls under way. -/
structure McpServer where
  workspaces : Workspaces
  listener : Option ListenerHandle
  /-- The call that holds the lock of `listener` over a wait. -/
  listenerLock : Option ℕ
  services : String × Option (List Char) → Option WorkspaceService
  /-- The call that holds the lock of `services` over a wait. -/
  servicesLock : Option ℕ
  requestCount : UInt64
  /-- How many listeners were started. -/
  started : ℕ
  /-- The token of the listener is cancelled. -/
  cancelled : ℕ → Bool
  call : ℕ → CallPc

inductive Act
  | registerMcpWorkspace (c : ℕ) (authorized : Bool) (registration : McpWorkspaceRegistration)
      (preferredPort : Option Int32)
  | ensureListener (c : ℕ)
  | bind (c : ℕ) (bindTo : UInt16 → Except String (Except String UInt16))
  | register (c : ℕ) (draws : List String) (bytes : List UInt8)
  | deregisterMcpWorkspace (c : ℕ) (authorized : Bool) (workspaceId : String)
  | dropService (c : ℕ)
  | isEmpty (c : ℕ)
  | takeListener (c : ℕ)
  | cancel (c : ℕ)
  | clear (c : ℕ)
  | resetCount (c : ℕ)
  /-- A request comes in over a connection that a listener accepted. -/
  | request (c g : ℕ) (request : Request) (order : List String)
  | serviceFor (c : ℕ)
  | build (c : ℕ)
  | noteRequest
  /-- `delete_session` forgets the endpoints of clients that ran inside the session. -/
  | dropCallerService (sessionId : String)
  | disconnect (c : ℕ)

namespace McpServer

def init : McpServer where
  workspaces := ∅
  listener := none
  listenerLock := none
  services := fun _ => none
  servicesLock := none
  requestCount := 0
  started := 0
  cancelled := fun _ => false
  call := fun _ => .absent

def setCall (s : McpServer) (c : ℕ) (pc : CallPc) : McpServer :=
  { s with call := Function.update s.call c pc }

/-- What a request finds when it comes in. That there is a service for it is seen later. -/
def state (s : McpServer) (order : List String) : McpState where
  workspaces := s.workspaces
  order
  port := s.listener.map ListenerHandle.port
  serves := fun _ _ => true

/-- A listener is started on the port, and its handle kept. -/
def start (s : McpServer) (port : UInt16) : McpServer :=
  { s with
    listener := some ⟨port, s.started⟩
    listenerLock := none
    started := s.started + 1 }

/-- Drop the services under the keys that are not retained. -/
def retain (s : McpServer) (keep : String × Option (List Char) → Bool) : McpServer :=
  { s with services := fun key => if keep key then s.services key else none }

/-- A service is built for the running listener. -/
def insertService (s : McpServer) (service : WorkspaceService) : McpServer :=
  { s with
    services := Function.update s.services (service.workspaceId, service.callerSessionId)
      (some service)
    servicesLock := none }

/-- The connection of a call goes away, and with it the lock that the call holds. -/
def drop (s : McpServer) (c : ℕ) : McpServer :=
  { s.setCall c .dropped with
    listenerLock := if s.listenerLock = some c then none else s.listenerLock
    servicesLock := if s.servicesLock = some c then none else s.servicesLock }

/-! ## The steps of the calls -/

/-- `ensure_listener`, up to the bind. -/
def ensureListener (s : McpServer) (c : ℕ) : Option McpServer :=
  match s.call c, s.listenerLock with
  | .ensuring registration preferredPort, none =>
      match s.listener with
      | some existing => some (s.setCall c (.registering registration existing.port))
      | none =>
          some { s.setCall c (.binding registration preferredPort) with listenerLock := some c }
  | _, _ => none

/-- The rest of `ensure_listener`. -/
def finishBind (s : McpServer) (c : ℕ)
    (bindTo : UInt16 → Except String (Except String UInt16)) : Option McpServer :=
  match s.call c with
  | .binding registration preferredPort =>
      match bind preferredPort bindTo with
      | .ok port => some ((s.start port).setCall c (.registering registration port))
      | .error e =>
          some { s.setCall c (.registered (listenerFailed e)) with listenerLock := none }
  | _ => none

def finishRegister (s : McpServer) (c : ℕ) (draws : List String) (bytes : List UInt8) :
    Option McpServer :=
  match s.call c with
  | .registering registration port =>
      (s.workspaces.register registration draws bytes).map fun (workspaces, id, token) =>
        { s.setCall c (.registered (workspaceRegistered id token port)) with workspaces }
  | _ => none

def beginDeregister (s : McpServer) (c : ℕ) (authorized : Bool) (workspaceId : String) :
    McpServer :=
  if !authorized then s.setCall c (.deregistered .unauthorized)
  else if workspaceId ∈ s.workspaces then
    { s.setCall c (.dropping workspaceId) with
      workspaces := (s.workspaces.deregister workspaceId).1 }
  else s.setCall c (.deregistered .workspaceNotFound)

def dropService (s : McpServer) (c : ℕ) : Option McpServer :=
  match s.call c, s.servicesLock with
  | .dropping workspaceId, none =>
      some ((s.retain fun key => key.1 ≠ workspaceId).setCall c .asking)
  | _, _ => none

def isEmpty (s : McpServer) (c : ℕ) : Option McpServer :=
  match s.call c with
  | .asking =>
      if s.workspaces.keys.isEmpty then some (s.setCall c .taking)
      else some (s.setCall c (.deregistered .workspaceDeregistered))
  | _ => none

/-- The first statement of `stop_listener`. -/
def takeListener (s : McpServer) (c : ℕ) : Option McpServer :=
  match s.call c, s.listenerLock with
  | .taking, none =>
      match s.listener with
      | some handle => some { s.setCall c (.cancelling handle) with listener := none }
      | none => some (s.setCall c (.deregistered .workspaceDeregistered))
  | _, _ => none

def cancel (s : McpServer) (c : ℕ) : Option McpServer :=
  match s.call c with
  | .cancelling handle =>
      some { s.setCall c (.clearing handle) with
        cancelled := Function.update s.cancelled handle.cancel true }
  | _ => none

def clear (s : McpServer) (c : ℕ) : Option McpServer :=
  match s.call c, s.servicesLock with
  | .clearing _, none => some ((s.retain fun _ => false).setCall c .resetting)
  | _, _ => none

def resetCount (s : McpServer) (c : ℕ) : Option McpServer :=
  match s.call c with
  | .resetting =>
      some { s.setCall c (.deregistered .workspaceDeregistered) with requestCount := 0 }
  | _ => none

def beginRequest (s : McpServer) (c : ℕ) (request : Request) (order : List String) : McpServer :=
  match Listener.call (s.state order) request with
  | .service workspaceId caller => s.setCall c (.finding workspaceId caller)
  | answer => s.setCall c (.answered answer)

/-- `service_for`, up to where it waits for the handle. -/
def serviceFor (s : McpServer) (c : ℕ) : Option McpServer :=
  match s.call c, s.servicesLock with
  | .finding workspaceId caller, none =>
      match s.services (workspaceId, caller) with
      | some existing => some (s.setCall c (.served existing))
      | none => some { s.setCall c (.building workspaceId caller) with servicesLock := some c }
  | _, _ => none

/-- The rest of `service_for`. -/
def build (s : McpServer) (c : ℕ) : Option McpServer :=
  match s.call c, s.listenerLock with
  | .building workspaceId caller, none =>
      match s.listener with
      | some handle =>
          let service : WorkspaceService := ⟨workspaceId, caller, handle.cancel⟩
          some ((s.insertService service).setCall c (.served service))
      | none => some { s.setCall c (.answered shuttingDown) with servicesLock := none }
  | _, _ => none

/-- The call may begin under this number. -/
def IsAbsent (s : McpServer) (c : ℕ) : Bool :=
  match s.call c with
  | .absent => true
  | _ => false

/-- A connection goes away while its call waits. Once the handle is taken a call does not wait
before it has cancelled the token, nor once it has cleared the services. -/
def disconnect (s : McpServer) (c : ℕ) : Option McpServer :=
  match s.call c with
  | .absent | .registered _ | .deregistered _ | .answered _ | .served _ | .dropped => none
  | .cancelling _ | .resetting => none
  | _ => some (s.drop c)

def step (s : McpServer) : Act → Option McpServer
  | .registerMcpWorkspace c authorized registration preferredPort =>
      if !s.IsAbsent c then none
      else if !authorized then some (s.setCall c (.registered .unauthorized))
      else some (s.setCall c (.ensuring registration (preferredPort.bind portOfInt)))
  | .ensureListener c => s.ensureListener c
  | .bind c bindTo => s.finishBind c bindTo
  | .register c draws bytes => s.finishRegister c draws bytes
  | .deregisterMcpWorkspace c authorized workspaceId =>
      if !s.IsAbsent c then none else some (s.beginDeregister c authorized workspaceId)
  | .dropService c => s.dropService c
  | .isEmpty c => s.isEmpty c
  | .takeListener c => s.takeListener c
  | .cancel c => s.cancel c
  | .clear c => s.clear c
  | .resetCount c => s.resetCount c
  | .request c g request order =>
      if !s.IsAbsent c || s.started ≤ g then none else some (s.beginRequest c request order)
  | .serviceFor c => s.serviceFor c
  | .build c => s.build c
  | .noteRequest => some { s with requestCount := s.requestCount + 1 }
  | .dropCallerService sessionId =>
      match s.servicesLock with
      | none => some (s.retain fun key => key.2 ≠ some sessionId.toList)
      | some _ => none
  | .disconnect c => s.disconnect c

def machine : Machine McpServer Act where
  step := step

/-! ## What a step can do -/

/-- The steps that are taken, each with what it needs. -/
inductive Change (s : McpServer) : Act → McpServer → Prop
  | registerRefused {c registration preferredPort} (hpc : s.call c = .absent) :
      Change s (.registerMcpWorkspace c false registration preferredPort)
        (s.setCall c (.registered .unauthorized))
  | registerBegins {c registration preferredPort} (hpc : s.call c = .absent) :
      Change s (.registerMcpWorkspace c true registration preferredPort)
        (s.setCall c (.ensuring registration (preferredPort.bind portOfInt)))
  | listenerFound {c registration preferredPort existing}
      (hpc : s.call c = .ensuring registration preferredPort)
      (hlistener : s.listener = some existing) :
      Change s (.ensureListener c) (s.setCall c (.registering registration existing.port))
  | locked {c registration preferredPort} (hpc : s.call c = .ensuring registration preferredPort)
      (hlock : s.listenerLock = none) (hlistener : s.listener = none) :
      Change s (.ensureListener c)
        { s.setCall c (.binding registration preferredPort) with listenerLock := some c }
  | bound {c registration preferredPort bindTo port}
      (hpc : s.call c = .binding registration preferredPort)
      (hbind : bind preferredPort bindTo = .ok port) :
      Change s (.bind c bindTo) ((s.start port).setCall c (.registering registration port))
  | bindFailed {c registration preferredPort bindTo e}
      (hpc : s.call c = .binding registration preferredPort)
      (hbind : bind preferredPort bindTo = .error e) :
      Change s (.bind c bindTo)
        { s.setCall c (.registered (listenerFailed e)) with listenerLock := none }
  | registered {c registration port draws bytes workspaces id token}
      (hpc : s.call c = .registering registration port)
      (hregister : s.workspaces.register registration draws bytes = some (workspaces, id, token)) :
      Change s (.register c draws bytes)
        { s.setCall c (.registered (workspaceRegistered id token port)) with workspaces }
  | deregisterRefused {c workspaceId} (hpc : s.call c = .absent) :
      Change s (.deregisterMcpWorkspace c false workspaceId)
        (s.setCall c (.deregistered .unauthorized))
  | notFound {c workspaceId} (hpc : s.call c = .absent) :
      Change s (.deregisterMcpWorkspace c true workspaceId)
        (s.setCall c (.deregistered .workspaceNotFound))
  | deregistered {c workspaceId} (hpc : s.call c = .absent)
      (hmem : workspaceId ∈ s.workspaces) :
      Change s (.deregisterMcpWorkspace c true workspaceId)
        { s.setCall c (.dropping workspaceId) with
          workspaces := (s.workspaces.deregister workspaceId).1 }
  | serviceDropped {c workspaceId} (hpc : s.call c = .dropping workspaceId) :
      Change s (.dropService c) ((s.retain fun key => key.1 ≠ workspaceId).setCall c .asking)
  | empty {c} (hpc : s.call c = .asking) (hempty : s.workspaces.keys.isEmpty = true) :
      Change s (.isEmpty c) (s.setCall c .taking)
  | notEmpty {c} (hpc : s.call c = .asking) (hempty : s.workspaces.keys.isEmpty = false) :
      Change s (.isEmpty c) (s.setCall c (.deregistered .workspaceDeregistered))
  | taken {c handle} (hpc : s.call c = .taking) (hlock : s.listenerLock = none)
      (hlistener : s.listener = some handle) :
      Change s (.takeListener c) { s.setCall c (.cancelling handle) with listener := none }
  | nothingTaken {c} (hpc : s.call c = .taking) (hlistener : s.listener = none) :
      Change s (.takeListener c) (s.setCall c (.deregistered .workspaceDeregistered))
  | cancelled {c handle} (hpc : s.call c = .cancelling handle) :
      Change s (.cancel c)
        { s.setCall c (.clearing handle) with
          cancelled := Function.update s.cancelled handle.cancel true }
  | cleared {c handle} (hpc : s.call c = .clearing handle) :
      Change s (.clear c) ((s.retain fun _ => false).setCall c .resetting)
  | countReset {c} (hpc : s.call c = .resetting) :
      Change s (.resetCount c)
        { s.setCall c (.deregistered .workspaceDeregistered) with requestCount := 0 }
  | admitted {c g request order workspaceId caller} (hpc : s.call c = .absent)
      (hcall : Listener.call (s.state order) request = .service workspaceId caller) :
      Change s (.request c g request order) (s.setCall c (.finding workspaceId caller))
  | answered {c g request order answer} (hpc : s.call c = .absent)
      (hcall : Listener.call (s.state order) request = answer) :
      Change s (.request c g request order) (s.setCall c (.answered answer))
  | serviceFound {c workspaceId caller existing} (hpc : s.call c = .finding workspaceId caller)
      (hservice : s.services (workspaceId, caller) = some existing) :
      Change s (.serviceFor c) (s.setCall c (.served existing))
  | servicesLocked {c workspaceId caller} (hpc : s.call c = .finding workspaceId caller)
      (hservice : s.services (workspaceId, caller) = none) :
      Change s (.serviceFor c)
        { s.setCall c (.building workspaceId caller) with servicesLock := some c }
  | built {c workspaceId caller handle} (hpc : s.call c = .building workspaceId caller)
      (hlistener : s.listener = some handle) :
      Change s (.build c)
        ((s.insertService ⟨workspaceId, caller, handle.cancel⟩).setCall c
          (.served ⟨workspaceId, caller, handle.cancel⟩))
  | notBuilt {c workspaceId caller} (hpc : s.call c = .building workspaceId caller)
      (hlistener : s.listener = none) :
      Change s (.build c) { s.setCall c (.answered shuttingDown) with servicesLock := none }
  | requestNoted : Change s .noteRequest { s with requestCount := s.requestCount + 1 }
  | callerServiceDropped {sessionId} :
      Change s (.dropCallerService sessionId)
        (s.retain fun key => key.2 ≠ some sessionId.toList)
  | disconnected {c} (hnot : ¬ (s.call c).Done) (hkeeps : ∀ handle, s.call c ≠ .cancelling handle) :
      Change s (.disconnect c) (s.drop c)

variable {s t : McpServer} {a : Act}

theorem call_of_isAbsent {c : ℕ} (h : s.IsAbsent c = true) : s.call c = .absent := by
  rw [IsAbsent] at h
  split at h
  next hpc => exact hpc
  next => cases h

theorem change_of_ensureListener {c : ℕ} (h : s.ensureListener c = some t) :
    Change s (.ensureListener c) t := by
  rw [ensureListener] at h
  split at h
  next registration preferredPort hpc hlock =>
    split at h
    next existing hlistener =>
      cases h
      exact .listenerFound hpc hlistener
    next hlistener =>
      cases h
      exact .locked hpc hlock hlistener
  next => cases h

theorem change_of_finishBind {c : ℕ} {bindTo : UInt16 → Except String (Except String UInt16)}
    (h : s.finishBind c bindTo = some t) : Change s (.bind c bindTo) t := by
  rw [finishBind] at h
  split at h
  next registration preferredPort hpc =>
    split at h
    next port hbind =>
      cases h
      exact .bound hpc hbind
    next e hbind =>
      cases h
      exact .bindFailed hpc hbind
  next => cases h

theorem change_of_finishRegister {c : ℕ} {draws : List String} {bytes : List UInt8}
    (h : s.finishRegister c draws bytes = some t) : Change s (.register c draws bytes) t := by
  rw [finishRegister] at h
  split at h
  next registration port hpc =>
    obtain ⟨⟨workspaces, id, token⟩, hregister, heq⟩ := Option.map_eq_some_iff.mp h
    cases heq
    exact .registered hpc hregister
  next => cases h

theorem change_of_beginDeregister {c : ℕ} (hpc : s.call c = .absent) (authorized : Bool)
    (workspaceId : String) :
    Change s (.deregisterMcpWorkspace c authorized workspaceId)
      (s.beginDeregister c authorized workspaceId) := by
  rw [beginDeregister]
  cases authorized with
  | false => exact .deregisterRefused hpc
  | true =>
      rw [if_neg (by decide)]
      split
      next hmem => exact .deregistered hpc hmem
      next => exact .notFound hpc

theorem change_of_takeListener {c : ℕ} (h : s.takeListener c = some t) :
    Change s (.takeListener c) t := by
  rw [takeListener] at h
  split at h
  next hpc hlock =>
    split at h
    next handle hlistener =>
      cases h
      exact .taken hpc hlock hlistener
    next hlistener =>
      cases h
      exact .nothingTaken hpc hlistener
  next => cases h

theorem change_of_beginRequest {c : ℕ} (hpc : s.call c = .absent) (g : ℕ) (request : Request)
    (order : List String) :
    Change s (.request c g request order) (s.beginRequest c request order) := by
  rw [beginRequest]
  split
  next workspaceId caller hcall => exact .admitted hpc hcall
  next => exact .answered hpc rfl

theorem change_of_serviceFor {c : ℕ} (h : s.serviceFor c = some t) :
    Change s (.serviceFor c) t := by
  rw [serviceFor] at h
  split at h
  next workspaceId caller hpc hlock =>
    split at h
    next existing hservice =>
      cases h
      exact .serviceFound hpc hservice
    next hservice =>
      cases h
      exact .servicesLocked hpc hservice
  next => cases h

theorem change_of_build {c : ℕ} (h : s.build c = some t) : Change s (.build c) t := by
  rw [build] at h
  split at h
  next workspaceId caller hpc hlock =>
    split at h
    next handle hlistener =>
      cases h
      exact .built hpc hlistener
    next hlistener =>
      cases h
      exact .notBuilt hpc hlistener
  next => cases h

theorem change_of_disconnect {c : ℕ} (h : s.disconnect c = some t) :
    Change s (.disconnect c) t := by
  cases hpc : s.call c <;> simp only [disconnect, hpc, reduceCtorEq, Option.some.injEq] at h
  all_goals
    subst h
    exact .disconnected (by simp [hpc, CallPc.Done]) (by simp [hpc])

theorem change_of_step (h : machine.step s a = some t) : Change s a t := by
  cases a with
  | registerMcpWorkspace c authorized registration preferredPort =>
      simp only [machine, step] at h
      split at h
      next => cases h
      next habsent =>
        have hpc := call_of_isAbsent (by simpa using habsent)
        cases authorized with
        | false =>
            cases h
            exact .registerRefused hpc
        | true =>
            cases h
            exact .registerBegins hpc
  | ensureListener c => exact change_of_ensureListener h
  | bind c bindTo => exact change_of_finishBind h
  | register c draws bytes => exact change_of_finishRegister h
  | deregisterMcpWorkspace c authorized workspaceId =>
      simp only [machine, step] at h
      split at h
      next => cases h
      next habsent =>
        cases h
        exact change_of_beginDeregister (call_of_isAbsent (by simpa using habsent)) _ _
  | dropService c =>
      simp only [machine, step, dropService] at h
      split at h
      next workspaceId hpc hlock =>
        cases h
        exact .serviceDropped hpc
      next => cases h
  | isEmpty c =>
      simp only [machine, step, isEmpty] at h
      split at h
      next hpc =>
        split at h
        next hempty =>
          cases h
          exact .empty hpc hempty
        next hempty =>
          cases h
          exact .notEmpty hpc (by simpa using hempty)
      next => cases h
  | takeListener c => exact change_of_takeListener h
  | cancel c =>
      simp only [machine, step, cancel] at h
      split at h
      next handle hpc =>
        cases h
        exact .cancelled hpc
      next => cases h
  | clear c =>
      simp only [machine, step, clear] at h
      split at h
      next handle hpc hlock =>
        cases h
        exact .cleared hpc
      next => cases h
  | resetCount c =>
      simp only [machine, step, resetCount] at h
      split at h
      next hpc =>
        cases h
        exact .countReset hpc
      next => cases h
  | request c g request order =>
      simp only [machine, step] at h
      split at h
      next => cases h
      next hguard =>
        cases h
        refine change_of_beginRequest (call_of_isAbsent ?_) _ _ _
        by_contra habsent
        exact hguard (by simp [habsent])
  | serviceFor c => exact change_of_serviceFor h
  | build c => exact change_of_build h
  | noteRequest =>
      cases h
      exact .requestNoted
  | dropCallerService sessionId =>
      simp only [machine, step] at h
      split at h
      next =>
        cases h
        exact .callerServiceDropped
      next => cases h
  | disconnect c => exact change_of_disconnect h

end McpServer

end Listener

end Kallichore
