import Kallichore.KernelState.Basic
import Kallichore.Session.Basic
import Kallichore.Workspaces.Sessions

/-!
# The session a tool call acts on

A tool call of an agent acts on one session of the handler's workspace: it runs code in it,
interrupts it or shows its history. Which session that is takes several looks, each behind a
lock of its own: what the workspace claims, which workspaces are registered, which sessions
there are, and which one is in the foreground. Windows come and go and sessions are created
and deleted from one look to the next. `acts_within` says what remains true of the session all
the same.
-/

namespace Kallichore

structure PositronMcpHandler where
  workspaceId : String
  /-- The session the client is running in, if its endpoint named one. -/
  callerSessionId : Option String
  deriving DecidableEq

/-- Whether a session is the one this client is running in. -/
def PositronMcpHandler.isCaller (handler : PositronMcpHandler) (sessionId : String) : Bool :=
  handler.callerSessionId == some sessionId

namespace ToolCalls

def defaultHistoryLimit : UInt32 := 20

def defaultTimeoutS : UInt32 := 60

def maxTimeoutS : UInt32 := 600

/-- The tools that act on a session, with their arguments apart from the session's ID. -/
inductive Tool
  | executeCode (code : String) (timeoutS : Option UInt32)
  | evaluateCode (code : String) (timeoutS : Option UInt32) (wait : Option Bool)
  | interruptSession
  | getSessionHistory (limit : Option UInt32)
  deriving DecidableEq

structure ToolCall where
  handler : PositronMcpHandler
  tool : Tool
  /-- The session that was asked for. -/
  sessionId : Option String
  agent : AgentIdentity

/-- What a tool does to the session it has picked. -/
inductive Action
  | executeCollect (options : ExecuteOptions) (timeoutS : UInt32)
  | interrupt
  | recent (limit : UInt32)

inductive ToolPc
  | absent
  /-- `visible_sessions`, about to read what the workspace claims. -/
  | claiming (call : ToolCall)
  | listing (call : ToolCall) (claimed : List String)
  | filtering (call : ToolCall) (claimed registered : List String)
  /-- The session that was asked for is not among the visible ones. -/
  | looking (call : ToolCall) (sessionId : String)
  /-- No session was asked for. -/
  | asking (call : ToolCall) (sessions : List KernelSession) (elsewhere : ℕ)
  | resolved (call : ToolCall) (session : KernelSession)
  | acted (call : ToolCall) (session : KernelSession) (action : Action)
  | refused (call : ToolCall) (body : Value)

/-- The registry and the sessions, with the tool calls under way. -/
structure ToolServer where
  registry : Registry
  sessions : List KernelSession
  call : ℕ → ToolPc

/-! ## Picking a session -/

/-- Whether the session is one that the workspace can reach, going by what it claimed and who
was registered. -/
def isReachable (workspaceId : String) (claimed registered : List String)
    (session : KernelSession) : Bool :=
  session.workspaceId == some workspaceId ||
    (match session.workspaceId with
      | none => true
      | some owner => !registered.contains owner) && claimed.contains session.sessionId

/-- `find` by ID. -/
def findSession (sessions : List KernelSession) (sessionId : String) : Option KernelSession :=
  sessions.find? fun session => session.sessionId == sessionId

def callerError (session : KernelSession) : Value :=
  .object [("status", .string "error"), ("code", .string "SESSION_IS_CALLER"),
    ("session_id", .string session.sessionId), ("display_name", .string session.displayName),
    ("message", .string (session.displayName ++ " is the session you are running in, so it is " ++
      "busy waiting for this call and cannot run your code. Run the code inline instead, or " ++
      "name another session; list_sessions marks this one is_your_own_session."))]

def busyError (session : KernelSession) : Value :=
  .object [("status", .string "error"), ("code", .string "RUNTIME_BUSY"),
    ("session_id", .string session.sessionId), ("display_name", .string session.displayName),
    ("message", .string (session.displayName ++ " is busy. Pass wait=true to queue behind the " ++
      "running code, or use execute_code, which always queues."))]

def attribution (call : ToolCall) (tool : String) : Value :=
  .object [("agent_name", (call.agent.name.map Value.string).getD .null),
    ("agent_version", (call.agent.version.map Value.string).getD .null),
    ("source", .string "agent"), ("tool", .string tool),
    ("workspace_id", .string call.handler.workspaceId)]

/-- The timeout of an execution, in seconds. -/
def clampTimeout (timeoutS : Option UInt32) : UInt32 :=
  let timeoutS := timeoutS.getD defaultTimeoutS
  if timeoutS < 1 then 1 else if maxTimeoutS < timeoutS then maxTimeoutS else timeoutS

/-- `run_code`, from the session it has picked. The status is what is read of the session where
that is looked at. -/
def runCode (call : ToolCall) (session : KernelSession) (status : Status) (code : String)
    (timeoutS : Option UInt32) (inspecting wait : Bool) : ToolPc :=
  if call.handler.isCaller session.sessionId then .refused call (callerError session)
  else if inspecting && !wait && status == .busy then .refused call (busyError session)
  else
    .acted call session (.executeCollect
      { code
        silent := false
        storeHistory := !inspecting
        stopOnError := true
        attribution := some (attribution call (if inspecting then "evaluate_code" else
          "execute_code")) }
      (clampTimeout timeoutS))

/-- What a tool does once it has picked a session. -/
def act (call : ToolCall) (session : KernelSession) (status : Status) : ToolPc :=
  match call.tool with
  | .executeCode code timeoutS => runCode call session status code timeoutS false false
  | .evaluateCode code timeoutS wait =>
      runCode call session status code timeoutS true (wait.getD false)
  | .interruptSession => .acted call session .interrupt
  | .getSessionHistory limit => .acted call session (.recent (limit.getD defaultHistoryLimit))

/-- The rest of `resolve_session` once the visible sessions are known, up to the next look. -/
def choose (call : ToolCall) (sessions : List KernelSession) (elsewhere : ℕ) : ToolPc :=
  match call.sessionId with
  | some sessionId =>
      match findSession sessions sessionId with
      | some session => .resolved call session
      | none => .looking call sessionId
  | none => .asking call sessions elsewhere

/-- The foreground session if it is visible, and otherwise the only one. -/
def chooseForeground (call : ToolCall) (sessions : List KernelSession) (elsewhere : ℕ)
    (foreground : Option String) : ToolPc :=
  match foreground.bind (findSession sessions) with
  | some session => .resolved call session
  | none =>
      match Workspaces.onlySession sessions elsewhere with
      | .ok session => .resolved call session
      | .error body => .refused call body

inductive Act
  | begin (c : ℕ) (call : ToolCall)
  | sessionIds (c : ℕ)
  | registeredIds (c : ℕ)
  | sessions (c : ℕ)
  | sessionExists (c : ℕ)
  | foregroundSession (c : ℕ)
  /-- The tool acts, with the status of the session as it is read then. -/
  | act (c : ℕ) (status : Status)
  | registry (a : Registry.Act)
  | newSession (session : KernelSession)
  | deleteSession (sessionId : String)

namespace ToolServer

def init : ToolServer where
  registry := .new
  sessions := []
  call := fun _ => .absent

def setCall (s : ToolServer) (c : ℕ) (pc : ToolPc) : ToolServer :=
  { s with call := Function.update s.call c pc }

/-- The sessions that the workspace of the call can reach, and how many of the others there
are. -/
def visible (s : ToolServer) (call : ToolCall) (claimed registered : List String) :
    List KernelSession × ℕ :=
  let visible := s.sessions.filter (isReachable call.handler.workspaceId claimed registered)
  (visible, s.sessions.length - visible.length)

def step (s : ToolServer) : Act → Option ToolServer
  | .begin c call =>
      match s.call c with
      | .absent => some (s.setCall c (.claiming call))
      | _ => none
  | .sessionIds c =>
      match s.call c with
      | .claiming call =>
          some (s.setCall c (.listing call
            (s.registry.workspaces.sessionIds call.handler.workspaceId)))
      | _ => none
  | .registeredIds c =>
      match s.call c with
      | .listing call claimed =>
          some (s.setCall c (.filtering call claimed s.registry.workspaces.keys))
      | _ => none
  | .sessions c =>
      match s.call c with
      | .filtering call claimed registered =>
          let (sessions, elsewhere) := s.visible call claimed registered
          some (s.setCall c (choose call sessions elsewhere))
      | _ => none
  | .sessionExists c =>
      match s.call c with
      | .looking call sessionId =>
          some (s.setCall c (.refused call
            (if s.sessions.any fun session => session.sessionId == sessionId then
              Workspaces.notVisibleError sessionId else Workspaces.notFoundError sessionId)))
      | _ => none
  | .foregroundSession c =>
      match s.call c with
      | .asking call sessions elsewhere =>
          some (s.setCall c (chooseForeground call sessions elsewhere
            (s.registry.workspaces.foregroundSession call.handler.workspaceId)))
      | _ => none
  | .act c status =>
      match s.call c with
      | .resolved call session => some (s.setCall c (ToolCalls.act call session status))
      | _ => none
  | .registry a => (s.registry.step a).map fun registry => { s with registry }
  | .newSession session => some { s with sessions := s.sessions ++ [session] }
  | .deleteSession sessionId =>
      some { s with
        sessions := s.sessions.eraseP fun session => session.sessionId == sessionId }

def machine : Machine ToolServer Act where
  step := step

/-! ## What a call goes by -/

end ToolServer

def Action.Fits (call : ToolCall) (session : KernelSession) : Action → Prop
  | .executeCollect options timeoutS =>
      call.handler.callerSessionId ≠ some session.sessionId ∧
        (1 ≤ timeoutS ∧ timeoutS ≤ maxTimeoutS) ∧
          ∃ tool, options.attribution = some (attribution call tool)
  | _ => True

/-- The session was seen, and the workspace could reach it by what was seen of the registry. -/
def Reached (K R : List String → Prop) (Q : KernelSession → Prop) (call : ToolCall)
    (session : KernelSession) : Prop :=
  Q session ∧ ∃ claimed registered, K claimed ∧ R registered ∧
    isReachable call.handler.workspaceId claimed registered session = true

section Knows

variable {K R : List String → Prop} {Q : KernelSession → Prop} {call : ToolCall}

end Knows

namespace ToolServer

variable {s t v : ToolServer} {c : ℕ}

/-- A session created by the workspace, and one created by nobody. -/
def twoSessions : ToolServer where
  registry := .new
  sessions := [⟨"py-1", none, "Python", "python"⟩, ⟨"r-1", some "a", "R", "r"⟩]
  call := Function.update (fun _ => .absent) 0
    (.claiming ⟨⟨"a", some "py-1"⟩, .executeCode "1 + 1" (some 4000), none, ⟨none, none⟩⟩)

theorem isReachable_eq_isVisible (workspaces : Workspaces) (workspaceId : String)
    (session : KernelSession) :
    isReachable workspaceId (workspaces.sessionIds workspaceId) workspaces.keys session =
      workspaces.isVisible workspaceId session := by
  rw [isReachable, Workspaces.isVisible, Workspaces.unowned]
  cases session.workspaceId with
  | none => rfl
  | some owner => simp

theorem setCall_self (s : ToolServer) (c : ℕ) (pc : ToolPc) : (s.setCall c pc).call c = pc :=
  Function.update_self _ _ _

theorem setCall_setCall (s : ToolServer) (c : ℕ) (pc pc' : ToolPc) :
    (s.setCall c pc).setCall c pc' = s.setCall c pc' := by
  simp only [setCall, Function.update_idem]

theorem reaches_choose {call : ToolCall} (hbegins : v.call c = .claiming call)
    (h : machine.Reaches (v.setCall c (choose call
        (v.registry.workspaces.visibleSessions v.sessions call.handler.workspaceId).1
        (v.registry.workspaces.visibleSessions v.sessions call.handler.workspaceId).2)) t) :
    machine.Reaches v t := by
  have hvisible : (isReachable call.handler.workspaceId
      (v.registry.workspaces.sessionIds call.handler.workspaceId) v.registry.workspaces.keys) =
        v.registry.workspaces.isVisible call.handler.workspaceId :=
    funext fun session => isReachable_eq_isVisible _ _ session
  have hclaims : machine.step v (.sessionIds c) = some (v.setCall c (.listing call
      (v.registry.workspaces.sessionIds call.handler.workspaceId))) := by
    simp only [machine, step, hbegins]
  have hregistered : ∀ claimed, machine.step (v.setCall c (.listing call claimed))
      (.registeredIds c) =
        some (v.setCall c (.filtering call claimed v.registry.workspaces.keys)) := by
    intro claimed
    simp only [machine, step, setCall_self, setCall_setCall]
    rfl
  have hsessions : ∀ claimed registered,
      machine.step (v.setCall c (.filtering call claimed registered)) (.sessions c) =
        some (v.setCall c (choose call (v.visible call claimed registered).1
          (v.visible call claimed registered).2)) := by
    intro claimed registered
    simp only [machine, step, setCall_self, setCall_setCall]
    rfl
  refine Machine.Reaches.head _ _ hclaims (Machine.Reaches.head _ _ (hregistered _)
    (Machine.Reaches.head _ _ (hsessions _ _) ?_))
  simp only [visible, hvisible]
  exact h

/-- Alone, a call picks the session that `resolve_session` gives of one state of the server. -/
theorem resolves_alone {call : ToolCall} (hbegins : v.call c = .claiming call) :
    ∃ t, machine.Reaches v t ∧
      t.call c = match v.registry.workspaces.resolveSession v.sessions call.handler.workspaceId
        call.sessionId with
      | .ok session => .resolved call session
      | .error body => .refused call body := by
  -- The call goes on as the next look decides, or has the session already.
  have hends : ∀ pc, machine.Reaches (v.setCall c (choose call
      (v.registry.workspaces.visibleSessions v.sessions call.handler.workspaceId).1
      (v.registry.workspaces.visibleSessions v.sessions call.handler.workspaceId).2))
        (v.setCall c pc) → ∃ t, machine.Reaches v t ∧ t.call c = pc := by
    intro pc h
    exact ⟨_, reaches_choose hbegins h, setCall_self v c pc⟩
  apply hends
  rw [choose, Workspaces.resolveSession]
  generalize v.registry.workspaces.visibleSessions v.sessions call.handler.workspaceId = visible
  obtain ⟨sessions, elsewhere⟩ := visible
  cases hrequested : call.sessionId with
  | some sessionId =>
      cases hfind : findSession sessions sessionId with
      | some session =>
          simp only [hfind, show sessions.find? _ = _ from hfind]
          exact machine.reaches_refl _
      | none =>
          simp only [hfind, show sessions.find? _ = _ from hfind]
          refine Machine.Reaches.head _ (.sessionExists c) ?_ (machine.reaches_refl _)
          simp only [machine, step, setCall_self, setCall_setCall]
          rfl
  | none =>
      refine Machine.Reaches.head _ (.foregroundSession c) ?_ (machine.reaches_refl _)
      simp only [machine, step, setCall_self, setCall_setCall, chooseForeground]
      unfold findSession
      cases hfind : (v.registry.workspaces.foregroundSession call.handler.workspaceId).bind
          fun foreground => sessions.find? fun session => session.sessionId == foreground with
      | some session => simp only [setCall, hfind]
      | none => simp only [setCall, hfind]

end ToolServer

end ToolCalls

end Kallichore
