import Kallichore.ExecutionQueue.Basic
import Kallichore.ExecutionHistory.Basic

/-!
# The mutable state of a kernel

Everything the tasks of a session share behind one lock. A function of the
source that runs under the lock is a function on the state here, together with
the messages it puts on the channel to the client, in order. What such a call
reads of the machine it runs on (clocks, the working directory of a process) is
a `Host`.

Idle nudges are left out: the task that receives them only decides when to look
at the sessions again.
-/

namespace Kallichore

/-- The status of a kernel (`models::Status`). -/
inductive Status
  | uninitialized
  | starting
  | ready
  | idle
  | busy
  | offline
  | exited
  deriving DecidableEq, Repr

/-- What one call sees of the machine it runs on. -/
structure Host where
  /-- The monotonic clock. -/
  instant : ℕ
  /-- The wall clock, in milliseconds since the epoch. -/
  timestampMillis : Int
  /-- The wall clock as the dates of a message header and of its parent. -/
  date : String
  parentDate : String
  /-- The working directory of a process, where it can be read. -/
  processCwd : UInt32 → Option String

/-- A machine on which nothing can be read. -/
def sampleHost : Host where
  instant := 0
  timestampMillis := 0
  date := ""
  parentDate := ""
  processCwd := fun _ => none

/-- A standard stream of the kernel's process. -/
inductive OutputStream
  | stdout
  | stderr
  deriving DecidableEq, Repr

/-- The resources that the kernel's processes use. -/
structure ResourceUpdate where
  cpuPercent : UInt64
  memoryBytes : UInt64
  threadCount : UInt64
  samplingPeriodMs : UInt64
  timestamp : UInt64

structure ExecutionAttribution where
  source : String
  agentName : Option String
  agentVersion : Option String
  workspaceId : String
  tool : String

/-- A request submitted by something other than the connected client. -/
structure ExecutionRequested where
  msgId : String
  code : String
  /-- In milliseconds since the epoch. -/
  requestedAt : Int
  attribution : ExecutionAttribution

/-- Messages to the client about the kernel itself. Connection info is carried as
JSON. -/
inductive KernelMessage
  | status (status : Status) (reason : Option String)
  | output (stream : OutputStream) (text : String)
  | executionQueued (msgId : String)
  | workingDirChanged (workingDir : String)
  | resourceUsage (update : ResourceUpdate)
  | clientDisconnected (reason : String)
  | exited (code : Int)
  | handshakeCompleted (sessionId : String) (connectionInfo : Value)
  | executionRequested (request : ExecutionRequested)

inductive WebsocketMessage
  | kernel (message : KernelMessage)
  | jupyter (message : JupyterMessage)

/-- The mutable state of the kernel. An RPC listener is a channel, known by its
number, that wants the messages with a given parent. -/
structure KernelState where
  sessionId : String
  status : Status
  connected : Bool
  restarting : Bool
  workingDirectory : String
  processId : Option UInt32
  executionQueue : ExecutionQueue
  history : ExecutionHistory
  idleSince : Option ℕ
  busySince : Option ℕ
  rpcListeners : List (String × ℕ)

namespace KernelState

def new (sessionId workingDirectory : String) (host : Host) : KernelState where
  sessionId := sessionId
  status := .idle
  workingDirectory := workingDirectory
  connected := false
  restarting := false
  processId := none
  executionQueue := ExecutionQueue.new
  history := { entries := [] }
  idleSince := some host.instant
  busySince := none
  rpcListeners := []

/-- Polls the working directory to see if it's changed. -/
def pollWorkingDir (state : KernelState) (host : Host) :
    KernelState × List WebsocketMessage :=
  match state.processId.bind host.processCwd with
  | none => (state, [])
  | some workingDir =>
      if workingDir ≠ state.workingDirectory then
        ({ state with workingDirectory := workingDir },
          [.kernel (.workingDirChanged workingDir)])
      else (state, [])

/-- The fields a new status is written to. -/
def enterStatus (state : KernelState) (status : Status) (host : Host) : KernelState :=
  { state with
    status
    executionQueue :=
      if status = .exited then state.executionQueue.clear else state.executionQueue
    processId := if status = .exited then none else state.processId
    idleSince :=
      if status = .idle ∨ status = .ready ∨ status = .exited then some host.instant
      else none
    busySince := if status = .busy then some host.instant else none }

/-- Set the kernel's status. Nothing happens if the status didn't change, or if
a kernel that has exited is said to be idle or busy. -/
def setStatus (state : KernelState) (status : Status) (reason : Option String)
    (host : Host) : KernelState × List WebsocketMessage :=
  if state.status = status then (state, [])
  else if state.status = .exited ∧ (status = .idle ∨ status = .busy) then (state, [])
  else
    let state := state.enterStatus status host
    let update := [.kernel (.status status reason)]
    -- The kernel may have changed its directory while executing code.
    if status = .idle ∧ reason = some "execute_request" then
      let (state, changed) := state.pollWorkingDir host
      (state, update ++ changed)
    else (state, update)

/-! ## What a status write changes -/

theorem pollWorkingDir_eq (state : KernelState) (host : Host) :
    ∃ workingDirectory,
      (state.pollWorkingDir host).1 = { state with workingDirectory } := by
  unfold pollWorkingDir
  split
  · exact ⟨state.workingDirectory, rfl⟩
  · split
    · exact ⟨_, rfl⟩
    · exact ⟨state.workingDirectory, rfl⟩

/-- A status write is ignored, or it enters the status and may find that the
working directory changed. -/
theorem setStatus_cases (state : KernelState) (status : Status)
    (reason : Option String) (host : Host) :
    ((state.status = status ∨
        state.status = .exited ∧ (status = .idle ∨ status = .busy)) ∧
      (state.setStatus status reason host).1 = state) ∨
    (state.status ≠ status ∧
        ¬ (state.status = .exited ∧ (status = .idle ∨ status = .busy)) ∧
      ∃ workingDirectory, (state.setStatus status reason host).1 =
        { state.enterStatus status host with workingDirectory }) := by
  unfold setStatus
  by_cases hsame : state.status = status
  · exact Or.inl ⟨Or.inl hsame, by rw [if_pos hsame]⟩
  · by_cases hlate : state.status = .exited ∧ (status = .idle ∨ status = .busy)
    · exact Or.inl ⟨Or.inr hlate, by rw [if_neg hsame, if_pos hlate]⟩
    · refine Or.inr ⟨hsame, hlate, ?_⟩
      rw [if_neg hsame, if_neg hlate]
      by_cases hpoll : status = .idle ∧ reason = some "execute_request"
      · rw [if_pos hpoll]
        exact pollWorkingDir_eq (state.enterStatus status host) host
      · rw [if_neg hpoll]
        exact ⟨state.workingDirectory, rfl⟩

theorem setStatus_of_exited {state : KernelState} (h : state.status = .exited)
    {status : Status} (hstatus : status = .idle ∨ status = .busy)
    (reason : Option String) (host : Host) :
    (state.setStatus status reason host).1 = state := by
  rcases state.setStatus_cases status reason host with ⟨-, heq⟩ | ⟨-, hlate, -⟩
  · exact heq
  · exact absurd ⟨h, hstatus⟩ hlate

theorem setStatus_status (state : KernelState) (status : Status)
    (reason : Option String) (host : Host) :
    (state.setStatus status reason host).1.status =
      if state.status = .exited ∧ (status = .idle ∨ status = .busy) then .exited
      else status := by
  rcases state.setStatus_cases status reason host with
    ⟨hsame | hlate, heq⟩ | ⟨-, hlate, workingDirectory, heq⟩
  · rw [heq, hsame]
    split
    · rename_i hlate
      exact hlate.1
    · rfl
  · rw [heq, if_pos hlate, hlate.1]
  · rw [heq, if_neg hlate]
    rfl

theorem setStatus_executionQueue (state : KernelState) (status : Status)
    (reason : Option String) (host : Host) :
    (state.setStatus status reason host).1.executionQueue =
      if state.status ≠ .exited ∧ status = .exited then state.executionQueue.clear
      else state.executionQueue := by
  rcases state.setStatus_cases status reason host with
    ⟨hsame | hlate, heq⟩ | ⟨hne, -, workingDirectory, heq⟩
  · rw [heq, if_neg fun hexit => hexit.1 (hsame.trans hexit.2)]
  · rw [heq, if_neg fun hexit => hexit.1 hlate.1]
  · rw [heq]
    by_cases hexited : status = .exited
    · simp [enterStatus, hexited, hexited ▸ hne]
    · simp [enterStatus, hexited]

theorem setStatus_processId (state : KernelState) (status : Status)
    (reason : Option String) (host : Host) :
    (state.setStatus status reason host).1.processId =
      if state.status ≠ .exited ∧ status = .exited then none else state.processId := by
  rcases state.setStatus_cases status reason host with
    ⟨hsame | hlate, heq⟩ | ⟨hne, -, workingDirectory, heq⟩
  · rw [heq, if_neg fun hexit => hexit.1 (hsame.trans hexit.2)]
  · rw [heq, if_neg fun hexit => hexit.1 hlate.1]
  · rw [heq]
    by_cases hexited : status = .exited
    · simp [enterStatus, hexited, hexited ▸ hne]
    · simp [enterStatus, hexited]

theorem setStatus_restarting (state : KernelState) (status : Status)
    (reason : Option String) (host : Host) :
    (state.setStatus status reason host).1.restarting = state.restarting := by
  rcases state.setStatus_cases status reason host with
    ⟨-, heq⟩ | ⟨-, -, workingDirectory, heq⟩
  · rw [heq]
  · rw [heq]
    rfl

theorem setStatus_rpcListeners (state : KernelState) (status : Status)
    (reason : Option String) (host : Host) :
    (state.setStatus status reason host).1.rpcListeners = state.rpcListeners := by
  rcases state.setStatus_cases status reason host with
    ⟨-, heq⟩ | ⟨-, -, workingDirectory, heq⟩
  · rw [heq]
  · rw [heq]
    rfl

theorem setStatus_connected (state : KernelState) (status : Status)
    (reason : Option String) (host : Host) :
    (state.setStatus status reason host).1.connected = state.connected := by
  rcases state.setStatus_cases status reason host with
    ⟨-, heq⟩ | ⟨-, -, workingDirectory, heq⟩
  · rw [heq]
  · rw [heq]
    rfl

theorem setStatus_updates (state : KernelState) (status : Status)
    (reason : Option String) (host : Host) :
    ∀ update ∈ (state.setStatus status reason host).2,
      ∃ message, update = WebsocketMessage.kernel message := by
  have hpoll : ∀ kernel : KernelState, ∀ update ∈ (kernel.pollWorkingDir host).2,
      ∃ message, update = WebsocketMessage.kernel message := by
    intro kernel update hupdate
    unfold pollWorkingDir at hupdate
    split at hupdate
    · cases hupdate
    · split at hupdate
      · exact ⟨_, List.mem_singleton.mp hupdate⟩
      · cases hupdate
  intro update hupdate
  unfold setStatus at hupdate
  split at hupdate
  · cases hupdate
  · split at hupdate
    · cases hupdate
    · split at hupdate
      · rcases List.mem_append.mp hupdate with hold | hnew
        · exact ⟨_, List.mem_singleton.mp hold⟩
        · exact hpoll _ update hnew
      · exact ⟨_, List.mem_singleton.mp hupdate⟩

end KernelState

end Kallichore
