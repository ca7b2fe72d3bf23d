import Kallichore.Lib.Machine
import Kallichore.Proxy.Loop

/-!
# A session

The proxy of a kernel together with everything else that touches its queue and
its channel: clients that post messages, calls of `execute_collect`, which post
a request and may give up on it and abandon it, the tasks that write the status,
and the request to kill the kernel. A step is what happens between two points at
which another task may run: one section of the proxy, one locked section, one
message posted.

Whether a call of `execute_collect` gets its reply, times out or is cancelled is
left open: `finish` and `giveUp` can be taken at any time once the request is
posted.
-/

namespace Kallichore

/-- How a kernel is interrupted (`models::InterruptMode`). -/
inductive InterruptMode
  | signal
  | message
  deriving DecidableEq, Repr

/-- What a caller of `execute_collect` asks for. -/
structure ExecuteOptions where
  code : String
  silent : Bool
  storeHistory : Bool
  stopOnError : Bool
  attribution : Option Value

/-- The request `execute_collect` makes of its options. -/
def collectRequest (msgId : String) (options : ExecuteOptions) : JupyterMessage where
  header := { msgId, msgType := "execute_request" }
  parentHeader := none
  channel := .shell
  content := .object [("allow_stdin", .bool false), ("code", .string options.code),
    ("silent", .bool options.silent), ("stop_on_error", .bool options.stopOnError),
    ("store_history", .bool options.storeHistory), ("user_expressions", .object [])]
  metadata :=
    match options.attribution with
    | some attribution => .object [("attribution", attribution)]
    | none => .object []
  buffers := []

def interruptRequest (msgId : String) : JupyterMessage where
  header := { msgId, msgType := "interrupt_request" }
  parentHeader := none
  channel := .control
  content := .object []
  metadata := .object []
  buffers := []

/-- How far a call of `execute_collect` has come. -/
inductive CallPhase
  | absent
  /-- The listener is registered. -/
  | registered (request : JupyterMessage)
  /-- The request is on the channel and its output is being collected. -/
  | submitted
  /-- Timed out or cancelled, and about to abandon the request. -/
  | gaveUp
  /-- The request was running: about to interrupt the kernel. -/
  | interrupting
  | finished

/-- A session: its proxy with the shared state, how its kernel is interrupted,
and its calls of `execute_collect` by message ID. -/
structure Session where
  loop : ProxyLoop
  mode : InterruptMode
  call : String → CallPhase

namespace Session

inductive Act
  | proxy (a : ProxyLoop.Act)
  /-- A client posts a message. -/
  | post (msg : JupyterMessage)
  | register (msgId : String) (options : ExecuteOptions) (listener : ℕ)
  | submit (msgId : String)
  /-- The reply is complete. -/
  | finish (msgId : String)
  /-- The call timed out or was cancelled. -/
  | giveUp (msgId : String)
  /-- The locked section of `abandon`. -/
  | abandon (msgId : String)
  /-- Interrupt the kernel, by a message with the new ID if it takes messages. -/
  | interrupt (msgId interruptId : String)
  | exit (reason : String) (host : Host)
  /-- A heartbeat monitor or `start` writes the status. -/
  | status (status : Status) (reason : Option String) (host : Host)
  /-- `kill_session` clears the queue. -/
  | kill

/-- `abandon` under the lock: withdraw the request if it is still queued; the
answer is whether it is running. -/
def abandonSection (kernel : KernelState) (msgId : String) : KernelState × Bool :=
  match kernel.executionQueue.removePending msgId with
  | (queue, true) => ({ kernel with executionQueue := queue }, false)
  | (queue, false) =>
      ({ kernel with executionQueue := queue },
        queue.active.any fun active => active.msgId = msgId)

def setKernel (s : Session) (kernel : KernelState) : Session :=
  { s with loop := { s.loop with kernel } }

def setCall (s : Session) (msgId : String) (phase : CallPhase) : Session :=
  { s with call := Function.update s.call msgId phase }

/-- Put a message on the channel to the kernel. -/
def enqueue (s : Session) (msg : JupyterMessage) (poster : Poster) : Session :=
  { s with loop := { s.loop with wsZmq := s.loop.wsZmq ++ [{ msg, poster }] } }

/-- Take the listener of a call out of the table. -/
def unregister (s : Session) (msgId : String) : Session :=
  s.setKernel { s.loop.kernel with
    rpcListeners := s.loop.kernel.rpcListeners.filter fun entry => entry.1 ≠ msgId }

def step (D : Codecs) (connection : KernelConnection) (s : Session) : Act → Option Session
  | .proxy a => (s.loop.step D connection a).map fun loop => { s with loop }
  | .post msg => some (s.enqueue msg .client)
  | .register msgId options listener =>
      match s.call msgId with
      | .absent =>
          let kernel := (s.unregister msgId).loop.kernel
          some ((s.setKernel
            { kernel with rpcListeners := (msgId, listener) :: kernel.rpcListeners }).setCall
              msgId (.registered (collectRequest msgId options)))
      | _ => none
  | .submit msgId =>
      match s.call msgId with
      | .registered request => some ((s.enqueue request .collect).setCall msgId .submitted)
      | _ => none
  | .finish msgId =>
      match s.call msgId with
      | .submitted => some ((s.unregister msgId).setCall msgId .finished)
      | _ => none
  | .giveUp msgId =>
      match s.call msgId with
      | .submitted => some ((s.unregister msgId).setCall msgId .gaveUp)
      | _ => none
  | .abandon msgId =>
      match s.call msgId with
      | .gaveUp =>
          let (kernel, running) := abandonSection s.loop.kernel msgId
          some ((s.setKernel kernel).setCall msgId
            (if running then .interrupting else .finished))
      | _ => none
  | .interrupt msgId interruptId =>
      match s.call msgId with
      | .interrupting =>
          match s.mode with
          -- A signal goes to the process and leaves the session as it is.
          | .signal => some (s.setCall msgId .finished)
          | .message =>
              some ((s.enqueue (interruptRequest interruptId) (.abandon msgId)).setCall
                msgId .finished)
      | _ => none
  | .exit reason host =>
      some (s.setKernel (s.loop.kernel.setStatus .exited (some reason) host).1)
  | .status status reason host =>
      if status = .idle ∨ status = .offline ∨ status = .starting then
        some (s.setKernel (s.loop.kernel.setStatus status reason host).1)
      else none
  | .kill =>
      some (s.setKernel { s.loop.kernel with
        executionQueue := s.loop.kernel.executionQueue.clear })

def machine (D : Codecs) (connection : KernelConnection) : Machine Session Act :=
  ⟨step D connection⟩

inductive Took (D : Codecs) (connection : KernelConnection) (s : Session) :
    Act → Session → Prop
  | proxy {a : ProxyLoop.Act} {loop : ProxyLoop} (hloop : s.loop.step D connection a = some loop) :
      Took D connection s (.proxy a) { s with loop }
  | post {msg : JupyterMessage} : Took D connection s (.post msg) (s.enqueue msg .client)
  | register {msgId : String} {options : ExecuteOptions} {listener : ℕ}
      (hcall : s.call msgId = .absent) :
      Took D connection s (.register msgId options listener)
        ((s.setKernel { (s.unregister msgId).loop.kernel with
          rpcListeners :=
            (msgId, listener) :: (s.unregister msgId).loop.kernel.rpcListeners }).setCall
              msgId (.registered (collectRequest msgId options)))
  | submit {msgId : String} {request : JupyterMessage}
      (hcall : s.call msgId = .registered request) :
      Took D connection s (.submit msgId) ((s.enqueue request .collect).setCall msgId .submitted)
  | finish {msgId : String} (hcall : s.call msgId = .submitted) :
      Took D connection s (.finish msgId) ((s.unregister msgId).setCall msgId .finished)
  | giveUp {msgId : String} (hcall : s.call msgId = .submitted) :
      Took D connection s (.giveUp msgId) ((s.unregister msgId).setCall msgId .gaveUp)
  | abandon {msgId : String} (hcall : s.call msgId = .gaveUp) :
      Took D connection s (.abandon msgId)
        ((s.setKernel (abandonSection s.loop.kernel msgId).1).setCall msgId
          (if (abandonSection s.loop.kernel msgId).2 then .interrupting else .finished))
  | signal {msgId interruptId : String} (hcall : s.call msgId = .interrupting)
      (hmode : s.mode = .signal) :
      Took D connection s (.interrupt msgId interruptId) (s.setCall msgId .finished)
  | message {msgId interruptId : String} (hcall : s.call msgId = .interrupting)
      (hmode : s.mode = .message) :
      Took D connection s (.interrupt msgId interruptId)
        ((s.enqueue (interruptRequest interruptId) (.abandon msgId)).setCall msgId .finished)
  | exit {reason : String} {host : Host} :
      Took D connection s (.exit reason host)
        (s.setKernel (s.loop.kernel.setStatus .exited (some reason) host).1)
  | status {status : Status} {reason : Option String} {host : Host}
      (hstatus : status = .idle ∨ status = .offline ∨ status = .starting) :
      Took D connection s (.status status reason host)
        (s.setKernel (s.loop.kernel.setStatus status reason host).1)
  | kill :
      Took D connection s .kill
        (s.setKernel { s.loop.kernel with
          executionQueue := s.loop.kernel.executionQueue.clear })

/-- A new session whose proxy begins to listen. -/
def init (sessionId workingDirectory : String) (host : Host) (mode : InterruptMode)
    (pendingIopubMessages : List (List Bytes)) : Session where
  loop :=
    { kernel := KernelState.new sessionId workingDirectory host
      wsZmq := []
      pc := .listening
      pendingIopubMessages
      flushing := false
      log := [] }
  mode := mode
  call := fun _ => .absent

def executionQueue (s : Session) : ExecutionQueue := s.loop.executionQueue

def Posts (s : Session) (posted : Posted) : Act → Prop
  | .post msg => posted = { msg, poster := .client }
  | .submit msgId => ∃ request, s.call msgId = .registered request ∧
      posted = { msg := request, poster := .collect }
  | .interrupt msgId interruptId => s.call msgId = .interrupting ∧ s.mode = .message ∧
      posted = { msg := interruptRequest interruptId, poster := .abandon msgId }
  | _ => False

/-- Nothing but the calls and the parts of the shared state other than the queue
differ. -/
structure SameLoop (w t : ProxyLoop) : Prop where
  queue : t.executionQueue = w.executionQueue
  channel : t.wsZmq = w.wsZmq
  pc : t.pc = w.pc
  log : t.log = w.log

/-- A step of the session, as its queue, channel and log show it. -/
inductive Change (D : Codecs) (connection : KernelConnection) (s t : Session) : Act → Prop
  | proxy (a : ProxyLoop.Act) (hloop : ProxyLoop.Change D connection s.loop t.loop a) :
      Change D connection s t (.proxy a)
  /-- A message was put on the channel. -/
  | posted (a : Act) (posted : Posted) (hposted : s.Posts posted a)
      (hloop : SameLoop { s.loop with wsZmq := s.loop.wsZmq ++ [posted] } t.loop) :
      Change D connection s t a
  /-- A request was withdrawn, if it was pending. -/
  | withdrawn (msgId : String) (hcall : s.call msgId = .gaveUp)
      (hqueue : t.executionQueue = (s.executionQueue.removePending msgId).1)
      (hchannel : t.loop.wsZmq = s.loop.wsZmq) (hpc : t.loop.pc = s.loop.pc)
      (hlog : t.loop.log = s.loop.log) : Change D connection s t (.abandon msgId)
  /-- The kernel was killed or has exited. -/
  | cleared (a : Act)
      (hact : a = .kill ∨
        s.loop.kernel.status ≠ .exited ∧ ∃ reason host, a = .exit reason host)
      (hqueue : t.executionQueue = s.executionQueue.clear)
      (hchannel : t.loop.wsZmq = s.loop.wsZmq) (hpc : t.loop.pc = s.loop.pc)
      (hlog : t.loop.log = s.loop.log) : Change D connection s t a
  /-- The calls of `execute_collect` and the rest of the shared state went on. -/
  | other (a : Act) (hloop : SameLoop s.loop t.loop) : Change D connection s t a

/-- What happens to a call of `execute_collect` in one step. -/
inductive CallChange (s t : Session) (a : Act) (msgId : String) : Prop
  | same (h : t.call msgId = s.call msgId)
  | registered (options : ExecuteOptions) (h : s.call msgId = .absent)
      (h' : t.call msgId = .registered (collectRequest msgId options))
  | submitted (request : JupyterMessage) (h : s.call msgId = .registered request)
      (h' : t.call msgId = .submitted)
  | collected (h : s.call msgId = .submitted)
      (h' : t.call msgId = .finished ∨ t.call msgId = .gaveUp)
  | abandoned (h : s.call msgId = .gaveUp) (hact : a = .abandon msgId)
      (h' : t.call msgId =
        if (abandonSection s.loop.kernel msgId).2 then .interrupting else .finished)
  | interrupted (h : s.call msgId = .interrupting) (h' : t.call msgId = .finished)

/-! ## Every step is one of the changes -/

theorem sameLoop_refl (w : ProxyLoop) : SameLoop w w := ⟨rfl, rfl, rfl, rfl⟩

theorem sameLoop_setKernel {w : ProxyLoop} {kernel : KernelState}
    (h : kernel.executionQueue = w.kernel.executionQueue) :
    SameLoop w { w with kernel } := ⟨h, rfl, rfl, rfl⟩

/-- Nothing but the queue changes under the lock of `abandon`. -/
theorem abandonSection_fst (kernel : KernelState) (msgId : String) :
    (abandonSection kernel msgId).1 = { kernel with
      executionQueue := (kernel.executionQueue.removePending msgId).1 } := by
  unfold abandonSection
  split
  all_goals
    rename_i queue hremove
    rw [hremove]

theorem abandonSection_running {kernel : KernelState} {msgId : String}
    (h : (abandonSection kernel msgId).2 = true) :
    ∃ active, kernel.executionQueue.active = some active ∧ active.msgId = msgId := by
  unfold abandonSection at h
  split at h
  · cases h
  · rename_i queue hremove
    have hactive : queue.active = kernel.executionQueue.active := by
      rw [← ExecutionQueue.removePending_active kernel.executionQueue msgId, hremove]
    rw [hactive] at h
    cases hcase : kernel.executionQueue.active with
    | none =>
        rw [hcase] at h
        cases h
    | some active =>
        rw [hcase] at h
        exact ⟨active, rfl, by simpa using h⟩

variable {D : Codecs} {connection : KernelConnection}

theorem step_took {s t : Session} {a : Act} (h : s.step D connection a = some t) :
    Took D connection s a t := by
  cases a with
  | proxy a =>
      obtain ⟨loop, hloop, rfl⟩ := Option.map_eq_some_iff.mp h
      exact .proxy hloop
  | post msg =>
      cases h
      exact .post
  | register msgId options listener =>
      simp only [step] at h
      split at h
      · cases h
        exact .register ‹_›
      · cases h
  | submit msgId =>
      simp only [step] at h
      split at h
      · cases h
        exact .submit ‹_›
      · cases h
  | finish msgId =>
      simp only [step] at h
      split at h
      · cases h
        exact .finish ‹_›
      · cases h
  | giveUp msgId =>
      simp only [step] at h
      split at h
      · cases h
        exact .giveUp ‹_›
      · cases h
  | abandon msgId =>
      simp only [step] at h
      split at h
      · cases h
        exact .abandon ‹_›
      · cases h
  | interrupt msgId interruptId =>
      simp only [step] at h
      split at h
      · split at h
        · cases h
          exact .signal ‹_› ‹_›
        · cases h
          exact .message ‹_› ‹_›
      · cases h
  | exit reason host =>
      cases h
      exact .exit
  | status status reason host =>
      simp only [step] at h
      split at h
      · cases h
        exact .status ‹_›
      · cases h
  | kill =>
      cases h
      exact .kill

/-- The locked section of `abandon`, as its queue and its call show it. -/
theorem step_abandon {s t : Session} {msgId : String}
    (h : s.step D connection (.abandon msgId) = some t) :
    s.call msgId = .gaveUp ∧
      t.executionQueue = (s.executionQueue.removePending msgId).1 ∧
      t.call msgId =
        if (abandonSection s.loop.kernel msgId).2 then .interrupting else .finished := by
  cases step_took h with
  | abandon hcall =>
      refine ⟨hcall, ?_, ?_⟩
      · exact congrArg KernelState.executionQueue (abandonSection_fst s.loop.kernel msgId)
      · simp [setCall]

theorem step_change {s t : Session} {a : Act} (h : s.step D connection a = some t) :
    Change D connection s t a := by
  cases step_took h with
  | proxy hloop => exact .proxy _ (ProxyLoop.step_change hloop)
  | @post msg => exact .posted _ { msg, poster := .client } rfl (sameLoop_refl _)
  | register hcall => exact .other _ (sameLoop_setKernel rfl)
  | @submit msgId request hcall =>
      exact .posted _ { msg := request, poster := .collect } ⟨request, hcall, rfl⟩
        (sameLoop_refl _)
  | finish hcall | giveUp hcall => exact .other _ (sameLoop_setKernel rfl)
  | @abandon msgId hcall =>
      obtain ⟨-, hqueue, -⟩ := step_abandon h
      exact .withdrawn msgId hcall hqueue rfl rfl rfl
  | signal hcall hmode => exact .other _ (sameLoop_refl _)
  | @message msgId interruptId hcall hmode =>
      exact .posted _ { msg := interruptRequest interruptId, poster := .abandon msgId }
        ⟨hcall, hmode, rfl⟩ (sameLoop_refl _)
  | @exit reason host =>
      by_cases hexited : s.loop.kernel.status = .exited
      · refine .other _ (sameLoop_setKernel ?_)
        simp [KernelState.setStatus_executionQueue, hexited]
      · refine .cleared _ (Or.inr ⟨hexited, reason, host, rfl⟩) ?_ rfl rfl rfl
        simp [executionQueue, ProxyLoop.executionQueue, setKernel,
          KernelState.setStatus_executionQueue, hexited]
  | @status status reason host hstatus =>
      refine .other _ (sameLoop_setKernel ?_)
      have hne : status ≠ .exited := by
        rcases hstatus with rfl | rfl | rfl <;> simp
      simp [KernelState.setStatus_executionQueue, hne]
  | kill => exact .cleared _ (Or.inl rfl) rfl rfl rfl rfl

theorem step_mode {s t : Session} {a : Act} (h : s.step D connection a = some t) :
    t.mode = s.mode := by
  cases step_took h <;> rfl

theorem callChange_setCall {s u : Session} {a : Act} {msgId : String} {phase : CallPhase}
    (hu : u.call = s.call) (h : CallChange s (u.setCall msgId phase) a msgId)
    (other : String) : CallChange s (u.setCall msgId phase) a other := by
  by_cases heq : other = msgId
  · rw [heq]
    exact h
  · refine .same ?_
    simp [setCall, heq, hu]

theorem step_call {s t : Session} {a : Act} (h : s.step D connection a = some t)
    (msgId : String) : CallChange s t a msgId := by
  cases step_took h with
  | proxy | post | exit | status | kill => exact .same rfl
  | @register own options listener hcall =>
      refine callChange_setCall ?_ ?_ msgId
      · rfl
      · exact .registered options hcall (by simp [setCall])
  | @submit own request hcall =>
      refine callChange_setCall ?_ ?_ msgId
      · rfl
      · exact .submitted request hcall (by simp [setCall])
  | finish hcall | giveUp hcall =>
      refine callChange_setCall ?_ ?_ msgId
      · rfl
      · exact .collected hcall (by simp [setCall])
  | abandon hcall =>
      refine callChange_setCall ?_ ?_ msgId
      · rfl
      · exact .abandoned hcall rfl (by simp [setCall])
  | signal hcall hmode | message hcall hmode =>
      refine callChange_setCall ?_ ?_ msgId
      · rfl
      · exact .interrupted hcall (by simp [setCall])

end Session

end Kallichore
