import Kallichore.Proxy.Forward

/-!
# The loop of the proxy

`listen` takes messages one at a time, from the channel the session's tasks post
to and from the kernel's sockets, and forwards each of them through the sections
of `Proxy.Forward`. Between two sections the lock on the shared state is free,
so a step of the loop is one section and everything else can happen between two
steps. The iopub messages set aside during startup are flushed first; a failure
to forward one of those is only logged, while any other ends the loop.

The log of a loop is what it handed out and the messages it decoded, in order.
-/

namespace Kallichore

/-- Who put a message on the channel to the kernel. -/
inductive Poster
  /-- A client, or the server on behalf of one. -/
  | client
  /-- `execute_collect`, its own request. -/
  | collect
  /-- The interrupt that follows on abandoning a request. -/
  | abandon (msgId : String)
  deriving DecidableEq, Repr

/-- A message on the channel to the kernel. -/
structure Posted where
  msg : JupyterMessage
  poster : Poster

/-- Where the proxy is: listening, in one of the sections of `forward_ws` or
`forward_zmq`, or not running any more. -/
inductive ProxyPc
  | listening
  | queueing (posted : Posted)
  | sending (posted : Posted)
  | updating (message : JupyterMessage) (executionState : ExecutionState)
  | dequeuing (message : JupyterMessage)
  | recording (message : JupyterMessage)
  | publishing (message : JupyterMessage)
  | ended
  | panicked

inductive ProxyEvent
  | out (output : Output)
  | decoded (message : JupyterMessage)

/-- The proxy with what it shares with the other tasks: the kernel state and the
channel to the kernel. -/
structure ProxyLoop where
  kernel : KernelState
  wsZmq : List Posted
  pc : ProxyPc
  /-- The iopub messages set aside during startup. -/
  pendingIopubMessages : List (List Bytes)
  /-- The message in hand is one of those. -/
  flushing : Bool
  log : List ProxyEvent

namespace ProxyLoop

inductive Act
  /-- Take a message off the channel. -/
  | receive
  /-- The locked section of `forward_ws`. -/
  | queue (host : Host)
  | send (host : Host) (sent : Bool)
  /-- A message arrives on a socket. -/
  | arrive (channel : JupyterChannel) (frames : List Bytes)
  /-- Take the next iopub message set aside during startup. -/
  | flush
  | update (host : Host)
  | dequeue (host : Host) (sent : Bool)
  | record
  | publish
  /-- The sockets close, the kernel exits or its heartbeat is lost. -/
  | stop

def emit (w : ProxyLoop) (outputs : List Output) : ProxyLoop :=
  { w with log := w.log ++ outputs.map .out }

/-- A failure ends the loop, unless the message in hand is being flushed. -/
def fail (w : ProxyLoop) : ProxyLoop :=
  { w with pc := if w.flushing then .listening else .ended }

/-- Where `forward_zmq` goes on once the queue is done with. -/
def afterQueue (message : JupyterMessage) : ProxyPc :=
  match message.parentHeader with
  | some _ => .recording message
  | none => .publishing message

/-- Where `forward_zmq` goes on with a decoded message. -/
def afterDecode (message : JupyterMessage) : ProxyPc :=
  match JupyterMsg.ofMessage message with
  | .status executionState => .updating message executionState
  | _ => afterQueue message

/-- Where `forward_zmq` goes on after a status was written. -/
def afterUpdate (message : JupyterMessage) : ExecutionState → ProxyPc
  | .busy => afterQueue message
  | .idle => .dequeuing message

/-- Where `forward_ws` begins: only the requests it knows need the lock. -/
def afterReceive (posted : Posted) : ProxyPc :=
  match JupyterMsg.ofMessage posted.msg with
  | .executeRequest _ | .interruptRequest | .shutdownRequest => .queueing posted
  | _ => .sending posted

/-- The first part of `forward_zmq`: decode the message, which may fail. -/
def decode (D : Codecs) (connection : KernelConnection) (w : ProxyLoop)
    (channel : JupyterChannel) (frames : List Bytes) : ProxyLoop :=
  let wire := WireMessage.fromZmq connection.sessionId channel frames
  match wire.toJupyter D channel connection.hmacKey with
  | .ok message =>
      { w with log := w.log ++ [.decoded message], pc := afterDecode message }
  | .err _ => w
  | .panic => { w with pc := .panicked }

def step (D : Codecs) (connection : KernelConnection) (w : ProxyLoop) :
    Act → Option ProxyLoop
  | .receive =>
      match w.pc, w.pendingIopubMessages, w.wsZmq with
      | .listening, [], posted :: rest =>
          some { w with wsZmq := rest, flushing := false, pc := afterReceive posted }
      | _, _, _ => none
  | .queue host =>
      match w.pc with
      | .queueing posted =>
          match ZmqWsProxy.queueSection w.kernel posted.msg host with
          | (kernel, outputs, true) =>
              some (emit { w with kernel, pc := .sending posted } outputs)
          | (kernel, outputs, false) =>
              some (emit { w with kernel, pc := .listening } outputs)
      | _ => none
  | .send host sent =>
      match w.pc with
      | .sending posted =>
          match ZmqWsProxy.sendSection D connection posted.msg host sent with
          | .ok outputs => some (emit { w with pc := .listening } outputs)
          | .error _ => some w.fail
      | _ => none
  | .arrive channel frames =>
      match w.pc, w.pendingIopubMessages with
      | .listening, [] => some (decode D connection { w with flushing := false } channel frames)
      | _, _ => none
  | .flush =>
      match w.pc, w.pendingIopubMessages with
      | .listening, frames :: rest =>
          some (decode D connection { w with pendingIopubMessages := rest, flushing := true }
            .ioPub frames)
      | _, _ => none
  | .update host =>
      match w.pc with
      | .updating message executionState =>
          let (kernel, outputs) :=
            ZmqWsProxy.statusSection w.kernel message executionState host
          some (emit { w with kernel, pc := afterUpdate message executionState } outputs)
      | _ => none
  | .dequeue host sent =>
      match w.pc with
      | .dequeuing message =>
          match ZmqWsProxy.dequeueSection D connection w.kernel host sent with
          | (kernel, .ok outputs) =>
              some (emit { w with kernel, pc := afterQueue message } outputs)
          | (kernel, .error _) => some (fail { w with kernel })
      | _ => none
  | .record =>
      match w.pc with
      | .recording message =>
          let (kernel, outputs) := ZmqWsProxy.recordSection w.kernel message
          some (emit { w with kernel, pc := .publishing message } outputs)
      | _ => none
  | .publish =>
      match w.pc with
      | .publishing message =>
          some (emit { w with pc := .listening } (ZmqWsProxy.publishSection message))
      | _ => none
  | .stop =>
      match w.pc, w.pendingIopubMessages with
      | .listening, [] => some { w with pc := .ended }
      | _, _ => none

inductive Took (D : Codecs) (connection : KernelConnection) (w : ProxyLoop) :
    Act → ProxyLoop → Prop
  | receive {posted : Posted} {rest : List Posted} (hpc : w.pc = .listening)
      (hpending : w.pendingIopubMessages = []) (hchannel : w.wsZmq = posted :: rest) :
      Took D connection w .receive
        { w with wsZmq := rest, flushing := false, pc := afterReceive posted }
  | passOn {host : Host} {posted : Posted} {kernel : KernelState} {outputs : List Output}
      (hpc : w.pc = .queueing posted)
      (hsection : ZmqWsProxy.queueSection w.kernel posted.msg host = (kernel, outputs, true)) :
      Took D connection w (.queue host) (emit { w with kernel, pc := .sending posted } outputs)
  | hold {host : Host} {posted : Posted} {kernel : KernelState} {outputs : List Output}
      (hpc : w.pc = .queueing posted)
      (hsection : ZmqWsProxy.queueSection w.kernel posted.msg host = (kernel, outputs, false)) :
      Took D connection w (.queue host) (emit { w with kernel, pc := .listening } outputs)
  | send {host : Host} {sent : Bool} {posted : Posted} {outputs : List Output}
      (hpc : w.pc = .sending posted)
      (hsection : ZmqWsProxy.sendSection D connection posted.msg host sent = .ok outputs) :
      Took D connection w (.send host sent) (emit { w with pc := .listening } outputs)
  | sendFails {host : Host} {sent : Bool} {posted : Posted} {e : ForwardError}
      (hpc : w.pc = .sending posted)
      (hsection : ZmqWsProxy.sendSection D connection posted.msg host sent = .error e) :
      Took D connection w (.send host sent) w.fail
  | arrive {channel : JupyterChannel} {frames : List Bytes} (hpc : w.pc = .listening)
      (hpending : w.pendingIopubMessages = []) :
      Took D connection w (.arrive channel frames)
        (decode D connection { w with flushing := false } channel frames)
  | flush {frames : List Bytes} {rest : List (List Bytes)} (hpc : w.pc = .listening)
      (hpending : w.pendingIopubMessages = frames :: rest) :
      Took D connection w .flush
        (decode D connection { w with pendingIopubMessages := rest, flushing := true }
          .ioPub frames)
  | update {host : Host} {message : JupyterMessage} {executionState : ExecutionState}
      (hpc : w.pc = .updating message executionState) :
      Took D connection w (.update host)
        (emit { w with
          kernel := (ZmqWsProxy.statusSection w.kernel message executionState host).1
          pc := afterUpdate message executionState }
          (ZmqWsProxy.statusSection w.kernel message executionState host).2)
  | dequeue {host : Host} {sent : Bool} {message : JupyterMessage} {kernel : KernelState}
      {outputs : List Output} (hpc : w.pc = .dequeuing message)
      (hsection : ZmqWsProxy.dequeueSection D connection w.kernel host sent =
        (kernel, .ok outputs)) :
      Took D connection w (.dequeue host sent)
        (emit { w with kernel, pc := afterQueue message } outputs)
  | dequeueFails {host : Host} {sent : Bool} {message : JupyterMessage} {kernel : KernelState}
      {e : ForwardError} (hpc : w.pc = .dequeuing message)
      (hsection : ZmqWsProxy.dequeueSection D connection w.kernel host sent =
        (kernel, .error e)) :
      Took D connection w (.dequeue host sent) (fail { w with kernel })
  | record {message : JupyterMessage} (hpc : w.pc = .recording message) :
      Took D connection w .record
        (emit { w with
          kernel := (ZmqWsProxy.recordSection w.kernel message).1, pc := .publishing message }
          (ZmqWsProxy.recordSection w.kernel message).2)
  | publish {message : JupyterMessage} (hpc : w.pc = .publishing message) :
      Took D connection w .publish
        (emit { w with pc := .listening } (ZmqWsProxy.publishSection message))
  | stop (hpc : w.pc = .listening) (hpending : w.pendingIopubMessages = []) :
      Took D connection w .stop { w with pc := .ended }

theorem step_took {D : Codecs} {connection : KernelConnection} {w t : ProxyLoop} {a : Act}
    (h : w.step D connection a = some t) : Took D connection w a t := by
  cases a with
  | receive =>
      simp only [step] at h
      split at h
      · cases h
        exact .receive ‹_› ‹_› ‹_›
      · cases h
  | queue host =>
      simp only [step] at h
      split at h
      · split at h
        · cases h
          exact .passOn ‹_› ‹_›
        · cases h
          exact .hold ‹_› ‹_›
      · cases h
  | send host sent =>
      simp only [step] at h
      split at h
      · split at h
        · cases h
          exact .send ‹_› ‹_›
        · cases h
          exact .sendFails ‹_› ‹_›
      · cases h
  | arrive channel frames =>
      simp only [step] at h
      split at h
      · cases h
        exact .arrive ‹_› ‹_›
      · cases h
  | flush =>
      simp only [step] at h
      split at h
      · cases h
        exact .flush ‹_› ‹_›
      · cases h
  | update host =>
      simp only [step] at h
      split at h
      · cases h
        exact .update ‹_›
      · cases h
  | dequeue host sent =>
      simp only [step] at h
      split at h
      · split at h
        · cases h
          exact .dequeue ‹_› ‹_›
        · cases h
          exact .dequeueFails ‹_› ‹_›
      · cases h
  | record =>
      simp only [step] at h
      split at h
      · cases h
        exact .record ‹_›
      · cases h
  | publish =>
      simp only [step] at h
      split at h
      · cases h
        exact .publish ‹_›
      · cases h
  | stop =>
      simp only [step] at h
      split at h
      · cases h
        exact .stop ‹_› ‹_›
      · cases h

/-! ## What a step changes

The queue, the channel, the place of the proxy and its log are what the other
modules reason about; `Change` says what a step makes of them. -/

/-- The proxy holds no message of a client, and no status that has yet to be
acted on. -/
def Free : ProxyPc → Prop
  | .queueing _ | .sending _ | .updating _ _ | .dequeuing _ => False
  | _ => True

/-- An event that is only of interest to clients and listeners. -/
def Quiet : ProxyEvent → Prop
  | .out (.websocket _) | .out (.rpc _ _) => True
  | _ => False

/-- The message that an arrival delivers. -/
def Delivers (D : Codecs) (connection : KernelConnection) (w : ProxyLoop)
    (message : JupyterMessage) : Act → Prop
  | .arrive channel frames =>
      (WireMessage.fromZmq connection.sessionId channel frames).toJupyter D channel
        connection.hmacKey = .ok message
  | .flush => ∃ frames rest, w.pendingIopubMessages = frames :: rest ∧
      (WireMessage.fromZmq connection.sessionId .ioPub frames).toJupyter D .ioPub
        connection.hmacKey = .ok message
  | _ => False

/-- Decoding the message that arrives ends the proxy's task. -/
def Panics (D : Codecs) (connection : KernelConnection) (w : ProxyLoop) : Act → Prop
  | .arrive channel frames =>
      (WireMessage.fromZmq connection.sessionId channel frames).toJupyter D channel
        connection.hmacKey = .panic
  | .flush => ∃ frames rest, w.pendingIopubMessages = frames :: rest ∧
      (WireMessage.fromZmq connection.sessionId .ioPub frames).toJupyter D .ioPub
        connection.hmacKey = .panic
  | _ => False

/-- The message asks for an execution, and can be read to do so. -/
def Executes (msg : JupyterMessage) : Prop :=
  ∃ content, JupyterMsg.ofMessage msg = .executeRequest content

/-- The message makes the proxy clear the queue. -/
def Clears (msg : JupyterMessage) : Prop :=
  JupyterMsg.ofMessage msg = .interruptRequest ∨ JupyterMsg.ofMessage msg = .shutdownRequest

theorem Executes.not_clears {msg : JupyterMessage} (h : Executes msg) : ¬ Clears msg := by
  obtain ⟨content, hcontent⟩ := h
  simp [Clears, hcontent]

def executionQueue (w : ProxyLoop) : ExecutionQueue := w.kernel.executionQueue

/-- A step of the proxy, as its queue, channel, place and log show it. -/
inductive Change (D : Codecs) (connection : KernelConnection) (w t : ProxyLoop) : Act → Prop
  /-- A message was taken off the channel. -/
  | received (posted : Posted) (rest : List Posted) (hpc : w.pc = .listening)
      (hchannel : w.wsZmq = posted :: rest) (hchannel' : t.wsZmq = rest)
      (hqueue : t.executionQueue = w.executionQueue) (hpc' : t.pc = afterReceive posted)
      (hlog : t.log = w.log) : Change D connection w t .receive
  /-- A request found the active slot free and goes on to its socket. -/
  | admitted (host : Host) (posted : Posted) (hpc : w.pc = .queueing posted)
      (hmsg : Executes posted.msg) (hactive : w.executionQueue.active = none)
      (hqueue : t.executionQueue = { w.executionQueue with active := some posted.msg })
      (hchannel : t.wsZmq = w.wsZmq) (hpc' : t.pc = .sending posted)
      (hlog : t.log = w.log) : Change D connection w t (.queue host)
  /-- A request was put behind the active one. -/
  | queued (host : Host) (posted : Posted) (active : JupyterMessage)
      (hpc : w.pc = .queueing posted) (hmsg : Executes posted.msg)
      (hactive : w.executionQueue.active = some active)
      (hqueue : t.executionQueue =
        { w.executionQueue with pending := w.executionQueue.pending ++ [posted.msg] })
      (hchannel : t.wsZmq = w.wsZmq) (hpc' : t.pc = .listening)
      (hlog : ∃ events, t.log = w.log ++ events ∧ ∀ event ∈ events, Quiet event) :
      Change D connection w t (.queue host)
  /-- An interrupt or a shutdown emptied the queue and goes on to its socket. -/
  | cleared (host : Host) (posted : Posted) (hpc : w.pc = .queueing posted)
      (hmsg : Clears posted.msg) (hqueue : t.executionQueue = w.executionQueue.clear)
      (hchannel : t.wsZmq = w.wsZmq) (hpc' : t.pc = .sending posted)
      (hlog : t.log = w.log) : Change D connection w t (.queue host)
  /-- Any other message goes on as it is. -/
  | passed (host : Host) (posted : Posted) (hpc : w.pc = .queueing posted)
      (hmsg : ¬ Executes posted.msg ∧ ¬ Clears posted.msg)
      (hqueue : t.executionQueue = w.executionQueue) (hchannel : t.wsZmq = w.wsZmq)
      (hpc' : t.pc = .sending posted) (hlog : t.log = w.log) :
      Change D connection w t (.queue host)
  /-- A message was handed to the socket of its channel. -/
  | sent (host : Host) (accepted : Bool) (posted : Posted) (frames : List Bytes)
      (hpc : w.pc = .sending posted) (hqueue : t.executionQueue = w.executionQueue)
      (hchannel : t.wsZmq = w.wsZmq) (hpc' : t.pc = .listening)
      (hlog : t.log = w.log ++ [.out (.socket posted.msg.channel posted.msg frames)]) :
      Change D connection w t (.send host accepted)
  /-- A message could not be sent, or has no socket. -/
  | unsent (host : Host) (accepted : Bool) (posted : Posted)
      (hpc : w.pc = .sending posted) (hqueue : t.executionQueue = w.executionQueue)
      (hchannel : t.wsZmq = w.wsZmq) (hpc' : Free t.pc) (hlog : t.log = w.log) :
      Change D connection w t (.send host accepted)
  /-- A message of the kernel was decoded. -/
  | decoded (a : Act) (message : JupyterMessage) (hpc : w.pc = .listening)
      (hmessage : Delivers D connection w message a)
      (hqueue : t.executionQueue = w.executionQueue) (hchannel : t.wsZmq = w.wsZmq)
      (hpc' : t.pc = afterDecode message) (hlog : t.log = w.log ++ [.decoded message]) :
      Change D connection w t a
  /-- A message of the kernel was discarded, or was the end of the proxy. -/
  | discarded (a : Act) (hpc : w.pc = .listening)
      (hqueue : t.executionQueue = w.executionQueue) (hchannel : t.wsZmq = w.wsZmq)
      (hpc' : Free t.pc) (hlog : t.log = w.log) : Change D connection w t a
  | updated (host : Host) (message : JupyterMessage) (executionState : ExecutionState)
      (hpc : w.pc = .updating message executionState)
      (hqueue : t.executionQueue = w.executionQueue) (hchannel : t.wsZmq = w.wsZmq)
      (hpc' : t.pc = afterUpdate message executionState)
      (hlog : ∃ events, t.log = w.log ++ events ∧ ∀ event ∈ events, Quiet event) :
      Change D connection w t (.update host)
  /-- The kernel is idle and no request waits. -/
  | drained (host : Host) (accepted : Bool) (message : JupyterMessage)
      (hpc : w.pc = .dequeuing message) (hpending : w.executionQueue.pending = [])
      (hqueue : t.executionQueue = { w.executionQueue with active := none })
      (hchannel : t.wsZmq = w.wsZmq) (hpc' : Free t.pc) (hlog : t.log = w.log) :
      Change D connection w t (.dequeue host accepted)
  /-- The kernel is idle and the next request was handed to the shell socket. -/
  | released (host : Host) (accepted : Bool) (message request : JupyterMessage)
      (rest : List JupyterMessage) (frames : List Bytes) (hpc : w.pc = .dequeuing message)
      (hpending : w.executionQueue.pending = request :: rest)
      (hqueue : t.executionQueue = { active := some request, pending := rest })
      (hchannel : t.wsZmq = w.wsZmq) (hpc' : Free t.pc)
      (hlog : t.log = w.log ++ [.out (.socket .shell request frames)]) :
      Change D connection w t (.dequeue host accepted)
  /-- The kernel is idle and the next request could not be sent. -/
  | lost (host : Host) (accepted : Bool) (message request : JupyterMessage)
      (rest : List JupyterMessage) (hpc : w.pc = .dequeuing message)
      (hpending : w.executionQueue.pending = request :: rest)
      (hqueue : t.executionQueue = { active := some request, pending := rest })
      (hchannel : t.wsZmq = w.wsZmq) (hpc' : Free t.pc) (hlog : t.log = w.log) :
      Change D connection w t (.dequeue host accepted)
  /-- The message was passed on, or the loop ended. -/
  | moved (a : Act) (hpc : Free w.pc) (hqueue : t.executionQueue = w.executionQueue)
      (hchannel : t.wsZmq = w.wsZmq) (hpc' : Free t.pc)
      (hlog : ∃ events, t.log = w.log ++ events ∧ ∀ event ∈ events, Quiet event) :
      Change D connection w t a

theorem free_afterQueue (message : JupyterMessage) : Free (afterQueue message) := by
  unfold afterQueue
  split <;> trivial

theorem afterReceive_eq (posted : Posted) :
    afterReceive posted = .queueing posted ∨ afterReceive posted = .sending posted := by
  unfold afterReceive
  split
  · exact Or.inl rfl
  · exact Or.inl rfl
  · exact Or.inl rfl
  · exact Or.inr rfl

theorem free_fail (w : ProxyLoop) : Free w.fail.pc := by
  simp only [fail]
  split <;> trivial

theorem quiet_websocket (messages : List WebsocketMessage) :
    ∀ event ∈ (messages.map Output.websocket).map ProxyEvent.out, Quiet event := by
  intro event hevent
  simp only [List.map_map, List.mem_map, Function.comp_apply] at hevent
  obtain ⟨message, -, rfl⟩ := hevent
  trivial

/-- The section of `forward_ws` under the lock. -/
theorem change_queue {D : Codecs} {connection : KernelConnection} {w t : ProxyLoop}
    {host : Host} {posted : Posted} (hpc : w.pc = .queueing posted)
    (h : w.step D connection (.queue host) = some t) :
    Change D connection w t (.queue host) := by
  simp only [step, hpc] at h
  cases hmsg : JupyterMsg.ofMessage posted.msg with
  | executeRequest content =>
      cases hactive : w.kernel.executionQueue.active with
      | none =>
          simp only [ZmqWsProxy.queueSection, hmsg,
            ExecutionQueue.processRequest_of_none hactive] at h
          cases h
          exact .admitted host posted hpc ⟨content, hmsg⟩ hactive rfl rfl rfl (by simp [emit])
      | some active =>
          simp only [ZmqWsProxy.queueSection, hmsg,
            ExecutionQueue.processRequest_of_some hactive] at h
          cases h
          refine .queued host posted active hpc ⟨content, hmsg⟩ hactive rfl rfl rfl
            ⟨_, rfl, quiet_websocket [.kernel (.executionQueued posted.msg.msgId)]⟩
  | interruptRequest =>
      simp only [ZmqWsProxy.queueSection, hmsg] at h
      cases h
      exact .cleared host posted hpc (Or.inl hmsg) rfl rfl rfl (by simp [emit])
  | shutdownRequest =>
      simp only [ZmqWsProxy.queueSection, hmsg] at h
      cases h
      exact .cleared host posted hpc (Or.inr hmsg) rfl rfl rfl (by simp [emit])
  | handshakeRequest content | status executionState | other =>
      simp only [ZmqWsProxy.queueSection, hmsg] at h
      cases h
      refine .passed host posted hpc ⟨?_, ?_⟩ rfl rfl rfl (by simp [emit])
      · rintro ⟨content', heq⟩
        rw [hmsg] at heq
        cases heq
      · simp [Clears, hmsg]

/-- The section of `forward_zmq` that releases the next request. -/
theorem change_dequeue {D : Codecs} {connection : KernelConnection} {w t : ProxyLoop}
    {host : Host} {accepted : Bool} {message : JupyterMessage}
    (hpc : w.pc = .dequeuing message)
    (h : w.step D connection (.dequeue host accepted) = some t) :
    Change D connection w t (.dequeue host accepted) := by
  simp only [step, hpc] at h
  cases hpending : w.kernel.executionQueue.pending with
  | nil =>
      simp only [ZmqWsProxy.dequeueSection, ExecutionQueue.nextRequest_of_nil hpending] at h
      cases h
      exact .drained host accepted message hpc hpending rfl rfl (free_afterQueue message)
        (by simp [emit])
  | cons request rest =>
      simp only [ZmqWsProxy.dequeueSection,
        ExecutionQueue.nextRequest_of_cons hpending] at h
      cases hsend : ZmqWsProxy.sendTo D connection .shell request host accepted with
      | ok outputs =>
          rw [hsend] at h
          cases h
          obtain ⟨frames, rfl⟩ := ZmqWsProxy.sendTo_eq_ok hsend
          exact .released host accepted message request rest frames hpc hpending rfl rfl
            (free_afterQueue message) rfl
      | error e =>
          rw [hsend] at h
          cases h
          exact .lost host accepted message request rest hpc hpending rfl rfl
            (free_fail _) rfl

theorem decode_of_ok {D : Codecs} {connection : KernelConnection} {channel : JupyterChannel}
    {frames : List Bytes} {message : JupyterMessage}
    (h : (WireMessage.fromZmq connection.sessionId channel frames).toJupyter D channel
      connection.hmacKey = .ok message) (w : ProxyLoop) :
    decode D connection w channel frames =
      { w with log := w.log ++ [ProxyEvent.decoded message], pc := afterDecode message } := by
  simp only [decode, h]

theorem change_decode {D : Codecs} {connection : KernelConnection} {w u : ProxyLoop}
    {channel : JupyterChannel} {frames : List Bytes} {a : Act} (hpc : w.pc = .listening)
    (hu : u.kernel = w.kernel ∧ u.wsZmq = w.wsZmq ∧ u.pc = w.pc ∧ u.log = w.log)
    (ha : ∀ message, (WireMessage.fromZmq connection.sessionId channel frames).toJupyter D
      channel connection.hmacKey = .ok message → Delivers D connection w message a) :
    Change D connection w (decode D connection u channel frames) a := by
  obtain ⟨hkernel, hchannel, hpcs, hlog⟩ := hu
  cases hdecoded : (WireMessage.fromZmq connection.sessionId channel frames).toJupyter D
      channel connection.hmacKey with
  | ok message =>
      rw [decode_of_ok hdecoded]
      refine .decoded a message hpc (ha message hdecoded) ?_ hchannel rfl ?_
      · simp [executionQueue, hkernel]
      · simp [hlog]
  | err e =>
      refine .discarded a hpc ?_ ?_ ?_ ?_
      · simp [decode, hdecoded, executionQueue, hkernel]
      · simp [decode, hdecoded, hchannel]
      · simp [decode, hdecoded, hpcs, hpc, Free]
      · simp [decode, hdecoded, hlog]
  | panic =>
      refine .discarded a hpc ?_ ?_ ?_ ?_
      · simp [decode, hdecoded, executionQueue, hkernel]
      · simp [decode, hdecoded, hchannel]
      · simp [decode, hdecoded, Free]
      · simp [decode, hdecoded, hlog]

theorem step_change {D : Codecs} {connection : KernelConnection} {w t : ProxyLoop} {a : Act}
    (h : w.step D connection a = some t) : Change D connection w t a := by
  cases step_took h with
  | receive hpc hpending hchannel => exact .received _ _ hpc hchannel rfl rfl rfl rfl
  | passOn hpc hsection => exact change_queue hpc h
  | hold hpc hsection => exact change_queue hpc h
  | send hpc hsection =>
      rcases ZmqWsProxy.sendSection_eq_ok hsection with rfl | ⟨frames, rfl⟩
      · exact .unsent _ _ _ hpc rfl rfl trivial (by simp [emit])
      · exact .sent _ _ _ frames hpc rfl rfl rfl rfl
  | sendFails hpc hsection => exact .unsent _ _ _ hpc rfl rfl (free_fail w) rfl
  | arrive hpc hpending =>
      exact change_decode hpc ⟨rfl, rfl, rfl, rfl⟩ fun message hmessage => hmessage
  | flush hpc hpending =>
      exact change_decode hpc ⟨rfl, rfl, rfl, rfl⟩
        fun message hmessage => ⟨_, _, hpending, hmessage⟩
  | @update host message executionState hpc =>
      refine .updated host message executionState hpc ?_ rfl rfl ⟨_, rfl, quiet_websocket _⟩
      cases executionState
      all_goals
        simp [executionQueue, emit, ZmqWsProxy.statusSection,
          KernelState.setStatus_executionQueue]
  | dequeue hpc hsection => exact change_dequeue hpc h
  | dequeueFails hpc hsection => exact change_dequeue hpc h
  | record hpc =>
      have hfree : Free w.pc := by
        rw [hpc]
        trivial
      refine .moved _ hfree ?_ rfl trivial ⟨_, rfl, ?_⟩
      · simp only [executionQueue, emit, ZmqWsProxy.recordSection]
        split <;> rfl
      · intro event hevent
        simp only [ZmqWsProxy.recordSection] at hevent
        split at hevent
        · cases hevent
        · simp only [List.map_map, List.mem_map, Function.comp_apply] at hevent
          obtain ⟨listener, -, rfl⟩ := hevent
          trivial
  | @publish message hpc =>
      have hfree : Free w.pc := by
        rw [hpc]
        trivial
      exact .moved _ hfree rfl rfl trivial ⟨_, rfl, quiet_websocket [.jupyter message]⟩
  | stop hpc hpending =>
      have hfree : Free w.pc := by
        rw [hpc]
        trivial
      exact .moved _ hfree rfl rfl trivial ⟨[], by simp, by simp⟩

/-- A step of the proxy, as the pending requests show it. -/
inductive PendingChange (w t : ProxyLoop) : Act → Prop
  | same (a : Act) (h : t.executionQueue.pending = w.executionQueue.pending) :
      PendingChange w t a
  | queued (host : Host) (posted : Posted) (hpc : w.pc = .queueing posted)
      (h : t.executionQueue.pending = w.executionQueue.pending ++ [posted.msg]) :
      PendingChange w t (.queue host)
  | cancelled (host : Host) (posted : Posted) (hpc : w.pc = .queueing posted)
      (hclears : Clears posted.msg) (h : t.executionQueue.pending = []) :
      PendingChange w t (.queue host)
  | released (host : Host) (accepted : Bool) (request : JupyterMessage)
      (h : w.executionQueue.pending = request :: t.executionQueue.pending) :
      PendingChange w t (.dequeue host accepted)

theorem Change.pending {D : Codecs} {connection : KernelConnection} {w t : ProxyLoop}
    {a : Act} (h : Change D connection w t a) : PendingChange w t a := by
  cases h with
  | received posted rest hpc hchannel hchannel' hqueue hpc' hlog => exact .same _ (by rw [hqueue])
  | admitted host posted hpc hmsg hactive hqueue hchannel hpc' hlog =>
      exact .same _ (by rw [hqueue])
  | queued host posted active hpc hmsg hactive hqueue hchannel hpc' hlog =>
      exact .queued host posted hpc (by rw [hqueue])
  | cleared host posted hpc hmsg hqueue hchannel hpc' hlog =>
      exact .cancelled host posted hpc hmsg (by rw [hqueue, ExecutionQueue.clear_pending])
  | passed host posted hpc hmsg hqueue hchannel hpc' hlog => exact .same _ (by rw [hqueue])
  | sent host accepted posted frames hpc hqueue hchannel hpc' hlog =>
      exact .same _ (by rw [hqueue])
  | unsent host accepted posted hpc hqueue hchannel hpc' hlog => exact .same _ (by rw [hqueue])
  | decoded a message hpc hmessage hqueue hchannel hpc' hlog => exact .same _ (by rw [hqueue])
  | discarded a hpc hqueue hchannel hpc' hlog => exact .same _ (by rw [hqueue])
  | updated host message executionState hpc hqueue hchannel hpc' hlog =>
      exact .same _ (by rw [hqueue])
  | drained host accepted message hpc hnil hqueue hchannel hpc' hlog =>
      exact .same _ (by rw [hqueue])
  | released host accepted message request rest frames hpc hcons hqueue hchannel hpc' hlog =>
      exact .released host accepted request (by rw [hcons, hqueue])
  | lost host accepted message request rest hpc hcons hqueue hchannel hpc' hlog =>
      exact .released host accepted request (by rw [hcons, hqueue])
  | moved a hpc hqueue hchannel hpc' hlog => exact .same _ (by rw [hqueue])

/-- What a step hands to a socket was in hand or was the first of the pending
requests. -/
theorem Change.of_sent {D : Codecs} {connection : KernelConnection} {w t : ProxyLoop} {a : Act}
    (h : Change D connection w t a) {channel : JupyterChannel} {msg : JupyterMessage}
    {frames : List Bytes} (hmem : .out (.socket channel msg frames) ∈ t.log) :
    .out (.socket channel msg frames) ∈ w.log ∨
      (∃ posted, w.pc = .sending posted ∧ msg = posted.msg) ∨
      ∃ rest, w.executionQueue.pending = msg :: rest := by
  have hquiet : (∃ events, t.log = w.log ++ events ∧ ∀ event ∈ events, Quiet event) →
      .out (.socket channel msg frames) ∈ w.log := by
    rintro ⟨events, hlog, hquiet⟩
    rw [hlog] at hmem
    rcases List.mem_append.mp hmem with hold | hnew
    · exact hold
    · exact (hquiet _ hnew).elim
  have hone : ∀ event, t.log = w.log ++ [event] →
      .out (.socket channel msg frames) ∈ w.log ∨
        .out (.socket channel msg frames) = event := by
    intro event hlog
    rw [hlog] at hmem
    rcases List.mem_append.mp hmem with hold | hnew
    · exact Or.inl hold
    · exact Or.inr (List.mem_singleton.mp hnew)
  cases h with
  | received posted rest hpc hchannel hchannel' hqueue hpc' hlog => exact Or.inl (hlog ▸ hmem)
  | admitted host posted hpc hmsg hactive hqueue hchannel hpc' hlog =>
      exact Or.inl (hlog ▸ hmem)
  | queued host posted active hpc hmsg hactive hqueue hchannel hpc' hlog =>
      exact Or.inl (hquiet hlog)
  | cleared host posted hpc hmsg hqueue hchannel hpc' hlog => exact Or.inl (hlog ▸ hmem)
  | passed host posted hpc hmsg hqueue hchannel hpc' hlog => exact Or.inl (hlog ▸ hmem)
  | sent host accepted posted frames' hpc hqueue hchannel hpc' hlog =>
      rcases hone _ hlog with hold | hnew
      · exact Or.inl hold
      · cases hnew
        exact Or.inr (Or.inl ⟨posted, hpc, rfl⟩)
  | unsent host accepted posted hpc hqueue hchannel hpc' hlog => exact Or.inl (hlog ▸ hmem)
  | decoded a message hpc hmessage hqueue hchannel hpc' hlog =>
      rcases hone _ hlog with hold | hnew
      · exact Or.inl hold
      · cases hnew
  | discarded a hpc hqueue hchannel hpc' hlog => exact Or.inl (hlog ▸ hmem)
  | updated host message executionState hpc hqueue hchannel hpc' hlog =>
      exact Or.inl (hquiet hlog)
  | drained host accepted message hpc hnil hqueue hchannel hpc' hlog =>
      exact Or.inl (hlog ▸ hmem)
  | released host accepted message request rest frames' hpc hcons hqueue hchannel hpc' hlog =>
      rcases hone _ hlog with hold | hnew
      · exact Or.inl hold
      · cases hnew
        exact Or.inr (Or.inr ⟨rest, hcons⟩)
  | lost host accepted message request rest hpc hcons hqueue hchannel hpc' hlog =>
      exact Or.inl (hlog ▸ hmem)
  | moved a hpc hqueue hchannel hpc' hlog => exact Or.inl (hquiet hlog)

theorem afterQueue_ne_panicked (message : JupyterMessage) : afterQueue message ≠ .panicked := by
  unfold afterQueue
  split <;> simp

theorem afterDecode_ne_panicked (message : JupyterMessage) :
    afterDecode message ≠ .panicked := by
  unfold afterDecode
  split
  · simp
  · exact afterQueue_ne_panicked message

theorem fail_pc_ne_panicked (w : ProxyLoop) : w.fail.pc ≠ .panicked := by
  unfold fail
  split <;> simp

theorem step_panicked {D : Codecs} {connection : KernelConnection} {w t : ProxyLoop} {a : Act}
    (h : w.step D connection a = some t) (ht : t.pc = .panicked) :
    Panics D connection w a := by
  have hdecode : ∀ u channel frames, u.pc = .listening →
      (decode D connection u channel frames).pc = .panicked →
      (WireMessage.fromZmq connection.sessionId channel frames).toJupyter D channel
        connection.hmacKey = .panic := by
    intro u channel frames hpc hpanicked
    simp only [decode] at hpanicked
    split at hpanicked
    · exact absurd hpanicked (afterDecode_ne_panicked _)
    · rw [hpc] at hpanicked
      cases hpanicked
    · assumption
  cases step_took h with
  | @receive posted rest hpc hpending hchannel =>
      rcases afterReceive_eq posted with heq | heq
      all_goals
        rw [heq] at ht
        cases ht
  | passOn hpc hsection => cases ht
  | hold hpc hsection => cases ht
  | send hpc hsection => cases ht
  | sendFails hpc hsection => exact absurd ht (fail_pc_ne_panicked w)
  | @arrive channel frames hpc hpending =>
      exact hdecode { w with flushing := false } channel frames hpc ht
  | @flush frames rest hpc hpending =>
      refine ⟨frames, rest, hpending, ?_⟩
      exact hdecode { w with pendingIopubMessages := rest, flushing := true } .ioPub frames hpc ht
  | @update host message executionState hpc =>
      cases executionState with
      | busy => exact absurd ht (afterQueue_ne_panicked message)
      | idle => cases ht
  | dequeue hpc hsection => exact absurd ht (afterQueue_ne_panicked _)
  | dequeueFails hpc hsection => exact absurd ht (fail_pc_ne_panicked _)
  | record hpc => cases ht
  | publish hpc => cases ht
  | stop hpc hpending => cases ht

/-! ## The rest of the shared state -/

/-- What a proxy never touches of the shared state but when it repeats a
status. -/
structure SameHolder (w v : KernelState) : Prop where
  status : v.status = w.status
  processId : v.processId = w.processId
  restarting : v.restarting = w.restarting
  rpcListeners : v.rpcListeners = w.rpcListeners

theorem sameHolder_refl (w : KernelState) : SameHolder w w := ⟨rfl, rfl, rfl, rfl⟩

theorem sameHolder_queueSection (kernel : KernelState) (msg : JupyterMessage) (host : Host) :
    SameHolder kernel (ZmqWsProxy.queueSection kernel msg host).1 := by
  unfold ZmqWsProxy.queueSection
  split
  · split <;> exact ⟨rfl, rfl, rfl, rfl⟩
  · exact ⟨rfl, rfl, rfl, rfl⟩
  · exact ⟨rfl, rfl, rfl, rfl⟩
  · exact sameHolder_refl kernel

theorem sameHolder_dequeueSection (D : Codecs) (connection : KernelConnection)
    (kernel : KernelState) (host : Host) (sent : Bool) :
    SameHolder kernel (ZmqWsProxy.dequeueSection D connection kernel host sent).1 := by
  unfold ZmqWsProxy.dequeueSection
  split <;> exact ⟨rfl, rfl, rfl, rfl⟩

theorem decode_kernel (D : Codecs) (connection : KernelConnection) (w : ProxyLoop)
    (channel : JupyterChannel) (frames : List Bytes) :
    (decode D connection w channel frames).kernel = w.kernel := by
  simp only [decode]
  split <;> rfl

theorem step_holder {D : Codecs} {connection : KernelConnection} {w t : ProxyLoop} {a : Act}
    (h : w.step D connection a = some t) :
    SameHolder w.kernel t.kernel ∨
      ∃ host status reason, a = .update host ∧ (status = .idle ∨ status = .busy) ∧
        t.kernel = (w.kernel.setStatus status reason host).1 := by
  cases step_took h with
  | receive hpc hpending hchannel => exact Or.inl (sameHolder_refl _)
  | @passOn host posted kernel outputs hpc hsection =>
      have hsame := sameHolder_queueSection w.kernel posted.msg host
      rw [hsection] at hsame
      exact Or.inl hsame
  | @hold host posted kernel outputs hpc hsection =>
      have hsame := sameHolder_queueSection w.kernel posted.msg host
      rw [hsection] at hsame
      exact Or.inl hsame
  | send hpc hsection => exact Or.inl (sameHolder_refl _)
  | sendFails hpc hsection => exact Or.inl (sameHolder_refl _)
  | arrive hpc hpending =>
      rw [decode_kernel]
      exact Or.inl (sameHolder_refl _)
  | flush hpc hpending =>
      rw [decode_kernel]
      exact Or.inl (sameHolder_refl _)
  | @update host message executionState hpc =>
      refine Or.inr ⟨host, _, _, rfl, ?_, rfl⟩
      cases executionState <;> simp
  | @dequeue host sent message kernel outputs hpc hsection =>
      have hsame := sameHolder_dequeueSection D connection w.kernel host sent
      rw [hsection] at hsame
      exact Or.inl hsame
  | @dequeueFails host sent message kernel e hpc hsection =>
      have hsame := sameHolder_dequeueSection D connection w.kernel host sent
      rw [hsection] at hsame
      exact Or.inl hsame
  | record hpc =>
      apply Or.inl
      simp only [emit, ZmqWsProxy.recordSection]
      split <;> exact ⟨rfl, rfl, rfl, rfl⟩
  | publish hpc => exact Or.inl (sameHolder_refl _)
  | stop hpc hpending => exact Or.inl (sameHolder_refl _)

end ProxyLoop

end Kallichore
