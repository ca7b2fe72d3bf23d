import Kallichore.KernelState.Basic
import Kallichore.Wire.Decode

/-!
# Forwarding one message

The proxy between a kernel's ZeroMQ sockets and the client handles one message
at a time. `forward_ws` takes a message of the client to the kernel, through the
execution queue if it asks for an execution; `forward_zmq` takes a message of
the kernel to the client, and lets the next execution go when the kernel is
idle. Both take and release the lock on the shared state several times, so each
is cut into the sections between those points; `forwardWs` and `forwardZmq` are
the sections one after the other, as they run when nobody comes in between.

Whether a socket accepts a message is not up to the proxy: it is the argument
`sent`. The channel to the client is never closed while its session lives, so
writing to it does not fail.
-/

namespace Kallichore

/-- What the proxy hands to a socket, to the client or to an RPC listener. -/
inductive Output
  | socket (channel : JupyterChannel) (message : JupyterMessage) (frames : List Bytes)
  | websocket (message : WebsocketMessage)
  | rpc (listener : ℕ) (message : JupyterMessage)

/-- Why a message could not be forwarded. -/
inductive ForwardError
  | closed
  | wire (error : WireError)
  | socket

structure ZmqWsProxy where
  connection : KernelConnection
  closed : Bool

namespace ZmqWsProxy

/-! ## The sections between the locks -/

/-- `forward_ws` under the lock: queue an execution request, or clear the queue
before an interrupt or a shutdown. The answer is whether the message goes on to
a socket now. -/
def queueSection (state : KernelState) (msg : JupyterMessage) (host : Host) :
    KernelState × List Output × Bool :=
  match JupyterMsg.ofMessage msg with
  | .executeRequest _ =>
      match state.executionQueue.processRequest msg with
      | (queue, false) =>
          ({ state with executionQueue := queue },
            [.websocket (.kernel (.executionQueued msg.msgId))], false)
      | (queue, true) =>
          ({ state with
              executionQueue := queue
              history := state.history.begin msg host.timestampMillis }, [], true)
  | .interruptRequest | .shutdownRequest =>
      ({ state with executionQueue := state.executionQueue.clear }, [], true)
  | _ => (state, [], true)

/-- Encode a message and hand it to a socket. -/
def sendTo (D : Codecs) (connection : KernelConnection) (channel : JupyterChannel)
    (msg : JupyterMessage) (host : Host) (sent : Bool) : Except ForwardError (List Output) :=
  match WireMessage.fromJupyter D host.date host.parentDate msg connection with
  | .error e => .error (.wire e)
  | .ok wire => if sent then .ok [.socket channel msg wire.toZmq] else .error .socket

/-- `forward_ws` after the lock: send the message to the socket of its channel.
A channel without such a socket only gets a log entry. -/
def sendSection (D : Codecs) (connection : KernelConnection) (msg : JupyterMessage)
    (host : Host) (sent : Bool) : Except ForwardError (List Output) :=
  match msg.channel with
  | .shell | .control | .stdin => sendTo D connection msg.channel msg host sent
  | _ => (sendTo D connection msg.channel msg host true).map fun _ => []

/-- `forward_zmq`: write the new status to the kernel state, with the parent
message type's name as the reason if known. -/
def statusSection (state : KernelState) (message : JupyterMessage)
    (executionState : ExecutionState) (host : Host) : KernelState × List Output :=
  let status := match executionState with
    | .busy => Status.busy
    | .idle => Status.idle
  let reason := message.parentHeader.map fun parent => parent.msgType
  let (state, updates) := state.setStatus status reason host
  (state, updates.map .websocket)

/-- `forward_zmq`: the kernel is now idle, so send it the next request in the
queue, still under the lock. -/
def dequeueSection (D : Codecs) (connection : KernelConnection) (state : KernelState)
    (host : Host) (sent : Bool) : KernelState × Except ForwardError (List Output) :=
  match state.executionQueue.nextRequest with
  | (queue, some request) =>
      ({ state with
          executionQueue := queue
          history := state.history.begin request host.timestampMillis },
        sendTo D connection .shell request host sent)
  | (queue, none) => ({ state with executionQueue := queue }, .ok [])

/-- `forward_zmq`: record the message in the history and forward it to the RPC
listener of its parent, if there is one. -/
def recordSection (state : KernelState) (message : JupyterMessage) :
    KernelState × List Output :=
  match message.parentHeader with
  | none => (state, [])
  | some parent =>
      ({ state with history := state.history.record message },
        (state.rpcListeners.lookup parent.msgId).toList.map fun listener =>
          .rpc listener message)

/-- `forward_zmq`: wrap the message for the client. -/
def publishSection (message : JupyterMessage) : List Output :=
  [.websocket (.jupyter message)]

/-! ## What the sections hand out -/

theorem sendTo_eq_ok {D : Codecs} {connection : KernelConnection}
    {channel : JupyterChannel} {msg : JupyterMessage} {host : Host} {sent : Bool}
    {outputs : List Output} (h : sendTo D connection channel msg host sent = .ok outputs) :
    ∃ frames, outputs = [.socket channel msg frames] := by
  unfold sendTo at h
  split at h
  · cases h
  · split at h
    · cases h
      exact ⟨_, rfl⟩
    · cases h

theorem sendSection_eq_ok {D : Codecs} {connection : KernelConnection}
    {msg : JupyterMessage} {host : Host} {sent : Bool} {outputs : List Output}
    (h : sendSection D connection msg host sent = .ok outputs) :
    outputs = [] ∨ ∃ frames, outputs = [.socket msg.channel msg frames] := by
  unfold sendSection at h
  split at h
  · exact Or.inr (sendTo_eq_ok h)
  · exact Or.inr (sendTo_eq_ok h)
  · exact Or.inr (sendTo_eq_ok h)
  · cases hsend : sendTo D connection msg.channel msg host true with
    | ok more =>
        rw [hsend] at h
        cases h
        exact Or.inl rfl
    | error e =>
        rw [hsend] at h
        cases h

/-! ## The sections in sequence -/

/-- What a call leaves behind: the shared state, what it handed out, and how it
ended. -/
structure Forwarded where
  state : KernelState
  outputs : List Output
  result : Outcome ForwardError Unit

/-- Forward a message from the client to a ZeroMQ socket. -/
def forwardWs (D : Codecs) (proxy : ZmqWsProxy) (state : KernelState)
    (msg : JupyterMessage) (host : Host) (sent : Bool) : Forwarded :=
  if proxy.closed then ⟨state, [], .err .closed⟩
  else
    match queueSection state msg host with
    | (state, outputs, false) => ⟨state, outputs, .ok ()⟩
    | (state, outputs, true) =>
        match sendSection D proxy.connection msg host sent with
        | .ok more => ⟨state, outputs ++ more, .ok ()⟩
        | .error e => ⟨state, outputs, .err e⟩

/-- The last sections of `forward_zmq`, after what it handed out before. -/
def deliver (state : KernelState) (message : JupyterMessage) (outputs : List Output) :
    Forwarded :=
  let (state, rpc) := recordSection state message
  ⟨state, outputs ++ rpc ++ publishSection message, .ok ()⟩

/-- `forward_zmq` once the message is decoded. -/
def forwardMessage (D : Codecs) (connection : KernelConnection) (state : KernelState)
    (message : JupyterMessage) (host : Host) (sent : Bool) : Forwarded :=
  match JupyterMsg.ofMessage message with
  | .status .busy =>
      let (state, updates) := statusSection state message .busy host
      deliver state message updates
  | .status .idle =>
      let (state, updates) := statusSection state message .idle host
      match dequeueSection D connection state host sent with
      | (state, .ok more) => deliver state message (updates ++ more)
      | (state, .error e) => ⟨state, updates, .err e⟩
  | _ => deliver state message []

/-- Forward a message from a ZeroMQ socket to the client. One that is not a
valid Jupyter message is discarded. -/
def forwardZmq (D : Codecs) (proxy : ZmqWsProxy) (state : KernelState)
    (channel : JupyterChannel) (frames : List Bytes) (host : Host) (sent : Bool) :
    Forwarded :=
  if proxy.closed then ⟨state, [], .err .closed⟩
  else
    let wire := WireMessage.fromZmq proxy.connection.sessionId channel frames
    match wire.toJupyter D channel proxy.connection.hmacKey with
    | .ok message => forwardMessage D proxy.connection state message host sent
    | .err _ => ⟨state, [], .ok ()⟩
    | .panic => ⟨state, [], .panic⟩

/-! ## Invalid messages -/

theorem deliver_result (state : KernelState) (message : JupyterMessage)
    (outputs : List Output) : (deliver state message outputs).result = .ok () := by
  simp [deliver]

theorem forwardMessage_ne_panic (D : Codecs) (connection : KernelConnection)
    (state : KernelState) (message : JupyterMessage) (host : Host) (sent : Bool) :
    (forwardMessage D connection state message host sent).result ≠ .panic := by
  unfold forwardMessage
  split
  · simp [deliver_result]
  · split
    split
    · simp [deliver_result]
    · simp
  · simp [deliver_result]

/-- A message is decoded or discarded, and the proxy goes on as it was, exactly
when no frame that the decoder indexes is missing. -/
theorem forwardZmq_survives_iff (D : Codecs) (proxy : ZmqWsProxy) (state : KernelState)
    (channel : JupyterChannel) (frames : List Bytes) (host : Host) (sent : Bool) :
    ((WireMessage.fromZmq proxy.connection.sessionId channel frames).toJupyter D channel
          proxy.connection.hmacKey ≠ .panic ∧
      (proxy.closed = false →
        (forwardZmq D proxy state channel frames host sent).result ≠ .panic ∧
        ∀ e, (WireMessage.fromZmq proxy.connection.sessionId channel frames).toJupyter D
            channel proxy.connection.hmacKey = .err e →
          forwardZmq D proxy state channel frames host sent = ⟨state, [], .ok ()⟩)) ↔
      WireMessage.InRange D proxy.connection.hmacKey frames := by
  have hrange : (WireMessage.fromZmq proxy.connection.sessionId channel frames).toJupyter D
      channel proxy.connection.hmacKey ≠ .panic ↔
      WireMessage.InRange D proxy.connection.hmacKey frames :=
    WireMessage.toJupyter_ne_panic_iff
  constructor
  · rintro ⟨hpanic, -⟩
    exact hrange.mp hpanic
  · intro hinRange
    have hpanic := hrange.mpr hinRange
    refine ⟨hpanic, fun hopen => ⟨?_, fun e herr => ?_⟩⟩
    · cases hdecoded : (WireMessage.fromZmq proxy.connection.sessionId channel frames).toJupyter
          D channel proxy.connection.hmacKey with
      | ok message => simp [forwardZmq, hopen, hdecoded, forwardMessage_ne_panic]
      | err e => simp [forwardZmq, hopen, hdecoded]
      | panic => exact absurd hdecoded hpanic
    · simp [forwardZmq, hopen, herr]

/-- A delimiter and nothing after it: the header is not there to be read. -/
theorem toJupyter_bare_delimiter :
    ¬ ∀ (D : Codecs) (wire : WireMessage) (channel : JupyterChannel)
      (hmacKey : Option Bytes), wire.toJupyter D channel hmacKey ≠ .panic := by
  intro h
  have hpanic : (WireMessage.fromZmq "s" .ioPub [msgDelim]).toJupyter
      WireMessage.sampleCodecs .ioPub none = .panic := rfl
  exact h _ _ _ _ hpanic

end ZmqWsProxy

end Kallichore
