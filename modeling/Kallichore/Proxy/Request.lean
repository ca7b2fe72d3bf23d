import Kallichore.Proxy.Alone
import Kallichore.ExecutionQueue.Ledger
import Kallichore.Wire.RoundTrip

/-!
# Two ways of a request to the kernel

An execution request goes to the kernel at once, through `forward_ws`, or it is
queued and sent by `forward_zmq` when the kernel is idle. Both ways enter the
request in the queue and the history before they encode it, so a request that
cannot be encoded or sent stays behind in both. They also choose the socket
differently: `forward_ws` goes by the channel the client wrote on the message,
`forward_zmq` always takes the shell socket.
-/

namespace Kallichore

namespace ZmqWsProxy

open ProxyLoop

variable {D : Codecs} {connection : KernelConnection}

/-- `from_jupyter` rejects the message. -/
def Rejected (D : Codecs) (connection : KernelConnection) (host : Host)
    (msg : JupyterMessage) : Prop :=
  ∃ e, WireMessage.fromJupyter D host.date host.parentDate msg connection = .error e

/-- After the call the request is not the active one, the history has no entry
for it, and the loop goes on. -/
def Harmless (msg : JupyterMessage) (result : Forwarded) : Prop :=
  result.state.executionQueue.active ≠ some msg ∧
    (∀ entry ∈ result.state.history.entries, entry.msgId ≠ msg.msgId) ∧
    afterForward result.result = .listening

/-- The message of the kernel reached its listener, if it has one, and the
client. -/
def Delivered (state : KernelState) (message : JupyterMessage) (result : Forwarded) : Prop :=
  (∀ parent listener, message.parentHeader = some parent →
      state.rpcListeners.lookup parent.msgId = some listener →
      .rpc listener message ∈ result.outputs) ∧
    .websocket (.jupyter message) ∈ result.outputs

/-- The sockets that were used, with the frames that went to each. -/
def sockets (outputs : List Output) : List (JupyterChannel × List Bytes) :=
  outputs.filterMap fun
    | .socket channel _ frames => some (channel, frames)
    | _ => none

/-! ## The ways, section by section -/

theorem sendTo_of_rejected {host : Host} {msg : JupyterMessage}
    (h : Rejected D connection host msg) (channel : JupyterChannel) (sent : Bool) :
    ∃ e, sendTo D connection channel msg host sent = .error e := by
  obtain ⟨e, he⟩ := h
  exact ⟨.wire e, by simp [sendTo, he]⟩

theorem sendTo_of_accepted {host : Host} {msg : JupyterMessage} {wire : WireMessage}
    (h : WireMessage.fromJupyter D host.date host.parentDate msg connection = .ok wire)
    (channel : JupyterChannel) (sent : Bool) :
    sendTo D connection channel msg host sent =
      if sent then .ok [.socket channel msg wire.toZmq] else .error .socket := by
  simp [sendTo, h]

theorem sendSection_of_rejected {host : Host} {msg : JupyterMessage}
    (h : Rejected D connection host msg) (sent : Bool) :
    ∃ e, sendSection D connection msg host sent = .error e := by
  obtain ⟨e, he⟩ := sendTo_of_rejected h msg.channel sent
  obtain ⟨e', he'⟩ := sendTo_of_rejected h msg.channel true
  unfold sendSection
  split
  · exact ⟨e, he⟩
  · exact ⟨e, he⟩
  · exact ⟨e, he⟩
  · exact ⟨e', by rw [he']; rfl⟩

/-- A request that finds the slot free becomes the active one before it is
encoded. -/
theorem forwardWs_of_free {state : KernelState} {msg : JupyterMessage} (hmsg : Executes msg)
    (hfree : state.executionQueue.active = none) (host : Host) (sent : Bool) :
    forwardWs D (proxy connection) state msg host sent =
      ofSend { state with
          executionQueue := { state.executionQueue with active := some msg }
          history := state.history.begin msg host.timestampMillis }
        (sendSection D connection msg host sent) := by
  obtain ⟨content, hcontent⟩ := hmsg
  refine forwardWs_of_queueSection ?_ sent
  simp only [queueSection, hcontent, ExecutionQueue.processRequest_of_none hfree]

theorem forwardWs_of_taken {state : KernelState} {msg active : JupyterMessage}
    (hmsg : Executes msg) (htaken : state.executionQueue.active = some active) (host : Host)
    (sent : Bool) :
    forwardWs D (proxy connection) state msg host sent =
      ⟨{ state with executionQueue :=
          { state.executionQueue with pending := state.executionQueue.pending ++ [msg] } },
        [.websocket (.kernel (.executionQueued msg.msgId))], .ok ()⟩ := by
  obtain ⟨content, hcontent⟩ := hmsg
  simp [forwardWs, proxy, queueSection, hcontent,
    ExecutionQueue.processRequest_of_some htaken]

/-- What `forward_zmq` hands out and leaves behind when an idle finds a request
waiting. -/
def ofRelease (state : KernelState) (message : JupyterMessage) (updates : List Output) :
    Except ForwardError (List Output) → Forwarded
  | .ok more => deliver state message (updates ++ more)
  | .error e => ⟨state, updates, .err e⟩

variable (D connection) in
/-- An idle with a request waiting makes it the active one before it is
encoded. -/
theorem forwardMessage_of_waiting {state : KernelState} {message msg : JupyterMessage}
    {rest : List JupyterMessage} (hidle : JupyterMsg.ofMessage message = .status .idle)
    (hwaiting : state.executionQueue.pending = msg :: rest) (host : Host) (sent : Bool) :
    ∃ (state' : KernelState) (messages : List WebsocketMessage),
      state'.executionQueue = { active := some msg, pending := rest } ∧
      (∀ update ∈ messages, ∃ kernel, update = WebsocketMessage.kernel kernel) ∧
      forwardMessage D connection state message host sent =
        ofRelease state' message (messages.map .websocket)
          (sendTo D connection .shell msg host sent) := by
  let updated := (statusSection state message .idle host).1
  let waiting : KernelState := { updated with
    executionQueue := { active := some msg, pending := rest }
    history := updated.history.begin msg host.timestampMillis }
  have hqueue : updated.executionQueue.pending = msg :: rest := by
    simp [updated, statusSection, KernelState.setStatus_executionQueue, hwaiting]
  have hdequeue : dequeueSection D connection updated host sent =
      (waiting, sendTo D connection .shell msg host sent) := by
    simp only [dequeueSection, ExecutionQueue.nextRequest_of_cons hqueue, waiting]
  refine ⟨waiting, _, rfl, KernelState.setStatus_updates state .idle
    (message.parentHeader.map fun parent => parent.msgType) host, ?_⟩
  simp only [updated] at hdequeue
  simp only [forwardMessage, hidle, hdequeue]
  cases sendTo D connection .shell msg host sent with
  | ok more => rfl
  | error e => rfl

/-! ## Requests that cannot be encoded -/

theorem not_harmless_of_err {msg : JupyterMessage} {result : Forwarded} {e : ForwardError}
    (h : result.result = .err e) : ¬ Harmless msg result := by
  rintro ⟨-, -, hloop⟩
  rw [h] at hloop
  cases hloop

variable (D connection) in
theorem forwardWs_of_not_queued {state : KernelState} {msg : JupyterMessage}
    (h : Executes msg → state.executionQueue.active = none) (host : Host) :
    ∃ state', ∀ sent, forwardWs D (proxy connection) state msg host sent =
      ofSend state' (sendSection D connection msg host sent) := by
  cases hmsg : JupyterMsg.ofMessage msg with
  | executeRequest content =>
      have hexecutes : Executes msg := ⟨content, hmsg⟩
      exact ⟨_, forwardWs_of_free hexecutes (h hexecutes) host⟩
  | interruptRequest | shutdownRequest =>
      refine ⟨{ state with executionQueue := state.executionQueue.clear },
        forwardWs_of_queueSection ?_⟩
      simp only [queueSection, hmsg]
  | handshakeRequest content | status executionState | other =>
      refine ⟨state, forwardWs_of_queueSection ?_⟩
      simp only [queueSection, hmsg]

theorem harmless_forwardWs_iff {state : KernelState} {msg : JupyterMessage} {host : Host}
    (h : Rejected D connection host msg) (sent : Bool) :
    Harmless msg (forwardWs D (proxy connection) state msg host sent) ↔
      Executes msg ∧
        (∃ active, state.executionQueue.active = some active ∧ active ≠ msg) ∧
        ∀ entry ∈ state.history.entries, entry.msgId ≠ msg.msgId := by
  by_cases hqueued : Executes msg ∧ ∃ active, state.executionQueue.active = some active
  · obtain ⟨hmsg, active, hactive⟩ := hqueued
    rw [forwardWs_of_taken hmsg hactive]
    simp [Harmless, afterForward, hmsg, hactive]
  · have hfree : Executes msg → state.executionQueue.active = none := by
      intro hmsg
      rw [Option.eq_none_iff_forall_ne_some]
      exact fun active hactive => hqueued ⟨hmsg, active, hactive⟩
    obtain ⟨state', hforward⟩ := forwardWs_of_not_queued D connection
      hfree host
    obtain ⟨e, he⟩ := sendSection_of_rejected h sent
    apply iff_of_false
    · rw [hforward, he]
      exact not_harmless_of_err rfl
    · rintro ⟨hmsg, ⟨active, hactive, -⟩, -⟩
      exact hqueued ⟨hmsg, active, hactive⟩

/-- A rejected message is harmless to `forward_ws` exactly if it asks for an
execution, another request is the active one, and the history has no entry for
it yet: then it is only queued. When it is dequeued it is never harmless, and
the idle that released it reaches nobody. -/
theorem forward_rejected_iff (state : KernelState) (msg : JupyterMessage) (host : Host)
    (sent : Bool) (h : Rejected D connection host msg) :
    (Harmless msg (forwardWs D (proxy connection) state msg host sent) ↔
      Executes msg ∧
        (∃ active, state.executionQueue.active = some active ∧ active ≠ msg) ∧
        ∀ entry ∈ state.history.entries, entry.msgId ≠ msg.msgId) ∧
      ∀ channel frames message rest,
        (WireMessage.fromZmq connection.sessionId channel frames).toJupyter D channel
          connection.hmacKey = .ok message →
        JupyterMsg.ofMessage message = .status .idle →
        state.executionQueue.pending = msg :: rest →
        ¬ Harmless msg (forwardZmq D (proxy connection) state channel frames host sent) ∧
          ¬ Delivered state message
            (forwardZmq D (proxy connection) state channel frames host sent) := by
  refine ⟨harmless_forwardWs_iff h sent, ?_⟩
  intro channel frames message rest hdecoded hidle hwaiting
  obtain ⟨state', messages, hqueue, hmessages, hforward⟩ :=
    forwardMessage_of_waiting D connection hidle hwaiting host sent
  obtain ⟨e, he⟩ := sendTo_of_rejected h .shell sent
  have hresult : forwardZmq D (proxy connection) state channel frames host sent =
      ⟨state', messages.map .websocket, .err e⟩ := by
    simp only [forwardZmq, proxy, Bool.false_eq_true, if_false, hdecoded]
    rw [hforward, he]
    rfl
  rw [hresult]
  refine ⟨not_harmless_of_err rfl, ?_⟩
  rintro ⟨-, hwebsocket⟩
  obtain ⟨update, hupdate, heq⟩ := List.mem_map.mp hwebsocket
  obtain ⟨kernel, rfl⟩ := hmessages update hupdate
  cases heq

/-- A request with a buffer that is not base64. -/
def badRequest : JupyterMessage := { ExecutionQueue.sampleRequest "b" with buffers := ["?"] }

theorem rejected_badRequest (connection : KernelConnection) (host : Host) :
    Rejected WireMessage.sampleCodecs connection host badRequest := ⟨.base64, rfl⟩

/-- A kernel state with one request active. -/
def busyState (active : JupyterMessage) : KernelState :=
  { KernelState.new "s" "/" sampleHost with
    executionQueue := { active := some active, pending := [] } }

/-- Behind another request the bad one is only queued. -/
theorem forward_rejected_iff_queued :
    Harmless badRequest (forwardWs WireMessage.sampleCodecs (proxy WireMessage.sampleConnection)
      (busyState (ExecutionQueue.sampleRequest "r")) badRequest sampleHost true) := by
  have hrejected := rejected_badRequest WireMessage.sampleConnection sampleHost
  refine (forward_rejected_iff (busyState (ExecutionQueue.sampleRequest "r")) badRequest
    sampleHost true hrejected).1.mpr ⟨⟨_, rfl⟩, ⟨_, rfl, ?_⟩, ?_⟩
  · intro heq
    exact absurd (congrArg JupyterMessage.buffers heq) (by decide)
  · intro entry hentry
    cases hentry

/-- The bad request becomes the active one of an idle session, and ends the
loop. -/
theorem not_harmless_badRequest :
    ¬ ∀ (D : Codecs) (connection : KernelConnection) (state : KernelState)
      (msg : JupyterMessage) (host : Host) (sent : Bool), Rejected D connection host msg →
        Harmless msg (forwardWs D (proxy connection) state msg host sent) := by
  intro h
  have hharmless := h WireMessage.sampleCodecs WireMessage.sampleConnection
    (KernelState.new "s" "/" sampleHost) badRequest sampleHost true
    (rejected_badRequest _ _)
  rw [harmless_forwardWs_iff (rejected_badRequest _ _)] at hharmless
  obtain ⟨-, ⟨active, hactive, -⟩, -⟩ := hharmless
  cases hactive

/-! ## The socket and the frames -/

/-- A kernel state with a request waiting behind another one. -/
def waitingState (msg : JupyterMessage) : KernelState :=
  { KernelState.new "s" "/" sampleHost with
    executionQueue := { active := some (ExecutionQueue.sampleRequest "a"), pending := [msg] } }

def idleStatus : JupyterMessage where
  header := { msgId := "i", msgType := "status" }
  parentHeader := none
  channel := .ioPub
  content := .object [("execution_state", .string "idle")]
  metadata := .object []
  buffers := []

/-- An execution request a client put on the control channel. -/
def controlRequest : JupyterMessage :=
  { ExecutionQueue.sampleRequest "c" with channel := .control }

/-- The request goes to the same socket with the same frames on both ways, and
is the active one on neither unless it went to a socket. -/
def Agrees (msg : JupyterMessage) (immediate released : Forwarded) : Prop :=
  sockets immediate.outputs = sockets released.outputs ∧
    (sockets immediate.outputs = [] → immediate.state.executionQueue.active ≠ some msg) ∧
    (sockets released.outputs = [] → released.state.executionQueue.active ≠ some msg)

theorem sockets_append (first second : List Output) :
    sockets (first ++ second) = sockets first ++ sockets second :=
  List.filterMap_append

theorem sockets_websocket (messages : List WebsocketMessage) :
    sockets (messages.map .websocket) = [] := by
  simp [sockets, List.filterMap_map]

theorem sockets_deliver (state : KernelState) (message : JupyterMessage)
    (outputs : List Output) :
    sockets (deliver state message outputs).outputs = sockets outputs := by
  have hrecord : sockets (recordSection state message).2 = [] := by
    unfold recordSection
    split
    · rfl
    · simp [sockets, List.filterMap_map]
  simp only [deliver, sockets_append, hrecord, List.append_nil]
  exact List.append_nil _

theorem active_deliver (state : KernelState) (message : JupyterMessage)
    (outputs : List Output) :
    (deliver state message outputs).state.executionQueue = state.executionQueue := by
  simp only [deliver, recordSection]
  split <;> rfl

theorem immediate_sockets {state : KernelState} {msg : JupyterMessage} (hmsg : Executes msg)
    (hfree : state.executionQueue.active = none) (host : Host) {wire : WireMessage}
    (hwire : WireMessage.fromJupyter D host.date host.parentDate msg connection = .ok wire) :
    sockets (forwardWs D (proxy connection) state msg host true).outputs =
      if msg.channel = .shell ∨ msg.channel = .control ∨ msg.channel = .stdin then
        [(msg.channel, wire.toZmq)]
      else [] := by
  rw [forwardWs_of_free hmsg hfree, sendSection, sendTo_of_accepted hwire]
  cases hchannel : msg.channel with
  | shell | control | stdin | ioPub | heartbeat | registration =>
      simp [ofSend, sockets, Except.map]

variable (D connection) in
/-- Where a request that is not handed to a socket is left on the immediate
way. -/
theorem immediate_active {state : KernelState} {msg : JupyterMessage} (hmsg : Executes msg)
    (hfree : state.executionQueue.active = none) (host : Host) (sent : Bool) :
    (forwardWs D (proxy connection) state msg host sent).state.executionQueue.active =
      some msg := by
  rw [forwardWs_of_free hmsg hfree]
  cases sendSection D connection msg host sent with
  | ok outputs => rfl
  | error e => rfl

variable (D connection) in
/-- A request released by an idle is the active one, and goes to the shell socket
if it can be encoded and sent. -/
theorem released_sockets {waiting : KernelState} {message msg : JupyterMessage}
    {rest : List JupyterMessage} (hidle : JupyterMsg.ofMessage message = .status .idle)
    (hwaiting : waiting.executionQueue.pending = msg :: rest) (host : Host) (sent : Bool) :
    (forwardMessage D connection waiting message host sent).state.executionQueue.active =
        some msg ∧
      sockets (forwardMessage D connection waiting message host sent).outputs =
        sockets ((sendTo D connection .shell msg host sent).toOption.getD []) := by
  obtain ⟨state', messages, hqueue, -, hforward⟩ :=
    forwardMessage_of_waiting D connection hidle hwaiting host sent
  rw [hforward]
  cases sendTo D connection .shell msg host sent with
  | ok outputs =>
      constructor
      · rw [ofRelease, active_deliver, hqueue]
      · rw [ofRelease, sockets_deliver, sockets_append, sockets_websocket, List.nil_append]
        rfl
  | error e =>
      constructor
      · rw [ofRelease, hqueue]
      · exact sockets_websocket messages

/-- The two ways agree on a request exactly if it is on the shell channel, can be
encoded and is accepted by the socket. -/
theorem agrees_iff {state waiting : KernelState} {msg message : JupyterMessage}
    {rest : List JupyterMessage} (hmsg : Executes msg)
    (hfree : state.executionQueue.active = none)
    (hidle : JupyterMsg.ofMessage message = .status .idle)
    (hwaiting : waiting.executionQueue.pending = msg :: rest) (host : Host) (sent : Bool) :
    Agrees msg (forwardWs D (proxy connection) state msg host sent)
        (forwardMessage D connection waiting message host sent) ↔
      msg.channel = .shell ∧ ¬ Rejected D connection host msg ∧ sent = true := by
  obtain ⟨hactive, hreleased⟩ :=
    released_sockets D connection hidle hwaiting host sent
  have himmediate := immediate_active D connection hmsg hfree host sent
  cases hwire : WireMessage.fromJupyter D host.date host.parentDate msg connection with
  | error e =>
      have hrejected : Rejected D connection host msg := ⟨e, hwire⟩
      obtain ⟨e', he'⟩ := sendTo_of_rejected hrejected .shell sent
      rw [he'] at hreleased
      apply iff_of_false
      · rintro ⟨-, -, hslot⟩
        exact hslot hreleased hactive
      · rintro ⟨-, haccepted, -⟩
        exact haccepted hrejected
  | ok wire =>
      have haccepted : ¬ Rejected D connection host msg := by
        rintro ⟨e, he⟩
        rw [hwire] at he
        cases he
      rw [sendTo_of_accepted hwire] at hreleased
      cases sent with
      | false =>
          refine iff_of_false ?_ (by simp)
          rintro ⟨-, -, hslot⟩
          exact hslot hreleased hactive
      | true =>
          have hsockets := immediate_sockets (D := D) hmsg hfree host hwire
          have hshell : sockets [.socket .shell msg wire.toZmq] = [(.shell, wire.toZmq)] := rfl
          rw [if_pos rfl, Except.toOption, Option.getD_some, hshell] at hreleased
          simp only [haccepted, not_false_eq_true, and_true]
          constructor
          · rintro ⟨hsame, -, -⟩
            rw [hsockets, hreleased] at hsame
            split at hsame
            · exact congrArg Prod.fst (List.cons.inj hsame).1
            · cases hsame
          · intro hchannel
            refine ⟨?_, ?_, ?_⟩
            · rw [hsockets, hreleased, hchannel]
              simp
            · rw [hsockets, hchannel]
              simp
            · rw [hreleased]
              simp

/-- An ordinary request, sent at once and after an idle. -/
theorem agrees_iff_sampleRequest :
    Agrees (ExecutionQueue.sampleRequest "r")
      (forwardWs WireMessage.sampleCodecs (proxy WireMessage.sampleConnection)
        (KernelState.new "s" "/" sampleHost) (ExecutionQueue.sampleRequest "r") sampleHost true)
      (forwardMessage WireMessage.sampleCodecs WireMessage.sampleConnection
        (waitingState (ExecutionQueue.sampleRequest "r")) idleStatus sampleHost true) := by
  have hwaiting : (waitingState (ExecutionQueue.sampleRequest "r")).executionQueue.pending =
      [ExecutionQueue.sampleRequest "r"] := rfl
  refine (agrees_iff ⟨_, rfl⟩ rfl rfl hwaiting sampleHost true).mpr ⟨rfl, ?_, rfl⟩
  rintro ⟨e, he⟩
  cases he

/-- The same request with the control channel on it goes to the control socket at
once, and to the shell socket after an idle. -/
theorem not_agrees_control :
    ¬ ∀ (D : Codecs) (connection : KernelConnection) (state waiting : KernelState)
      (msg message : JupyterMessage) (rest : List JupyterMessage) (host : Host) (sent : Bool),
      Executes msg → state.executionQueue.active = none →
      JupyterMsg.ofMessage message = .status .idle →
      waiting.executionQueue.pending = msg :: rest →
      Agrees msg (forwardWs D (proxy connection) state msg host sent)
        (forwardMessage D connection waiting message host sent) := by
  intro h
  have hagrees := h WireMessage.sampleCodecs WireMessage.sampleConnection
    (KernelState.new "s" "/" sampleHost) (waitingState controlRequest) controlRequest idleStatus
    [] sampleHost true ⟨_, rfl⟩ rfl rfl rfl
  have hsame : [(JupyterChannel.control, _)] = [(JupyterChannel.shell, _)] := hagrees.1
  cases hsame

end ZmqWsProxy

end Kallichore
