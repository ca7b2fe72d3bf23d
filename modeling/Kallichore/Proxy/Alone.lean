import Kallichore.Lib.Machine
import Kallichore.Proxy.Loop

/-!
# The loop on its own

The steps of the loop are sections of `forward_ws` and `forward_zmq`, so that
other tasks can come in between. When none does, the steps one after the other
come to what the whole function does: the same shared state, the same messages
handed out in the same order, and the loop goes on, ends or panics as the
function returns, fails or panics.
-/

namespace Kallichore

namespace ProxyLoop

def machine (D : Codecs) (connection : KernelConnection) : Machine ProxyLoop Act :=
  ⟨step D connection⟩

def proxy (connection : KernelConnection) : ZmqWsProxy := { connection, closed := false }

/-- Where the loop is after a message was forwarded. -/
def afterForward : Outcome ForwardError Unit → ProxyPc
  | .ok () => .listening
  | .err _ => .ended
  | .panic => .panicked

def forwarded (w : ProxyLoop) (result : ZmqWsProxy.Forwarded) : ProxyLoop :=
  { w with
    kernel := result.state
    flushing := false
    pc := afterForward result.result
    log := w.log ++ result.outputs.map .out }

variable {D : Codecs} {connection : KernelConnection}

/-- The messages that `forward_ws` does not know pass the lock by. -/
theorem queueSection_of_sending {posted : Posted} (h : afterReceive posted = .sending posted)
    (kernel : KernelState) (host : Host) :
    ZmqWsProxy.queueSection kernel posted.msg host = (kernel, [], true) := by
  cases hmsg : JupyterMsg.ofMessage posted.msg with
  | executeRequest content => simp [afterReceive, hmsg] at h
  | interruptRequest => simp [afterReceive, hmsg] at h
  | shutdownRequest => simp [afterReceive, hmsg] at h
  | _ => simp [ZmqWsProxy.queueSection, hmsg]

/-! ## From the client -/

/-- `forward_ws` after the lock. -/
def ofSend (kernel : KernelState) : Except ForwardError (List Output) → ZmqWsProxy.Forwarded
  | .ok outputs => ⟨kernel, outputs, .ok ()⟩
  | .error e => ⟨kernel, [], .err e⟩

theorem forwardWs_of_queueSection {kernel kernel' : KernelState} {msg : JupyterMessage}
    {host : Host} (h : ZmqWsProxy.queueSection kernel msg host = (kernel', [], true))
    (sent : Bool) :
    ZmqWsProxy.forwardWs D (proxy connection) kernel msg host sent =
      ofSend kernel' (ZmqWsProxy.sendSection D connection msg host sent) := by
  simp only [ZmqWsProxy.forwardWs, proxy, h, Bool.false_eq_true, if_false]
  cases ZmqWsProxy.sendSection D connection msg host sent with
  | ok outputs => rfl
  | error e => rfl

/-- The last section of `forward_ws`. -/
theorem reaches_sending {w : ProxyLoop} {posted : Posted} (hpc : w.pc = .sending posted)
    (hflushing : w.flushing = false) (host : Host) (sent : Bool) :
    (machine D connection).Reaches w (forwarded w
      (ofSend w.kernel (ZmqWsProxy.sendSection D connection posted.msg host sent))) := by
  refine Machine.Reaches.head _ (.send host sent) ?_ (Machine.reaches_refl _ _)
  cases hsend : ZmqWsProxy.sendSection D connection posted.msg host sent with
  | ok outputs =>
      simp [machine, step, hpc, hsend, emit, forwarded, afterForward, ofSend, hflushing]
  | error e => simp [machine, step, hpc, hsend, fail, forwarded, afterForward, ofSend, hflushing]

/-- A message that goes on to a socket has had nothing handed out for it. -/
theorem queueSection_outputs {kernel kernel' : KernelState} {msg : JupyterMessage}
    {host : Host} {outputs : List Output}
    (h : ZmqWsProxy.queueSection kernel msg host = (kernel', outputs, true)) :
    outputs = [] := by
  unfold ZmqWsProxy.queueSection at h
  split at h
  · split at h
    · cases h
    · cases h
      rfl
  · cases h
    rfl
  · cases h
    rfl
  · cases h
    rfl

/-- Both sections of `forward_ws`. -/
theorem reaches_queueing {w : ProxyLoop} {posted : Posted} (hpc : w.pc = .queueing posted)
    (hflushing : w.flushing = false) (host : Host) (sent : Bool) :
    (machine D connection).Reaches w (forwarded w
      (ZmqWsProxy.forwardWs D (proxy connection) w.kernel posted.msg host sent)) := by
  match hsection : ZmqWsProxy.queueSection w.kernel posted.msg host with
  | (kernel, outputs, false) =>
      refine Machine.Reaches.head _ (.queue host) ?_ (Machine.reaches_refl _ _)
      simp [machine, step, hpc, hsection, ZmqWsProxy.forwardWs, proxy, emit, forwarded,
        afterForward, hflushing]
  | (kernel, outputs, true) =>
      obtain rfl := queueSection_outputs hsection
      let queued : ProxyLoop := { w with kernel, pc := .sending posted }
      have hqueue : w.step D connection (.queue host) = some queued := by
        simp [step, hpc, hsection, emit, queued]
      have hpc' : queued.pc = .sending posted := rfl
      rw [forwardWs_of_queueSection hsection]
      exact Machine.Reaches.head _ (.queue host) hqueue
        (reaches_sending hpc' hflushing host sent)

/-- Left alone, the loop forwards a message of the channel as `forward_ws` does. -/
theorem reaches_forwardWs {w : ProxyLoop} {posted : Posted} {rest : List Posted}
    (hpc : w.pc = .listening) (hflushed : w.pendingIopubMessages = [])
    (hchannel : w.wsZmq = posted :: rest) (host : Host) (sent : Bool) :
    (machine D connection).Reaches w (forwarded { w with wsZmq := rest }
      (ZmqWsProxy.forwardWs D (proxy connection) w.kernel posted.msg host sent)) := by
  let received : ProxyLoop :=
    { w with wsZmq := rest, flushing := false, pc := afterReceive posted }
  have hreceive : w.step D connection .receive = some received := by
    simp [step, hpc, hflushed, hchannel, received]
  apply Machine.Reaches.head _ .receive hreceive
  rcases afterReceive_eq posted with hqueueing | hsending
  · have hpc' : received.pc = .queueing posted := hqueueing
    exact reaches_queueing hpc' rfl host sent
  · have hpc' : received.pc = .sending posted := hsending
    rw [forwardWs_of_queueSection (queueSection_of_sending hsending w.kernel host)]
    exact reaches_sending hpc' rfl host sent

/-! ## From the kernel -/

/-- The last sections of `forward_zmq`. -/
theorem reaches_deliver {w : ProxyLoop} {message : JupyterMessage}
    (hpc : w.pc = afterQueue message) (hflushing : w.flushing = false) :
    (machine D connection).Reaches w
      (forwarded w (ZmqWsProxy.deliver w.kernel message [])) := by
  cases hparent : message.parentHeader with
  | none =>
      refine Machine.Reaches.head _ .publish ?_ (Machine.reaches_refl _ _)
      simp [machine, step, hpc, afterQueue, hparent, emit, forwarded, afterForward, hflushing,
        ZmqWsProxy.deliver, ZmqWsProxy.recordSection]
  | some parent =>
      let recorded : ProxyLoop :=
        emit { w with kernel := (ZmqWsProxy.recordSection w.kernel message).1
                      pc := .publishing message }
          (ZmqWsProxy.recordSection w.kernel message).2
      have hrecord : w.step D connection .record = some recorded := by
        simp [step, hpc, afterQueue, hparent, recorded]
      apply Machine.Reaches.head _ .record hrecord
      refine Machine.Reaches.head _ .publish ?_ (Machine.reaches_refl _ _)
      simp [machine, step, recorded, emit, forwarded, afterForward, hflushing,
        ZmqWsProxy.deliver]

theorem reaches_deliver_after {w : ProxyLoop} {message : JupyterMessage}
    (hflushing : w.flushing = false) (kernel : KernelState) (outputs : List Output) :
    (machine D connection).Reaches (emit { w with kernel, pc := afterQueue message } outputs)
      (forwarded w (ZmqWsProxy.deliver kernel message outputs)) := by
  have heq : forwarded (emit { w with kernel, pc := afterQueue message } outputs)
      (ZmqWsProxy.deliver kernel message []) =
        forwarded w (ZmqWsProxy.deliver kernel message outputs) := by
    simp [forwarded, emit, ZmqWsProxy.deliver]
  rw [← heq]
  exact reaches_deliver rfl hflushing

/-- `forward_zmq` from the decoded message on. -/
theorem reaches_forwardMessage {w : ProxyLoop} {message : JupyterMessage}
    (hpc : w.pc = afterDecode message) (hflushing : w.flushing = false) (host : Host)
    (sent : Bool) :
    (machine D connection).Reaches w (forwarded w
      (ZmqWsProxy.forwardMessage D connection w.kernel message host sent)) := by
  cases hmsg : JupyterMsg.ofMessage message with
  | status executionState =>
      have hpc' : w.pc = .updating message executionState := by rw [hpc, afterDecode, hmsg]
      obtain ⟨⟨kernel, updates⟩, hstatus⟩ : ∃ result,
          ZmqWsProxy.statusSection w.kernel message executionState host = result := ⟨_, rfl⟩
      let updated : ProxyLoop :=
        emit { w with kernel, pc := afterUpdate message executionState } updates
      have hupdate : w.step D connection (.update host) = some updated := by
        simp [step, hpc', hstatus, updated]
      apply Machine.Reaches.head _ (.update host) hupdate
      cases executionState with
      | busy =>
          simp only [ZmqWsProxy.forwardMessage, hmsg, hstatus]
          exact reaches_deliver_after hflushing kernel updates
      | idle =>
          simp only [ZmqWsProxy.forwardMessage, hmsg, hstatus]
          obtain ⟨⟨kernel', result⟩, hdequeue⟩ : ∃ result,
              ZmqWsProxy.dequeueSection D connection kernel host sent = result := ⟨_, rfl⟩
          rw [hdequeue]
          cases result with
          | ok more =>
              let dequeued : ProxyLoop :=
                emit { w with kernel := kernel', pc := afterQueue message } (updates ++ more)
              refine Machine.Reaches.head _ (.dequeue host sent) (u := dequeued) ?_
                (reaches_deliver_after hflushing kernel' (updates ++ more))
              simp [machine, step, updated, dequeued, afterUpdate, emit, hdequeue]
          | error e =>
              refine Machine.Reaches.head _ (.dequeue host sent) ?_ (Machine.reaches_refl _ _)
              simp [machine, step, updated, afterUpdate, emit, hdequeue, fail, forwarded,
                afterForward, hflushing]
  | _ =>
      have hpc' : w.pc = afterQueue message := by rw [hpc, afterDecode, hmsg]
      simp only [ZmqWsProxy.forwardMessage, hmsg]
      exact reaches_deliver hpc' hflushing

def decodedEvents (D : Codecs) (connection : KernelConnection) (channel : JupyterChannel)
    (frames : List Bytes) : List ProxyEvent :=
  match (WireMessage.fromZmq connection.sessionId channel frames).toJupyter D channel
    connection.hmacKey with
  | .ok message => [.decoded message]
  | _ => []

/-- Left alone, the loop forwards a message of the kernel as `forward_zmq` does. -/
theorem reaches_forwardZmq {w : ProxyLoop} (hpc : w.pc = .listening)
    (hflushed : w.pendingIopubMessages = []) (channel : JupyterChannel)
    (frames : List Bytes) (host : Host) (sent : Bool) :
    (machine D connection).Reaches w (forwarded
      { w with log := w.log ++ decodedEvents D connection channel frames }
      (ZmqWsProxy.forwardZmq D (proxy connection) w.kernel channel frames host sent)) := by
  have harrive : w.step D connection (.arrive channel frames) =
      some (decode D connection { w with flushing := false } channel frames) := by
    simp [step, hpc, hflushed]
  apply Machine.Reaches.head _ (.arrive channel frames) harrive
  cases hdecoded : (WireMessage.fromZmq connection.sessionId channel frames).toJupyter D
      channel connection.hmacKey with
  | ok message =>
      have hforward : ZmqWsProxy.forwardZmq D (proxy connection) w.kernel channel frames host
          sent = ZmqWsProxy.forwardMessage D connection w.kernel message host sent := by
        simp [ZmqWsProxy.forwardZmq, proxy, hdecoded]
      rw [decode_of_ok hdecoded, hforward, decodedEvents, hdecoded]
      exact reaches_forwardMessage rfl rfl host sent
  | err e =>
      simp [decode, hdecoded, decodedEvents, ZmqWsProxy.forwardZmq, proxy, forwarded,
        afterForward, hpc, Machine.reaches_refl]
  | panic =>
      simp [decode, hdecoded, decodedEvents, ZmqWsProxy.forwardZmq, proxy, forwarded,
        afterForward, Machine.reaches_refl]

end ProxyLoop

end Kallichore
