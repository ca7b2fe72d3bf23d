import Kallichore.Session.InFlight

/-!
# The proxy's own question to the kernel

Before the proxy listens, `get_kernel_info` asks the kernel for its kernel info, and
`wait_for_shell_reply` waits for the answer on the shell socket. The iopub messages that
arrive meanwhile are set aside for the client, but for the status messages that the
question itself brings about. Then `listen` flushes what was set aside, and forwards what
arrives from then on.

Shell and iopub are sockets of their own, so the kernel's last status message, that it is
idle again, may come before or after the answer. After it, nobody takes it out any more:
the client sees a status that belongs to a request it knows nothing of.
-/

namespace Kallichore

/-- Whether the proxy still waits for the answer. -/
inductive InfoPc
  | waiting
  | listening
  /-- `get_kernel_info` failed or panicked, and the proxy is gone. -/
  | failed
  deriving DecidableEq

/-- The proxy from its question on, with the iopub messages it received. -/
structure InfoExchange where
  pc : InfoPc
  loop : ProxyLoop
  received : List (List Bytes)

namespace InfoExchange

/-- The part of the exchange that takes place. -/
inductive Act
  /-- A message arrives on the shell socket while the proxy waits. -/
  | shell (frames : List Bytes)
  /-- A message arrives on the iopub socket while the proxy waits. -/
  | ioPub (frames : List Bytes)
  /-- One of the two sockets fails while the proxy waits. -/
  | socketFailed
  /-- A step of `listen`. -/
  | listen (act : ProxyLoop.Act)
  /-- The other tasks of the session change what they share with the proxy. -/
  | others (kernel : KernelState) (wsZmq : List Posted)

section Steps

variable (D : Codecs) (connection : KernelConnection) (msgId : String)

/-- A message of the kernel on one of its sockets. -/
def decode (channel : JupyterChannel) (frames : List Bytes) : Outcome WireError JupyterMessage :=
  (WireMessage.fromZmq connection.sessionId channel frames).toJupyter D channel
    connection.hmacKey

/-- The message has the question for its parent. -/
def isReply (message : JupyterMessage) : Bool :=
  message.parentHeader.any fun parent => parent.msgId == msgId

/-- A status message that the question brings about. -/
def isOwnStatus (message : JupyterMessage) : Bool :=
  isReply msgId message && match JupyterMsg.ofMessage message with
    | .status _ => true
    | _ => false

/-- The proxy is gone, and with it what it has set aside. -/
def abort (s : InfoExchange) : InfoExchange :=
  { s with pc := .failed, loop := { s.loop with pendingIopubMessages := [] } }

/-- A turn of `wait_for_shell_reply` on a message from the shell socket. -/
def onShell (s : InfoExchange) (frames : List Bytes) : InfoExchange :=
  match decode D connection .shell frames with
  | .ok message => if isReply msgId message then { s with pc := .listening } else s
  | _ => s.abort

/-- A turn of `wait_for_shell_reply` on a message from the iopub socket. -/
def onIoPub (s : InfoExchange) (frames : List Bytes) : InfoExchange :=
  let s := { s with received := s.received ++ [frames] }
  match decode D connection .ioPub frames with
  | .ok message =>
      if isOwnStatus msgId message then s
      else { s with loop := { s.loop with
        pendingIopubMessages := s.loop.pendingIopubMessages ++ [frames] } }
  | _ => s.abort

/-- What a step of `listen` receives on the iopub socket. -/
def arrived : ProxyLoop.Act → List (List Bytes)
  | .arrive .ioPub frames => [frames]
  | _ => []

def step (s : InfoExchange) : Act → Option InfoExchange
  | .shell frames =>
      match s.pc with
      | .waiting => some (s.onShell D connection msgId frames)
      | _ => none
  | .ioPub frames =>
      match s.pc with
      | .waiting => some (s.onIoPub D connection msgId frames)
      | _ => none
  | .socketFailed =>
      match s.pc with
      | .waiting => some s.abort
      | _ => none
  | .listen act =>
      match s.pc with
      | .listening =>
          (s.loop.step D connection act).map fun loop =>
            { s with loop, received := s.received ++ arrived act }
      | _ => none
  | .others kernel wsZmq => some { s with loop := { s.loop with kernel, wsZmq } }

def machine : Machine InfoExchange Act := ⟨step D connection msgId⟩

/-- The question is on its way, and nothing has been received. -/
def asking (kernel : KernelState) (wsZmq : List Posted) : InfoExchange where
  pc := .waiting
  loop :=
    { kernel
      wsZmq
      pc := .listening
      pendingIopubMessages := []
      flushing := false
      log := [] }
  received := []

/-! ## What the client is to see -/

/-- The iopub message in some frames, if it is one. -/
def ioPubMessage (frames : List Bytes) : Option JupyterMessage :=
  match decode D connection .ioPub frames with
  | .ok message => some message
  | _ => none

/-- The iopub messages received, without the status messages of the question. -/
def visible (s : InfoExchange) : List JupyterMessage :=
  (s.received.filterMap (ioPubMessage D connection)).filter fun message =>
    !isOwnStatus msgId message

/-- The iopub messages handed to the client. -/
def published (log : List ProxyEvent) : List JupyterMessage :=
  log.filterMap fun
    | .out (.websocket (.jupyter message)) =>
        if message.channel = .ioPub then some message else none
    | _ => none

/-- The kernel's message that the loop is forwarding. -/
def inHand : ProxyPc → Option JupyterMessage
  | .updating message _ => some message
  | .dequeuing message => some message
  | .recording message => some message
  | .publishing message => some message
  | _ => none

/-- The iopub messages handed to the client, and those that will be. -/
def forwarded (loop : ProxyLoop) : List JupyterMessage :=
  published loop.log ++
    (inHand loop.pc).toList.filter (fun message => message.channel = .ioPub) ++
    loop.pendingIopubMessages.filterMap (ioPubMessage D connection)

/-- The client is handed the iopub messages received but for the status messages of the
question, each once and in the order they came in. -/
def Invisible (s : InfoExchange) : Prop :=
  forwarded D connection s.loop = s.visible D connection msgId

/-- The next request of the queue, if there is one, can be encoded and sent. -/
def Releases (queue : ExecutionQueue) (host : Host) (sent : Bool) : Prop :=
  ∀ request rest, queue.pending = request :: rest →
    sent = true ∧ ∃ wire, WireMessage.fromJupyter D host.date host.parentDate request connection =
      .ok wire

/-- Forwarding an idle status of the client's does not fail on the request that the kernel
is to get next. -/
def Keeps (w : ProxyLoop) : ProxyLoop.Act → Prop
  | .dequeue host sent =>
      ∀ message, w.pc = .dequeuing message → message.channel = .ioPub →
        Releases D connection w.kernel.executionQueue host sent
  | _ => True

/-- The step brings no status message of the question after its answer, and loses no
message that is set aside or in hand. -/
def Discreet (s : InfoExchange) : Act → Prop
  | .shell frames =>
      (∃ message, decode D connection .shell frames = .ok message) ∨
        s.loop.pendingIopubMessages = []
  | .ioPub frames =>
      (∃ message, decode D connection .ioPub frames = .ok message) ∨
        s.loop.pendingIopubMessages = []
  | .socketFailed => s.loop.pendingIopubMessages = []
  | .listen act =>
      Keeps D connection s.loop act ∧ ∀ frames ∈ arrived act, ∀ message,
        decode D connection .ioPub frames = .ok message → isOwnStatus msgId message = false
  | .others _ _ => True

end Steps

variable {D : Codecs} {connection : KernelConnection} {msgId : String}

theorem published_append (log more : List ProxyEvent) :
    published (log ++ more) = published log ++ published more := List.filterMap_append

theorem published_setStatus (kernel : KernelState) (status : Status) (reason : Option String)
    (host : Host) :
    published (((kernel.setStatus status reason host).2.map Output.websocket).map .out) = [] := by
  have hpoll : ∀ kernel : KernelState,
      published (((kernel.pollWorkingDir host).2.map Output.websocket).map .out) = [] := by
    intro kernel
    unfold KernelState.pollWorkingDir
    split
    · rfl
    · split <;> rfl
  unfold KernelState.setStatus
  split
  · rfl
  · split
    · rfl
    · split
      · simp only [List.map_append, published_append, hpoll, List.append_nil]
        rfl
      · rfl

theorem channel_of_decode {channel : JupyterChannel} {frames : List Bytes}
    {message : JupyterMessage} (h : decode D connection channel frames = .ok message) :
    message.channel = channel := by
  unfold decode WireMessage.toJupyter at h
  split at h
  · cases h
  · obtain ⟨_, -, hdecode⟩ := Outcome.bind_eq_ok_iff.mp h
    obtain ⟨_, _, _, _, _, _, -, -, -, -, -, hchannel, -⟩ :=
      WireMessage.decodeParts_eq_ok_iff.mp hdecode
    exact hchannel

theorem ioPubMessage_of_decode {frames : List Bytes} {message : JupyterMessage}
    (h : decode D connection .ioPub frames = .ok message) :
    ioPubMessage D connection frames = some message := by
  simp only [ioPubMessage, h]

theorem inHand_afterQueue (message : JupyterMessage) :
    inHand (ProxyLoop.afterQueue message) = some message := by
  unfold ProxyLoop.afterQueue
  split <;> rfl

theorem inHand_afterDecode (message : JupyterMessage) :
    inHand (ProxyLoop.afterDecode message) = some message := by
  unfold ProxyLoop.afterDecode
  split
  · rfl
  · exact inHand_afterQueue message

theorem inHand_afterUpdate (message : JupyterMessage) (executionState : ExecutionState) :
    inHand (ProxyLoop.afterUpdate message executionState) = some message := by
  cases executionState with
  | busy => exact inHand_afterQueue message
  | idle => rfl

theorem inHand_afterReceive (posted : Posted) : inHand (ProxyLoop.afterReceive posted) = none := by
  rcases ProxyLoop.afterReceive_eq posted with h | h
  · rw [h]
    rfl
  · rw [h]
    rfl

theorem inHand_fail (w : ProxyLoop) : inHand w.fail.pc = none := by
  unfold ProxyLoop.fail
  split <;> rfl

/-- The queue's part in forwarding an idle status succeeds exactly if the next request can
be sent, and shows the client nothing. -/
theorem dequeueSection_of_releases {kernel : KernelState} {host : Host} {sent : Bool}
    (h : Releases D connection kernel.executionQueue host sent) :
    ∃ outputs, (ZmqWsProxy.dequeueSection D connection kernel host sent).2 = .ok outputs ∧
      published (outputs.map .out) = [] := by
  unfold ZmqWsProxy.dequeueSection
  cases hpending : kernel.executionQueue.pending with
  | nil =>
      simp only [ExecutionQueue.nextRequest, hpending]
      exact ⟨[], rfl, rfl⟩
  | cons request rest =>
      obtain ⟨rfl, wire, hwire⟩ := h request rest hpending
      simp only [ExecutionQueue.nextRequest, hpending, ZmqWsProxy.sendTo, hwire]
      exact ⟨_, rfl, rfl⟩

theorem dequeueSection_of_not_releases {kernel : KernelState} {host : Host} {sent : Bool}
    (h : ¬ Releases D connection kernel.executionQueue host sent) :
    ∃ e, (ZmqWsProxy.dequeueSection D connection kernel host sent).2 = .error e := by
  unfold ZmqWsProxy.dequeueSection
  cases hpending : kernel.executionQueue.pending with
  | nil =>
      refine absurd (fun request rest hcons => ?_) h
      cases hpending.symm.trans hcons
  | cons request rest =>
      simp only [ExecutionQueue.nextRequest, hpending, ZmqWsProxy.sendTo]
      cases hwire : WireMessage.fromJupyter D host.date host.parentDate request connection with
      | error e => exact ⟨_, rfl⟩
      | ok wire =>
          cases sent with
          | false => exact ⟨_, rfl⟩
          | true =>
              refine absurd (fun request' rest' hcons => ?_) h
              obtain ⟨rfl, rfl⟩ := List.cons.inj (hpending.symm.trans hcons)
              exact ⟨rfl, wire, hwire⟩

theorem published_queueSection {kernel kernel' : KernelState} {msg : JupyterMessage} {host : Host}
    {outputs : List Output} {goes : Bool}
    (h : ZmqWsProxy.queueSection kernel msg host = (kernel', outputs, goes)) :
    published (outputs.map .out) = [] := by
  unfold ZmqWsProxy.queueSection at h
  split at h
  · split at h
    · cases h
      rfl
    · cases h
      rfl
  · cases h
    rfl
  · cases h
    rfl
  · cases h
    rfl

theorem published_recordSection (kernel : KernelState) (message : JupyterMessage) :
    published ((ZmqWsProxy.recordSection kernel message).2.map .out) = [] := by
  unfold ZmqWsProxy.recordSection
  split
  · rfl
  · simp [published]

theorem forwarded_congr {w t : ProxyLoop} (hlog : published t.log = published w.log)
    (hpc : inHand t.pc = inHand w.pc)
    (hpending : t.pendingIopubMessages = w.pendingIopubMessages) :
    forwarded D connection t = forwarded D connection w := by
  rw [forwarded, forwarded, hlog, hpc, hpending]

/-- A message of the kernel that is decoded is in hand, if it is one for the client. -/
theorem forwarded_decode {w : ProxyLoop} (hpc : w.pc = .listening) (channel : JupyterChannel)
    (frames : List Bytes) :
    forwarded D connection (w.decode D connection channel frames) =
      published w.log ++
        (if channel = .ioPub then (ioPubMessage D connection frames).toList else []) ++
        w.pendingIopubMessages.filterMap (ioPubMessage D connection) := by
  have hdecode : (WireMessage.fromZmq connection.sessionId channel frames).toJupyter D channel
      connection.hmacKey = decode D connection channel frames := rfl
  simp only [ProxyLoop.decode, hdecode]
  cases hmessage : decode D connection channel frames with
  | ok message =>
      have hchannel := channel_of_decode hmessage
      by_cases h : channel = .ioPub
      · subst h
        simp [forwarded, inHand_afterDecode, ioPubMessage, hmessage, hchannel, published]
      · simp [forwarded, inHand_afterDecode, hchannel, h, published]
  | err e =>
      by_cases h : channel = .ioPub
      · subst h
        simp [forwarded, hpc, inHand, ioPubMessage, hmessage]
      · simp [forwarded, hpc, inHand, h]
  | panic =>
      by_cases h : channel = .ioPub
      · subst h
        simp [forwarded, inHand, ioPubMessage, hmessage]
      · simp [forwarded, inHand, h]

/-- A step of `listen` adds what arrives on iopub to what the client is handed, unless it
fails on the request that an idle kernel is to get. -/
theorem forwarded_step {w t : ProxyLoop} {a : ProxyLoop.Act}
    (h : w.step D connection a = some t) :
    (Keeps D connection w a ∧ forwarded D connection t =
        forwarded D connection w ++ (arrived a).filterMap (ioPubMessage D connection)) ∨
      (¬ Keeps D connection w a ∧ arrived a = [] ∧
        (forwarded D connection t).length < (forwarded D connection w).length) := by
  have hsame : forwarded D connection t = forwarded D connection w →
      forwarded D connection t = forwarded D connection w ++ [] :=
    fun heq => by rw [heq, List.append_nil]
  cases ProxyLoop.step_took h with
  | receive hpc hpending hchannel =>
      refine .inl ⟨trivial, ?_⟩
      exact hsame (forwarded_congr rfl (by rw [inHand_afterReceive, hpc]; rfl) rfl)
  | passOn hpc hsection =>
      refine .inl ⟨trivial, hsame (forwarded_congr ?_ (by rw [hpc]; rfl) rfl)⟩
      simp only [ProxyLoop.emit, published_append, published_queueSection hsection,
        List.append_nil]
  | hold hpc hsection =>
      refine .inl ⟨trivial, hsame (forwarded_congr ?_ (by rw [hpc]; rfl) rfl)⟩
      simp only [ProxyLoop.emit, published_append, published_queueSection hsection,
        List.append_nil]
  | send hpc hsection =>
      refine .inl ⟨trivial, hsame (forwarded_congr ?_ (by rw [hpc]; rfl) rfl)⟩
      rcases ZmqWsProxy.sendSection_eq_ok hsection with rfl | ⟨frames, rfl⟩
      · simp [ProxyLoop.emit]
      · simp [ProxyLoop.emit, published]
  | sendFails hpc hsection =>
      refine .inl ⟨trivial, ?_⟩
      exact hsame (forwarded_congr rfl (by rw [inHand_fail, hpc]; rfl) rfl)
  | @arrive channel frames hpc hpending =>
      refine .inl ⟨trivial, ?_⟩
      rw [forwarded_decode (w := { w with flushing := false }) hpc]
      by_cases hchannel : channel = .ioPub
      · subst hchannel
        cases hmessage : ioPubMessage D connection frames with
        | none => simp [forwarded, hpc, inHand, hpending, arrived, hmessage]
        | some message => simp [forwarded, hpc, inHand, hpending, arrived, hmessage]
      · have harrived : arrived (.arrive channel frames) = [] := by
          cases channel <;> first | rfl | exact absurd rfl hchannel
        simp [forwarded, hpc, inHand, hpending, harrived, hchannel]
  | @flush frames rest hpc hpending =>
      refine .inl ⟨trivial, ?_⟩
      rw [forwarded_decode (w := { w with pendingIopubMessages := rest, flushing := true }) hpc]
      cases hmessage : ioPubMessage D connection frames with
      | none => simp [forwarded, hpc, inHand, hpending, arrived, hmessage]
      | some message => simp [forwarded, hpc, inHand, hpending, arrived, hmessage]
  | update hpc =>
      refine .inl ⟨trivial, hsame (forwarded_congr ?_ ?_ rfl)⟩
      · simp only [ProxyLoop.emit, published_append, ZmqWsProxy.statusSection]
        rw [published_setStatus, List.append_nil]
      · rw [hpc]
        exact inHand_afterUpdate _ _
  | @dequeue host sent message kernel outputs hpc hsection =>
      have hreleases : Releases D connection w.kernel.executionQueue host sent := by
        by_contra hfails
        obtain ⟨e, herror⟩ := dequeueSection_of_not_releases hfails
        cases (congrArg Prod.snd hsection).symm.trans herror
      obtain ⟨more, hok, hpublished⟩ := dequeueSection_of_releases hreleases
      cases (congrArg Prod.snd hsection).symm.trans hok
      refine .inl ⟨fun _ _ _ => hreleases,
        hsame (forwarded_congr ?_ (by rw [hpc]; exact inHand_afterQueue _) rfl)⟩
      simp only [ProxyLoop.emit, published_append, hpublished, List.append_nil]
  | @dequeueFails host sent message kernel e hpc hsection =>
      have hfail : forwarded D connection (ProxyLoop.fail { w with kernel }) =
          published w.log ++ w.pendingIopubMessages.filterMap (ioPubMessage D connection) := by
        simp only [forwarded, inHand_fail]
        simp [ProxyLoop.fail]
      by_cases hchannel : message.channel = .ioPub
      · right
        refine ⟨fun hkeeps => ?_, rfl, ?_⟩
        · obtain ⟨more, hok, -⟩ := dequeueSection_of_releases (hkeeps message hpc hchannel)
          cases (congrArg Prod.snd hsection).symm.trans hok
        · rw [hfail]
          simp [forwarded, hpc, inHand, hchannel]
      · left
        constructor
        · intro message' hpc' hchannel'
          cases hpc.symm.trans hpc'
          exact absurd hchannel' hchannel
        · apply hsame
          rw [hfail]
          simp [forwarded, hpc, inHand, hchannel]
  | record hpc =>
      refine .inl ⟨trivial, hsame (forwarded_congr ?_ (by rw [hpc]; rfl) rfl)⟩
      simp only [ProxyLoop.emit, published_append, published_recordSection, List.append_nil]
  | @publish message hpc =>
      refine .inl ⟨trivial, ?_⟩
      apply hsame
      simp only [forwarded, ProxyLoop.emit, published_append, hpc, inHand]
      by_cases hchannel : message.channel = .ioPub
      · simp [ZmqWsProxy.publishSection, published, hchannel]
      · simp [ZmqWsProxy.publishSection, published, hchannel]
  | stop hpc hpending =>
      refine .inl ⟨trivial, ?_⟩
      exact hsame (forwarded_congr rfl (by rw [hpc]; rfl) rfl)

variable (D connection) in
def SetAside (s : InfoExchange) : Prop :=
  ∀ frames ∈ s.loop.pendingIopubMessages, ∃ message, ioPubMessage D connection frames = some message

theorem mem_pending_of_step {w t : ProxyLoop} {a : ProxyLoop.Act}
    (h : w.step D connection a = some t) {frames : List Bytes}
    (hmem : frames ∈ t.pendingIopubMessages) : frames ∈ w.pendingIopubMessages := by
  have hdecode : ∀ (u : ProxyLoop) (channel : JupyterChannel) (frames : List Bytes),
      (u.decode D connection channel frames).pendingIopubMessages = u.pendingIopubMessages := by
    intro u channel frames
    simp only [ProxyLoop.decode]
    split <;> rfl
  cases ProxyLoop.step_took h with
  | @flush first rest hpc hpending =>
      rw [hdecode] at hmem
      rw [hpending]
      exact List.mem_cons_of_mem first hmem
  | arrive hpc hpending => rwa [hdecode] at hmem
  | _ => exact hmem

theorem setAside_of_step {s t : InfoExchange} {a : Act} (hs : s.SetAside D connection)
    (h : s.step D connection msgId a = some t) : t.SetAside D connection := by
  have habort : ∀ u : InfoExchange, u.abort.SetAside D connection := by
    intro u frames hmem
    cases hmem
  cases a with
  | shell frames =>
      simp only [step] at h
      split at h
      · cases h
        simp only [onShell]
        split
        · split
          · exact hs
          · exact hs
        · exact habort s
      · cases h
  | ioPub frames =>
      simp only [step] at h
      split at h
      · cases h
        simp only [onIoPub]
        split
        next message hmessage =>
          split
          · exact hs
          · intro frames' hmem
            rcases List.mem_append.mp hmem with hmem | hmem
            · exact hs frames' hmem
            · rw [List.mem_singleton.mp hmem]
              exact ⟨message, ioPubMessage_of_decode hmessage⟩
        · exact habort _
      · cases h
  | socketFailed =>
      simp only [step] at h
      split at h
      · cases h
        exact habort s
      · cases h
  | listen act =>
      simp only [step] at h
      split at h
      · obtain ⟨loop, hloop, rfl⟩ := Option.map_eq_some_iff.mp h
        intro frames hmem
        exact hs frames (mem_pending_of_step hloop hmem)
      · cases h
  | others kernel wsZmq =>
      cases h
      exact hs

/-- A further iopub message is to be seen unless it is a status of the question. -/
theorem visible_append (s : InfoExchange) (frames : List Bytes) :
    visible D connection msgId { s with received := s.received ++ [frames] } =
      s.visible D connection msgId ++
        (ioPubMessage D connection frames).toList.filter fun message =>
          !isOwnStatus msgId message := by
  cases h : ioPubMessage D connection frames with
  | none => simp [visible, h]
  | some message => simp [visible, h]

theorem invisible_abort_iff {s : InfoExchange} (hs : s.SetAside D connection)
    (hinvisible : s.Invisible D connection msgId) :
    s.abort.Invisible D connection msgId ↔ s.loop.pendingIopubMessages = [] := by
  have hvisible : s.abort.visible D connection msgId = s.visible D connection msgId := rfl
  simp only [Invisible] at hinvisible ⊢
  rw [hvisible, ← hinvisible]
  cases hpending : s.loop.pendingIopubMessages with
  | nil => simp [forwarded, abort, hpending]
  | cons frames rest =>
      obtain ⟨message, hmessage⟩ := hs frames (by simp [hpending])
      simp [forwarded, abort, hpending, hmessage]

theorem invisible_onIoPub_iff {s : InfoExchange} (hs : s.SetAside D connection)
    (hinvisible : s.Invisible D connection msgId) (frames : List Bytes) :
    (s.onIoPub D connection msgId frames).Invisible D connection msgId ↔
      s.Discreet D connection msgId (.ioPub frames) := by
  let arrived : InfoExchange := { s with received := s.received ++ [frames] }
  have happend : arrived.visible D connection msgId = s.visible D connection msgId ++ _ :=
    visible_append s frames
  simp only [onIoPub, Discreet]
  cases hmessage : decode D connection .ioPub frames with
  | ok message =>
      have hframes := ioPubMessage_of_decode hmessage
      refine iff_of_true ?_ (.inl ⟨message, rfl⟩)
      dsimp only
      split
      next hown =>
        rw [Invisible, happend, ← hinvisible]
        simp [hframes, hown]
      next hown =>
        have hvisible : visible D connection msgId { arrived with loop := { s.loop with
            pendingIopubMessages := s.loop.pendingIopubMessages ++ [frames] } } =
              arrived.visible D connection msgId := rfl
        rw [Invisible, hvisible, happend, ← hinvisible]
        simp [forwarded, hframes, hown]
  | err e =>
      have hinvisible' : arrived.Invisible D connection msgId := by
        rw [Invisible, happend, ← hinvisible]
        simp [ioPubMessage, hmessage, arrived]
      simpa using invisible_abort_iff (s := arrived) hs hinvisible'
  | panic =>
      have hinvisible' : arrived.Invisible D connection msgId := by
        rw [Invisible, happend, ← hinvisible]
        simp [ioPubMessage, hmessage, arrived]
      simpa using invisible_abort_iff (s := arrived) hs hinvisible'

theorem arrived_cases (act : ProxyLoop.Act) :
    arrived act = [] ∨ ∃ frames, arrived act = [frames] := by
  cases act with
  | arrive channel frames =>
      cases channel with
      | ioPub => exact .inr ⟨frames, rfl⟩
      | _ => exact .inl rfl
  | _ => exact .inl rfl

/-- A step of `listen`. -/
theorem invisible_listen_iff {s : InfoExchange} (hinvisible : s.Invisible D connection msgId)
    {act : ProxyLoop.Act} {loop : ProxyLoop} (h : s.loop.step D connection act = some loop) :
    Invisible D connection msgId { s with loop, received := s.received ++ arrived act } ↔
      s.Discreet D connection msgId (.listen act) := by
  have hvisible : ∀ received, visible D connection msgId { s with loop, received } =
      visible D connection msgId { s with received } := fun _ => rfl
  simp only [Invisible, Discreet, hvisible]
  rcases forwarded_step h with ⟨hkeeps, hforwarded⟩ | ⟨hlost, harrived, hlt⟩
  · rw [hforwarded, hinvisible]
    rcases arrived_cases act with harrived | ⟨frames, harrived⟩
    · simp [harrived, hkeeps, visible]
    · rw [harrived, visible_append]
      cases hmessage : decode D connection .ioPub frames with
      | ok message =>
          cases hown : isOwnStatus msgId message with
          | false => simp [ioPubMessage, hmessage, hkeeps, hown]
          | true => simp [ioPubMessage, hmessage, hkeeps, hown]
      | err e => simp [ioPubMessage, hmessage, hkeeps]
      | panic => simp [ioPubMessage, hmessage, hkeeps]
  · refine iff_of_false (fun heq => ?_) fun hdiscreet => hlost hdiscreet.1
    rw [harrived, List.append_nil] at heq
    rw [heq, hinvisible] at hlt
    exact absurd hlt (Nat.lt_irrefl _)

theorem invisible_step_iff {s t : InfoExchange} {a : Act} (hs : s.SetAside D connection)
    (hinvisible : s.Invisible D connection msgId) (h : s.step D connection msgId a = some t) :
    t.Invisible D connection msgId ↔ s.Discreet D connection msgId a := by
  cases a with
  | shell frames =>
      simp only [step] at h
      split at h
      · cases h
        simp only [onShell, Discreet]
        cases hmessage : decode D connection .shell frames with
        | ok message =>
            dsimp only
            split
            · exact iff_of_true hinvisible (.inl ⟨message, rfl⟩)
            · exact iff_of_true hinvisible (.inl ⟨message, rfl⟩)
        | err e => simpa using invisible_abort_iff hs hinvisible
        | panic => simpa using invisible_abort_iff hs hinvisible
      · cases h
  | ioPub frames =>
      simp only [step] at h
      split at h
      · cases h
        exact invisible_onIoPub_iff hs hinvisible frames
      · cases h
  | socketFailed =>
      simp only [step] at h
      split at h
      · cases h
        exact invisible_abort_iff hs hinvisible
      · cases h
  | listen act =>
      simp only [step] at h
      split at h
      · obtain ⟨loop, hloop, rfl⟩ := Option.map_eq_some_iff.mp h
        exact invisible_listen_iff hinvisible hloop
      · cases h
  | others kernel wsZmq =>
      cases h
      simp only [Discreet, iff_true]
      exact hinvisible

/-- From the question on, over every order in which shell and iopub messages come in: the
client is handed the iopub messages received but for the status messages of the question,
each once and in order, all along exactly those runs whose steps are discreet. -/
theorem invisible_iff_discreet (D : Codecs) (connection : KernelConnection) (msgId : String)
    (kernel : KernelState) (wsZmq : List Posted) (acts : List Act) {s : InfoExchange}
    (hrun : (machine D connection msgId).run (asking kernel wsZmq) acts = some s) :
    (∀ before after u, acts = before ++ after →
      (machine D connection msgId).run (asking kernel wsZmq) before = some u →
      u.Invisible D connection msgId) ↔
    (machine D connection msgId).Meets (Discreet D connection msgId) (asking kernel wsZmq)
      acts := by
  have hinit : (asking kernel wsZmq).SetAside D connection ∧
      (asking kernel wsZmq).Invisible D connection msgId := by
    refine ⟨fun frames hmem => ?_, rfl⟩
    cases hmem
  rw [← (machine D connection msgId).forall_prefix_iff_meets
    (I := fun u => u.SetAside D connection ∧ u.Invisible D connection msgId) ?_ ?_ hinit hrun]
  · constructor
    · intro h before after u heq hu
      refine ⟨?_, h before after u heq hu⟩
      exact (machine D connection msgId).run_of_step (fun _ _ _ hs h => setAside_of_step hs h)
        hinit.1 hu
    · intro h before after u heq hu
      exact (h before after u heq hu).2
  · intro u a v hu hdiscreet h
    exact ⟨setAside_of_step hu.1 h, (invisible_step_iff hu.1 hu.2 h).mpr hdiscreet⟩
  · intro u a v hu h hv
    exact (invisible_step_iff hu.1 hu.2 h).mp hv.2

theorem onShell_of_reply {frames : List Bytes} {message : JupyterMessage}
    (hmessage : decode D connection .shell frames = .ok message)
    (hreply : isReply msgId message = true) (s : InfoExchange) :
    s.onShell D connection msgId frames = { s with pc := .listening } := by
  simp only [onShell, hmessage, hreply, if_true]

theorem onIoPub_of_ownStatus {frames : List Bytes} {message : JupyterMessage}
    (hmessage : decode D connection .ioPub frames = .ok message)
    (hown : isOwnStatus msgId message = true) (s : InfoExchange) :
    s.onIoPub D connection msgId frames = { s with received := s.received ++ [frames] } := by
  simp only [onIoPub, hmessage, hown, if_true]

/-! ## A kernel that answers first and is idle then -/

open WireMessage Session

/-- The header of the question, and that of its answer. -/
def question : WireMessageHeader := sampleParent "i" "kernel_info_request"

def answer : WireMessageHeader := sampleParent "j" "kernel_info_reply"

/-- The library functions on the texts of the answer and of the statuses that go with it. -/
def infoCodecs : Codecs :=
  { idleCodecs question with
    jsonFromStr := fun text =>
      if text = answer.jsonText sampleCodecs then some answer.toValue
      else (idleCodecs question).jsonFromStr text }

def answerFrames : List Bytes :=
  [msgDelim, [], asBytes (answer.jsonText sampleCodecs), asBytes (question.jsonText sampleCodecs),
    asBytes "\x7b\x7d", asBytes "\x7b\x7d"]

def answerMessage (channel : JupyterChannel) : JupyterMessage where
  header := answer.toJupyter
  parentHeader := some question.toJupyter
  channel := channel
  content := .object []
  metadata := .object []
  buffers := []

theorem infoCodecs_question :
    infoCodecs.jsonFromStr (question.jsonText sampleCodecs) = some question.toValue := by
  have hanswer : question.jsonText sampleCodecs ≠ answer.jsonText sampleCodecs := by decide
  have hheader : question.jsonText sampleCodecs ≠ sampleHeaderText := by decide
  simp only [infoCodecs, idleCodecs, hanswer, hheader, if_true, if_false]

theorem infoCodecs_header :
    infoCodecs.jsonFromStr sampleHeaderText = some sampleHeader.toValue := by
  have hanswer : sampleHeaderText ≠ answer.jsonText sampleCodecs := by decide
  simp only [infoCodecs, idleCodecs, hanswer, if_true, if_false]

theorem infoCodecs_answer :
    infoCodecs.jsonFromStr (answer.jsonText sampleCodecs) = some answer.toValue := by
  simp only [infoCodecs, if_true]

theorem infoCodecs_empty :
    infoCodecs.jsonFromSlice (asBytes "\x7b\x7d") = some (.object []) := by
  have hidle : asBytes "\x7b\x7d" ≠ asBytes idleText := by decide
  simp only [infoCodecs, idleCodecs, hidle, if_false, sampleCodecs_jsonFromSlice]

theorem infoCodecs_idle : infoCodecs.jsonFromSlice (asBytes idleText) = some idleContent := by
  simp only [infoCodecs, idleCodecs, if_true]

theorem decode_status :
    decode infoCodecs unsignedConnection .ioPub (idleFrames question) =
      .ok (idleMessage question) :=
  toJupyter_of_json infoCodecs_header infoCodecs_question (question.length_jsonText sampleCodecs)
    infoCodecs_empty infoCodecs_idle "s" .ioPub

theorem decode_answer (channel : JupyterChannel) :
    decode infoCodecs unsignedConnection channel answerFrames = .ok (answerMessage channel) :=
  toJupyter_of_json infoCodecs_answer infoCodecs_question (question.length_jsonText sampleCodecs)
    infoCodecs_empty infoCodecs_empty "s" channel

def sampleKernel : KernelState := (sampleSession .signal).loop.kernel

theorem isOwnStatus_idle : isOwnStatus "i" (idleMessage question) = true := rfl

theorem isReply_answer : isReply "i" (answerMessage .shell) = true := rfl

/-- The status comes in before the answer, and is kept from the client. -/
theorem invisible_iff_discreet_early :
    ∃ s, (machine infoCodecs unsignedConnection "i").run (asking sampleKernel [])
        [.ioPub (idleFrames question), .shell answerFrames] = some s ∧
      s.pc = .listening ∧ s.received = [idleFrames question] ∧
      s.Invisible infoCodecs unsignedConnection "i" := by
  have hioPub := onIoPub_of_ownStatus decode_status isOwnStatus_idle
  have hshell := onShell_of_reply (decode_answer .shell) isReply_answer
  have hrun : (machine infoCodecs unsignedConnection "i").run (asking sampleKernel [])
      [.ioPub (idleFrames question), .shell answerFrames] =
        some { asking sampleKernel [] with
          pc := .listening
          received := [idleFrames question] } := by
    simp [Machine.run, machine, step, asking, hioPub, hshell]
  have hmeets : (machine infoCodecs unsignedConnection "i").Meets
      (Discreet infoCodecs unsignedConnection "i") (asking sampleKernel [])
      [.ioPub (idleFrames question), .shell answerFrames] := by
    apply Machine.meets_of_forall
    simp [Discreet, decode_status, decode_answer]
  exact ⟨_, hrun, rfl, rfl, (invisible_iff_discreet infoCodecs unsignedConnection "i" sampleKernel
    [] _ hrun).mpr hmeets _ [] _ (List.append_nil _).symm hrun⟩

/-- The status comes in after the answer, and the client sees it. -/
theorem not_invisible_late :
    ∃ s, (machine infoCodecs unsignedConnection "i").run (asking sampleKernel [])
        ([.shell answerFrames, .listen (.arrive .ioPub (idleFrames question))] ++
          [.listen (.update sampleHost), .listen (.dequeue sampleHost true), .listen .record,
            .listen .publish]) = some s ∧
      published s.loop.log = [idleMessage question] ∧
      ¬ s.Invisible infoCodecs unsignedConnection "i" := by
  have hshell := onShell_of_reply (decode_answer .shell) isReply_answer
  have hloop := fun w => ProxyLoop.decode_of_ok decode_status w
  have hpc : ProxyLoop.afterDecode (idleMessage question) =
      .updating (idleMessage question) .idle := rfl
  let arrived : InfoExchange :=
    { pc := .listening
      loop := { (asking sampleKernel []).loop with
        pc := .updating (idleMessage question) .idle
        log := [.decoded (idleMessage question)] }
      received := [idleFrames question] }
  have harrived : (machine infoCodecs unsignedConnection "i").run (asking sampleKernel [])
      [.shell answerFrames, .listen (.arrive .ioPub (idleFrames question))] = some arrived := by
    simp [Machine.run, machine, step, asking, hshell, ProxyLoop.step, hloop, hpc, arrived,
      InfoExchange.arrived]
  obtain ⟨s, hs, hlog, hreceived⟩ : ∃ s, (machine infoCodecs unsignedConnection "i").run arrived
      [.listen (.update sampleHost), .listen (.dequeue sampleHost true), .listen .record,
        .listen .publish] = some s ∧ published s.loop.log = [idleMessage question] ∧
      s.received = [idleFrames question] := ⟨_, rfl, rfl, rfl⟩
  refine ⟨s, (Machine.run_append_eq_some_iff _ _ _ _ _).mpr ⟨arrived, harrived, hs⟩, hlog, ?_⟩
  intro h
  have hvisible : s.visible infoCodecs unsignedConnection "i" = [] := by
    simp [visible, hreceived, ioPubMessage_of_decode decode_status, isOwnStatus_idle]
  rw [Invisible, hvisible, forwarded, hlog] at h
  cases h

end InfoExchange

end Kallichore
