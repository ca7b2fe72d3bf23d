import Kallichore.Lib.Outstanding
import Kallichore.Wire.RoundTrip
import Kallichore.Session.Basic
import Kallichore.ExecutionQueue.Ledger

/-!
# One execution at a time

An execution request is in flight from the moment it is handed to the shell
socket until a `status: idle` with that request as its parent arrives. The
active slot of the queue stands for the request in flight, but three things can
free it early: an idle that answers something else, anything that clears the
queue, and a request the proxy cannot read and passes by the queue. In a run
without these, every request handed to the shell socket finds the earlier ones
answered.
-/

namespace Kallichore

namespace ProxyLoop

open Outstanding

/-- The execution request an event hands to the shell socket. -/
def executionSent : ProxyEvent → Option String
  | .out (.socket .shell msg _) =>
      if msg.header.msgType = "execute_request" then some msg.msgId else none
  | _ => none

/-- The request that the kernel is idle after, by an event that says so. -/
def idleAfter : ProxyEvent → Option String
  | .decoded message =>
      match JupyterMsg.ofMessage message with
      | .status .idle => message.parentHeader.map fun parent => parent.msgId
      | _ => none
  | _ => none

/-- The execution requests that the kernel has not answered with an idle. -/
def inFlight (log : List ProxyEvent) : List String := outstanding executionSent idleAfter log

/-- The message is an execution request for the shell socket. -/
def ForShell (msg : JupyterMessage) : Prop :=
  msg.channel = .shell ∧ msg.header.msgType = "execute_request"

/-- What is known of the requests in flight where the proxy is. -/
def At (w : ProxyLoop) : ProxyPc → Prop
  | .queueing posted => ForShell posted.msg → Executes posted.msg
  | .sending posted => ForShell posted.msg → inFlight w.log = [] ∧
      ∃ active, w.executionQueue.active = some active ∧ active.msgId = posted.msg.msgId
  | .updating _ .idle | .dequeuing _ => inFlight w.log = []
  | _ => True

/-- The active slot stands for whatever is in flight. -/
structure Guarded (w : ProxyLoop) : Prop where
  exclusive : Exclusive executionSent idleAfter w.log
  active : ∀ id ∈ inFlight w.log,
    ∃ active, w.executionQueue.active = some active ∧ active.msgId = id
  here : w.At w.pc

/-- The steps that keep the active slot true: an idle that arrives while a
request is active answers that request, the queue is only cleared when none is,
and an execution request for the shell can be read. -/
def Faithful (D : Codecs) (connection : KernelConnection) (w : ProxyLoop) (a : Act) : Prop :=
  (∀ message active, Delivers D connection w message a →
    JupyterMsg.ofMessage message = .status .idle → w.executionQueue.active = some active →
    idleAfter (.decoded message) = some active.msgId) ∧
  (∀ host posted, a = .queue host → w.pc = .queueing posted → Clears posted.msg →
    w.executionQueue.active = none) ∧
  (∀ posted rest, a = .receive → w.wsZmq = posted :: rest → ForShell posted.msg →
    Executes posted.msg)

/-! ## The steps of the proxy -/

theorem quiet_neutral {event : ProxyEvent} (h : Quiet event) :
    executionSent event = none ∧ idleAfter event = none := by
  match event with
  | .out (.websocket _) => exact ⟨rfl, rfl⟩
  | .out (.rpc _ _) => exact ⟨rfl, rfl⟩

theorem inFlight_append_quiet {log events : List ProxyEvent}
    (h : ∀ event ∈ events, Quiet event) : inFlight (log ++ events) = inFlight log :=
  outstanding_append_of_neutral _ _ fun event hevent => quiet_neutral (h event hevent)

theorem at_of_free (w : ProxyLoop) {pc : ProxyPc} (h : Free pc) : w.At pc := by
  cases pc with
  | queueing | sending | updating | dequeuing => exact absurd h id
  | _ => trivial

theorem inFlight_of_none {w : ProxyLoop} (h : w.Guarded)
    (hactive : w.executionQueue.active = none) : inFlight w.log = [] := by
  rw [List.eq_nil_iff_forall_not_mem]
  intro id hid
  obtain ⟨active, heq, -⟩ := h.active id hid
  rw [hactive] at heq
  cases heq

theorem msgType_of_clears {msg : JupyterMessage} (h : Clears msg) :
    msg.header.msgType ≠ "execute_request" := by
  intro htype
  have hof : JupyterMsg.ofMessage msg = .other ∨ Executes msg := by
    cases hvalue : JupyterExecuteRequest.ofValue msg.content with
    | none => exact Or.inl (by simp [JupyterMsg.ofMessage, htype, hvalue])
    | some content => exact Or.inr ⟨content, by simp [JupyterMsg.ofMessage, htype, hvalue]⟩
  rcases hof with hof | ⟨content, hof⟩
  all_goals
    rcases h with heq | heq
    all_goals
      rw [hof] at heq
      cases heq

theorem guarded_of_same {w t : ProxyLoop} (h : w.Guarded) (hlog : t.log = w.log)
    (hactive : t.executionQueue.active = w.executionQueue.active) (hhere : t.At t.pc) :
    t.Guarded := by
  refine ⟨hlog ▸ h.exclusive, fun id hid => ?_, hhere⟩
  rw [hlog] at hid
  rw [hactive]
  exact h.active id hid

theorem guarded_of_none {w t : ProxyLoop} (h : w.Guarded) (hlog : t.log = w.log)
    (hnone : inFlight w.log = []) (hhere : t.At t.pc) : t.Guarded := by
  refine ⟨hlog ▸ h.exclusive, fun id hid => ?_, hhere⟩
  rw [hlog, hnone] at hid
  cases hid

theorem guarded_of_quiet {w t : ProxyLoop} (h : w.Guarded)
    (hlog : ∃ events, t.log = w.log ++ events ∧ ∀ event ∈ events, Quiet event)
    (hactive : t.executionQueue.active = w.executionQueue.active) (hhere : t.At t.pc) :
    t.Guarded := by
  obtain ⟨events, heq, hquiet⟩ := hlog
  refine ⟨?_, fun id hid => ?_, hhere⟩
  · rw [heq]
    exact h.exclusive.append_of_neutral _ _ fun event hevent =>
      (quiet_neutral (hquiet event hevent)).1
  · rw [heq, inFlight_append_quiet hquiet] at hid
    rw [hactive]
    exact h.active id hid

/-- A message was handed to a socket, with nothing in flight if it is an
execution request for the shell. -/
theorem guarded_of_sent {w t : ProxyLoop} (h : w.Guarded) {channel : JupyterChannel}
    {msg : JupyterMessage} {frames : List Bytes}
    (hlog : t.log = w.log ++ [ProxyEvent.out (.socket channel msg frames)]) (hpc : Free t.pc)
    (hsent : ∀ id, executionSent (.out (.socket channel msg frames)) = some id →
      inFlight w.log = [] ∧ id = msg.msgId ∧
        ∃ active, t.executionQueue.active = some active ∧ active.msgId = msg.msgId)
    (hkept : executionSent (.out (.socket channel msg frames)) = none →
      t.executionQueue.active = w.executionQueue.active ∨ inFlight w.log = []) :
    t.Guarded := by
  have hinFlight : inFlight t.log =
      inFlight w.log ++ (executionSent (.out (.socket channel msg frames))).toList := by
    rw [hlog, inFlight, outstanding_append, track]
    simp [idleAfter, inFlight]
  refine ⟨?_, fun id hid => ?_, at_of_free t hpc⟩
  · rw [hlog]
    exact h.exclusive.append _ _ fun id hid => (hsent id hid).1
  · rw [hinFlight] at hid
    cases hcase : executionSent (.out (.socket channel msg frames)) with
    | some own =>
        obtain ⟨hnone, rfl, hactive⟩ := hsent own hcase
        rw [hnone, hcase] at hid
        obtain rfl : id = msg.msgId := by simpa using hid
        exact hactive
    | none =>
        rw [hcase] at hid
        have hmem : id ∈ inFlight w.log := by simpa using hid
        rcases hkept hcase with hactive | hnone
        · rw [hactive]
          exact h.active id hmem
        · rw [hnone] at hmem
          cases hmem

theorem executionSent_eq_some {channel : JupyterChannel} {msg : JupyterMessage}
    {frames : List Bytes} {id : String}
    (h : executionSent (.out (.socket channel msg frames)) = some id) :
    channel = .shell ∧ msg.header.msgType = "execute_request" ∧ id = msg.msgId := by
  cases channel with
  | shell =>
      simp only [executionSent] at h
      split at h
      · rename_i htype
        cases h
        exact ⟨rfl, htype, rfl⟩
      · cases h
  | _ => cases h

theorem inFlight_idle {w : ProxyLoop} (h : w.Guarded) {message : JupyterMessage}
    (hidle : ∀ active, w.executionQueue.active = some active →
      idleAfter (.decoded message) = some active.msgId) :
    inFlight (w.log ++ [ProxyEvent.decoded message]) = [] := by
  rw [inFlight, outstanding_append, track]
  change (inFlight w.log).filter _ ++ [] = []
  rw [List.append_nil, List.filter_eq_nil_iff]
  intro id hid
  obtain ⟨active, hactive, rfl⟩ := h.active id hid
  simp [hidle active hactive]

theorem guarded_of_decoded {w t : ProxyLoop} (h : w.Guarded) {message : JupyterMessage}
    (hidle : JupyterMsg.ofMessage message = .status .idle →
      ∀ active, w.executionQueue.active = some active →
        idleAfter (.decoded message) = some active.msgId)
    (hlog : t.log = w.log ++ [ProxyEvent.decoded message])
    (hactive : t.executionQueue.active = w.executionQueue.active)
    (hpc : t.pc = afterDecode message) : t.Guarded := by
  refine ⟨?_, fun id hid => ?_, ?_⟩
  · rw [hlog]
    exact h.exclusive.append _ _ fun id hid => by cases hid
  · rw [hlog, inFlight, outstanding_append, track] at hid
    have hmem : id ∈ inFlight w.log := by
      rcases List.mem_append.mp hid with hold | hnew
      · exact (List.mem_filter.mp hold).1
      · cases hnew
    rw [hactive]
    exact h.active id hmem
  · rw [hpc]
    unfold afterDecode
    split
    · rename_i executionState hstatus
      cases executionState with
      | busy => trivial
      | idle =>
          change inFlight t.log = []
          rw [hlog]
          exact inFlight_idle h (hidle hstatus)
    · exact at_of_free t (free_afterQueue message)

theorem change_guarded {D : Codecs} {connection : KernelConnection} {w t : ProxyLoop}
    {a : Act} (h : w.Guarded) (hfaithful : w.Faithful D connection a)
    (hchange : Change D connection w t a) : t.Guarded := by
  have hhere := h.here
  obtain ⟨hidle, hclear, hread⟩ := hfaithful
  cases hchange with
  | received posted rest hpc hchannel hchannel' hqueue hpc' hlog =>
      apply guarded_of_same h hlog (by rw [hqueue])
      rw [hpc']
      have hexecutes := hread posted rest rfl hchannel
      unfold afterReceive
      split
      · exact hexecutes
      · exact hexecutes
      · exact hexecutes
      · rename_i hexecute hinterrupt hshutdown
        intro hshell
        obtain ⟨content, heq⟩ := hexecutes hshell
        exact absurd heq (hexecute content)
  | admitted host posted hpc hmsg hactive hqueue hchannel hpc' hlog =>
      have hnone := inFlight_of_none h hactive
      apply guarded_of_none h hlog hnone
      rw [hpc']
      exact fun _ => ⟨by rw [hlog, hnone], posted.msg, by rw [hqueue], rfl⟩
  | queued host posted active hpc hmsg hactive hqueue hchannel hpc' hlog =>
      apply guarded_of_quiet h hlog (by rw [hqueue])
      rw [hpc']
      trivial
  | cleared host posted hpc hmsg hqueue hchannel hpc' hlog =>
      have hnone := inFlight_of_none h (hclear host posted rfl hpc hmsg)
      apply guarded_of_none h hlog hnone
      rw [hpc']
      exact fun hshell => absurd hshell.2 (msgType_of_clears hmsg)
  | passed host posted hpc hmsg hqueue hchannel hpc' hlog =>
      apply guarded_of_same h hlog (by rw [hqueue])
      rw [hpc] at hhere
      rw [hpc']
      exact fun hshell => absurd (hhere hshell) hmsg.1
  | sent host accepted posted frames hpc hqueue hchannel hpc' hlog =>
      rw [hpc] at hhere
      refine guarded_of_sent h hlog (by rw [hpc']; trivial) (fun id hid => ?_) fun _ => ?_
      · obtain ⟨hshell, htype, rfl⟩ := executionSent_eq_some hid
        obtain ⟨hnone, hactive⟩ := hhere ⟨hshell, htype⟩
        exact ⟨hnone, rfl, hqueue ▸ hactive⟩
      · exact Or.inl (by rw [hqueue])
  | unsent host accepted posted hpc hqueue hchannel hpc' hlog =>
      exact guarded_of_same h hlog (by rw [hqueue]) (at_of_free t hpc')
  | decoded a message hpc hmessage hqueue hchannel hpc' hlog =>
      refine guarded_of_decoded h ?_ hlog (by rw [hqueue]) hpc'
      exact fun hstatus active hactive => hidle message active hmessage hstatus hactive
  | discarded a hpc hqueue hchannel hpc' hlog =>
      exact guarded_of_same h hlog (by rw [hqueue]) (at_of_free t hpc')
  | updated host message executionState hpc hqueue hchannel hpc' hlog =>
      rw [hpc] at hhere
      apply guarded_of_quiet h hlog (by rw [hqueue])
      rw [hpc']
      cases executionState with
      | busy => exact at_of_free t (free_afterQueue message)
      | idle =>
          obtain ⟨events, heq, hquiet⟩ := hlog
          change inFlight t.log = []
          rw [heq, inFlight_append_quiet hquiet]
          exact hhere
  | drained host accepted message hpc hpending hqueue hchannel hpc' hlog =>
      rw [hpc] at hhere
      exact guarded_of_none h hlog hhere (at_of_free t hpc')
  | released host accepted message request rest frames hpc hpending hqueue hchannel hpc'
      hlog =>
      rw [hpc] at hhere
      refine guarded_of_sent h hlog hpc' (fun id hid => ?_) fun _ => Or.inr hhere
      obtain ⟨-, -, rfl⟩ := executionSent_eq_some hid
      exact ⟨hhere, rfl, request, by rw [hqueue], rfl⟩
  | lost host accepted message request rest hpc hpending hqueue hchannel hpc' hlog =>
      rw [hpc] at hhere
      exact guarded_of_none h hlog hhere (at_of_free t hpc')
  | moved a hpc hqueue hchannel hpc' hlog =>
      exact guarded_of_quiet h hlog (by rw [hqueue]) (at_of_free t hpc')

end ProxyLoop

namespace Session

open Outstanding ProxyLoop

variable {D : Codecs} {connection : KernelConnection}

/-- The proxy's steps are faithful, and the kernel is not killed and does not
exit while a request is active. -/
def Faithful (D : Codecs) (connection : KernelConnection) (s : Session) : Act → Prop
  | .proxy a => s.loop.Faithful D connection a
  | .kill => s.executionQueue.active = none
  | .exit _ _ => s.loop.kernel.status = .exited ∨ s.executionQueue.active = none
  | _ => True

/-- `At` is about the log and the active slot. -/
theorem at_congr {w t : ProxyLoop} (hlog : t.log = w.log)
    (hactive : t.executionQueue.active = w.executionQueue.active) (pc : ProxyPc) :
    t.At pc ↔ w.At pc := by
  cases pc with
  | updating message executionState =>
      cases executionState <;> simp [At, hlog]
  | _ => simp [At, hlog, hactive]

theorem change_guarded {s t : Session} {a : Act} (h : s.loop.Guarded)
    (hfaithful : s.Faithful D connection a) (hchange : Change D connection s t a) :
    t.loop.Guarded := by
  cases hchange with
  | proxy a hloop => exact ProxyLoop.change_guarded h hfaithful hloop
  | posted a posted hposted hloop =>
      obtain ⟨hqueue, -, hpc, hlog⟩ := hloop
      have hactive : t.loop.executionQueue.active = s.loop.executionQueue.active := by
        rw [hqueue]
        rfl
      apply guarded_of_same h hlog hactive
      rw [hpc, at_congr hlog hactive]
      exact h.here
  | withdrawn msgId hcall hqueue hchannel hpc hlog =>
      have hactive : t.loop.executionQueue.active = s.loop.executionQueue.active := by
        change t.executionQueue.active = _
        rw [hqueue]
        rfl
      apply guarded_of_same h hlog hactive
      rw [hpc, at_congr hlog hactive]
      exact h.here
  | cleared a hact hqueue hchannel hpc hlog =>
      have hnone : s.loop.executionQueue.active = none := by
        rcases hact with rfl | ⟨hstatus, reason, host, rfl⟩
        · exact hfaithful
        · exact hfaithful.resolve_left hstatus
      have hactive : t.loop.executionQueue.active = s.loop.executionQueue.active := by
        change t.executionQueue.active = _
        rw [hqueue, hnone]
        rfl
      apply guarded_of_same h hlog hactive
      rw [hpc, at_congr hlog hactive]
      exact h.here
  | other a hloop =>
      obtain ⟨hqueue, -, hpc, hlog⟩ := hloop
      have hactive : t.loop.executionQueue.active = s.loop.executionQueue.active := by
        rw [hqueue]
      apply guarded_of_same h hlog hactive
      rw [hpc, at_congr hlog hactive]
      exact h.here

/-- In every run of faithful steps of a proxy, an execution request handed to the
shell socket finds every earlier one answered by an idle of its own. -/
theorem run_exclusive {s t : Session} {acts : List Act} (hpc : s.loop.pc = .listening)
    (hlog : s.loop.log = []) (hmeets : (machine D connection).Meets (Faithful D connection) s acts)
    (hrun : (machine D connection).run s acts = some t) :
    Exclusive executionSent idleAfter t.loop.log := by
  have hguarded : s.loop.Guarded := by
    refine ⟨?_, ?_, ?_⟩
    · rw [hlog]
      exact exclusive_nil _ _
    · rw [hlog]
      exact fun id hid => absurd hid (by simp [inFlight, outstanding])
    · rw [hpc]
      trivial
  refine ((machine D connection).run_invariant (I := fun u => u.loop.Guarded) ?_ hguarded
    hmeets hrun).exclusive
  intro u a v hu ha hstep
  exact change_guarded hu ha (step_change hstep)

/-! ## A kernel that goes idle -/

open WireMessage

/-- The header of a request the kernel answers. -/
def sampleParent (msgId msgType : String) : WireMessageHeader :=
  { sampleHeader with msgId, msgType }

def idleText : String := "\x7b\"execution_state\":\"idle\"\x7d"

def idleContent : Value := .object [("execution_state", .string "idle")]

/-- The library functions on the texts of an idle with the given parent. -/
def idleCodecs (parent : WireMessageHeader) : Codecs where
  hmacSha256 := sampleCodecs.hmacSha256
  jsonText := sampleCodecs.jsonText
  jsonFromStr text :=
    if text = sampleHeaderText then some sampleHeader.toValue
    else if text = parent.jsonText sampleCodecs then some parent.toValue
    else none
  jsonFromSlice bytes :=
    if bytes = asBytes idleText then some idleContent
    else sampleCodecs.jsonFromSlice bytes
  base64Encode := sampleCodecs.base64Encode
  base64Decode := sampleCodecs.base64Decode

def idleFrames (parent : WireMessageHeader) : List Bytes :=
  [msgDelim, [], asBytes sampleHeaderText, asBytes (parent.jsonText sampleCodecs),
    asBytes "\x7b\x7d", asBytes idleText]

def idleMessage (parent : WireMessageHeader) : JupyterMessage where
  header := sampleHeader.toJupyter
  parentHeader := some parent.toJupyter
  channel := .ioPub
  content := idleContent
  metadata := .object []
  buffers := []

def unsignedConnection : KernelConnection := sampleConnection.withKey ""

theorem idleFrames_toJupyter {parent : WireMessageHeader}
    (hparent : parent.jsonText sampleCodecs ≠ sampleHeaderText) :
    (fromZmq "s" .ioPub (idleFrames parent)).toJupyter (idleCodecs parent) .ioPub none =
      .ok (idleMessage parent) := by
  have hempty : asBytes "\x7b\x7d" ≠ asBytes idleText := by decide
  apply toJupyter_of_json
  · simp only [idleCodecs, if_true]
  · simp only [idleCodecs, hparent, if_true, if_false]
  · exact parent.length_jsonText sampleCodecs
  · simp only [idleCodecs, hempty, if_false, sampleCodecs_jsonFromSlice]
  · simp only [idleCodecs, if_true]

def sampleSession (mode : InterruptMode) : Session := init "s" "/" sampleHost mode []

/-- Two requests, the second of them queued behind the first. -/
def twoRequests : List Act :=
  [.post (ExecutionQueue.sampleRequest "r"), .post (ExecutionQueue.sampleRequest "q"),
    .proxy .receive, .proxy (.queue sampleHost), .proxy (.send sampleHost true),
    .proxy .receive, .proxy (.queue sampleHost)]

/-- An idle with the given parent, up to the release of the next request. -/
def oneIdle (parent : WireMessageHeader) : List Act :=
  [.proxy (.arrive .ioPub (idleFrames parent)), .proxy (.update sampleHost),
    .proxy (.dequeue sampleHost true)]

theorem decode_idleFrames {parent : WireMessageHeader}
    (hparent : parent.jsonText sampleCodecs ≠ sampleHeaderText) (w : ProxyLoop) :
    decode (idleCodecs parent) unsignedConnection w .ioPub (idleFrames parent) = { w with
      log := w.log ++ [ProxyEvent.decoded (idleMessage parent)]
      pc := .updating (idleMessage parent) .idle } := by
  have hkey : unsignedConnection.hmacKey = none := rfl
  have hsession : unsignedConnection.sessionId = "s" := rfl
  have hdecoded : (fromZmq unsignedConnection.sessionId .ioPub (idleFrames parent)).toJupyter
      (idleCodecs parent) .ioPub unsignedConnection.hmacKey = .ok (idleMessage parent) := by
    rw [hsession, hkey, idleFrames_toJupyter hparent]
  have hpc : afterDecode (idleMessage parent) = .updating (idleMessage parent) .idle := rfl
  rw [decode_of_ok hdecoded, hpc]

theorem run_twoRequests (D : Codecs) :
    ∃ t frames, (machine D unsignedConnection).run (sampleSession .signal) twoRequests = some t ∧
      t.loop.pc = .listening ∧ t.loop.pendingIopubMessages = [] ∧
      t.loop.kernel.status = .idle ∧
      t.loop.kernel.executionQueue = { active := some (ExecutionQueue.sampleRequest "r")
                                       pending := [ExecutionQueue.sampleRequest "q"] } ∧
      t.loop.log = [.out (.socket .shell (ExecutionQueue.sampleRequest "r") frames),
        .out (.websocket (.kernel (.executionQueued "q")))] :=
  ⟨_, _, rfl, rfl, rfl, rfl, rfl, rfl⟩

theorem run_oneIdle {parent : WireMessageHeader}
    (hparent : parent.jsonText sampleCodecs ≠ sampleHeaderText) {s : Session}
    (hpc : s.loop.pc = .listening) (hflushed : s.loop.pendingIopubMessages = [])
    (hstatus : s.loop.kernel.status = .idle) {active : Option JupyterMessage}
    (hqueue : s.loop.kernel.executionQueue =
      { active, pending := [ExecutionQueue.sampleRequest "q"] }) :
    ∃ t frames, (machine (idleCodecs parent) unsignedConnection).run s (oneIdle parent) =
        some t ∧
      t.loop.log = s.loop.log ++ [ProxyEvent.decoded (idleMessage parent),
        .out (.socket .shell (ExecutionQueue.sampleRequest "q") frames)] := by
  have hdecode := decode_idleFrames hparent
  let decoded : ProxyLoop := { s.loop with
    flushing := false
    log := s.loop.log ++ [ProxyEvent.decoded (idleMessage parent)]
    pc := .updating (idleMessage parent) .idle }
  have harrive : s.step (idleCodecs parent) unsignedConnection
      (.proxy (.arrive .ioPub (idleFrames parent))) = some { s with loop := decoded } := by
    simp [step, ProxyLoop.step, hpc, hflushed, hdecode, decoded]
  have hupdate : step (idleCodecs parent) unsignedConnection { s with loop := decoded }
      (.proxy (.update sampleHost)) = some { s with loop :=
        { decoded with pc := .dequeuing (idleMessage parent) } } := by
    simp [step, ProxyLoop.step, decoded, ZmqWsProxy.statusSection, KernelState.setStatus,
      hstatus, afterUpdate, emit]
  obtain ⟨frames, hsend⟩ : ∃ frames, ZmqWsProxy.sendTo (idleCodecs parent)
      unsignedConnection .shell (ExecutionQueue.sampleRequest "q") sampleHost true =
        .ok [.socket .shell (ExecutionQueue.sampleRequest "q") frames] := ⟨_, rfl⟩
  let released : KernelState := { s.loop.kernel with
    executionQueue := { active := some (ExecutionQueue.sampleRequest "q"), pending := [] }
    history := s.loop.kernel.history.begin (ExecutionQueue.sampleRequest "q")
      sampleHost.timestampMillis }
  let next : ProxyLoop := emit
    { decoded with kernel := released, pc := afterQueue (idleMessage parent) }
    [.socket .shell (ExecutionQueue.sampleRequest "q") frames]
  have hdequeue : step (idleCodecs parent) unsignedConnection { s with loop :=
      { decoded with pc := .dequeuing (idleMessage parent) } }
      (.proxy (.dequeue sampleHost true)) = some { s with loop := next } := by
    simp [step, ProxyLoop.step, decoded, released, next, ZmqWsProxy.dequeueSection, hqueue,
      ExecutionQueue.nextRequest, hsend]
  refine ⟨{ s with loop := next }, frames, ?_, ?_⟩
  · simp only [oneIdle, Machine.run, machine, harrive, hupdate, hdequeue, Option.bind_some]
  · simp [emit, decoded, next]

/-- A step that delivers nothing, clears nothing and takes nothing off the
channel is faithful. -/
theorem faithful_of_inert {w : ProxyLoop} {a : ProxyLoop.Act}
    (hdelivers : ∀ message, ¬ Delivers D connection w message a)
    (hqueue : ∀ host, a ≠ .queue host) (hreceive : a ≠ .receive) :
    w.Faithful D connection a :=
  ⟨fun message _ hmessage => absurd hmessage (hdelivers message),
    fun host _ heq => absurd heq (hqueue host), fun _ _ heq => absurd heq hreceive⟩

theorem executes_sampleRequest (msgId : String) :
    Executes (ExecutionQueue.sampleRequest msgId) := ⟨_, rfl⟩

theorem not_clears_sampleRequest (msgId : String) :
    ¬ Clears (ExecutionQueue.sampleRequest msgId) := by
  rintro (heq | heq)
  all_goals cases heq

theorem meets_twoRequests (D : Codecs) :
    (machine D unsignedConnection).Meets (Faithful D unsignedConnection)
      (sampleSession .signal) twoRequests := by
  have hreceive : ∀ (w : ProxyLoop) msgId poster rest,
      w.wsZmq = ⟨ExecutionQueue.sampleRequest msgId, poster⟩ :: rest →
      w.Faithful D unsignedConnection .receive := by
    intro w msgId poster rest hchannel
    refine ⟨fun _ _ hmessage => hmessage.elim, fun _ _ heq => (by cases heq), ?_⟩
    intro posted rest' _ heq _
    rw [hchannel] at heq
    cases heq
    exact executes_sampleRequest msgId
  have hqueue : ∀ (w : ProxyLoop) msgId poster,
      w.pc = .queueing ⟨ExecutionQueue.sampleRequest msgId, poster⟩ →
      w.Faithful D unsignedConnection (.queue sampleHost) := by
    intro w msgId poster hpc
    refine ⟨fun _ _ hmessage => hmessage.elim, ?_, fun _ _ heq => by cases heq⟩
    intro host posted _ heq hclears
    rw [hpc] at heq
    cases heq
    exact absurd hclears (not_clears_sampleRequest msgId)
  refine ⟨trivial, fun t ht => ?_⟩
  cases ht
  refine ⟨trivial, fun t ht => ?_⟩
  cases ht
  refine ⟨hreceive _ "r" .client _ rfl, fun t ht => ?_⟩
  cases ht
  refine ⟨hqueue _ "r" .client rfl, fun t ht => ?_⟩
  cases ht
  refine ⟨faithful_of_inert (fun _ => id) (by simp) (by simp), fun t ht => ?_⟩
  cases ht
  refine ⟨hreceive _ "q" .client _ rfl, fun t ht => ?_⟩
  cases ht
  exact ⟨hqueue _ "q" .client rfl, fun t ht => trivial⟩

/-- The second request is released by an idle that answers the first. -/
theorem run_exclusive_answered :
    ∃ t, (machine (idleCodecs (sampleParent "r" "execute_request")) unsignedConnection).run
        (sampleSession .signal) (twoRequests ++ oneIdle (sampleParent "r" "execute_request")) =
          some t ∧
      Exclusive executionSent idleAfter t.loop.log := by
  have hparent : (sampleParent "r" "execute_request").jsonText sampleCodecs ≠
      sampleHeaderText := by decide
  obtain ⟨s, frames, hfirst, hpc, hflushed, hstatus, hqueue, -⟩ :=
    run_twoRequests (idleCodecs (sampleParent "r" "execute_request"))
  obtain ⟨t, frames', hrest, -⟩ := run_oneIdle hparent hpc hflushed hstatus hqueue
  have hrun := (Machine.run_append_eq_some_iff _ _ _ _ _).mpr ⟨s, hfirst, hrest⟩
  refine ⟨t, hrun, run_exclusive rfl rfl ?_ hrun⟩
  apply Machine.meets_append _ hfirst (meets_twoRequests _)
  refine ⟨⟨?_, by simp, by simp⟩, fun u hu => ⟨?_, fun v hv => ⟨?_, fun _ _ => trivial⟩⟩⟩
  · intro message active hmessage _ hactive
    have hmessage' : message = idleMessage (sampleParent "r" "execute_request") :=
      Outcome.ok.inj (hmessage.symm.trans (idleFrames_toJupyter hparent))
    have hactive' : some (ExecutionQueue.sampleRequest "r") = some active := by
      rw [← hactive]
      change _ = s.loop.kernel.executionQueue.active
      rw [hqueue]
    cases hactive'
    rw [hmessage']
    rfl
  · exact faithful_of_inert (fun _ => id) (by simp) (by simp)
  · exact faithful_of_inert (fun _ => id) (by simp) (by simp)

/-- The second request is released by an idle that answers a completion request,
with the first one still running. -/
theorem not_exclusive_completion :
    ¬ ∀ (D : Codecs) (connection : KernelConnection) (mode : InterruptMode)
      (acts : List Act) (t : Session),
      (machine D connection).run (sampleSession mode) acts = some t →
        Exclusive executionSent idleAfter t.loop.log := by
  intro h
  obtain ⟨s, frames, hfirst, hpc, hflushed, hstatus, hqueue, hlog⟩ :=
    run_twoRequests (idleCodecs (sampleParent "c" "complete_request"))
  have hparent : (sampleParent "c" "complete_request").jsonText sampleCodecs ≠
      sampleHeaderText := by decide
  obtain ⟨t, frames', hrest, hlog'⟩ := run_oneIdle hparent hpc hflushed hstatus hqueue
  have hrun := (Machine.run_append_eq_some_iff _ _ _ _ _).mpr ⟨s, hfirst, hrest⟩
  have hexclusive := h _ _ _ _ t hrun
  rw [hlog', hlog] at hexclusive
  obtain ⟨close, hmem, hclose⟩ := hexclusive
    [.out (.socket .shell (ExecutionQueue.sampleRequest "r") frames),
      .out (.websocket (.kernel (.executionQueued "q"))),
      .decoded (idleMessage (sampleParent "c" "complete_request"))]
    (.out (.socket .shell (ExecutionQueue.sampleRequest "q") frames')) [] "q" rfl rfl
    [] (.out (.socket .shell (ExecutionQueue.sampleRequest "r") frames)) _ "r" rfl rfl
  simp only [List.mem_cons, List.not_mem_nil, or_false] at hmem
  rcases hmem with rfl | rfl
  · cases hclose
  · revert hclose
    decide

end Session

end Kallichore
