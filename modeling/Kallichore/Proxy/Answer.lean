import Kallichore.Proxy.Request
import Kallichore.Session.Abandon

/-!
# The answers to a request

A call of `execute_collect` returns once it has both the reply to its request and
the idle status that follows it. Either comes as a message of the kernel with the
request as its parent, and reaches the call through the listener that is
registered for the request when the proxy records the message. A message that the
proxy has decoded is on its way there, unless the section that releases the next
request fails before.
-/

namespace Kallichore

/-- What a call of `execute_collect` waits for. -/
inductive Answer
  | reply
  | idle
  deriving DecidableEq, Repr

/-- The message is this answer to the request with the given ID. -/
def Answer.Of (answer : Answer) (msgId : String) (message : JupyterMessage) : Prop :=
  (∃ parent, message.parentHeader = some parent ∧ parent.msgId = msgId) ∧
    match answer with
    | .reply => message.header.msgType = "execute_reply"
    | .idle => JupyterMsg.ofMessage message = .status .idle

namespace ProxyLoop

variable {D : Codecs} {connection : KernelConnection}

/-- The message of the kernel that has yet to reach its listener. -/
def inDelivery : ProxyPc → Option JupyterMessage
  | .updating message _ | .dequeuing message | .recording message => some message
  | _ => none

theorem inDelivery_afterQueue {message : JupyterMessage} {answer : Answer} {msgId : String}
    (h : answer.Of msgId message) : inDelivery (afterQueue message) = some message := by
  obtain ⟨⟨parent, hparent, -⟩, -⟩ := h
  simp [afterQueue, hparent, inDelivery]

theorem inDelivery_afterDecode {message : JupyterMessage} {answer : Answer} {msgId : String}
    (h : answer.Of msgId message) : inDelivery (afterDecode message) = some message := by
  unfold afterDecode
  split
  · rfl
  · exact inDelivery_afterQueue h

theorem inDelivery_afterUpdate {message : JupyterMessage} {answer : Answer} {msgId : String}
    (h : answer.Of msgId message) (executionState : ExecutionState) :
    inDelivery (afterUpdate message executionState) = some message := by
  cases executionState with
  | busy => exact inDelivery_afterQueue h
  | idle => rfl

/-- The next request, if there is one, can be sent. -/
def Releases (D : Codecs) (connection : KernelConnection) (w : ProxyLoop) (host : Host)
    (accepted : Bool) : Prop :=
  ∀ request rest, w.executionQueue.pending = request :: rest →
    accepted = true ∧ ¬ ZmqWsProxy.Rejected D connection host request

theorem sendTo_of_not_rejected {msg : JupyterMessage} {host : Host}
    (h : ¬ ZmqWsProxy.Rejected D connection host msg) (channel : JupyterChannel) :
    ∃ frames, ZmqWsProxy.sendTo D connection channel msg host true =
      .ok [.socket channel msg frames] := by
  cases hwire : WireMessage.fromJupyter D host.date host.parentDate msg connection with
  | error e => exact absurd ⟨e, hwire⟩ h
  | ok wire => exact ⟨wire.toZmq, ZmqWsProxy.sendTo_of_accepted hwire channel true⟩

theorem step_dequeue {w t : ProxyLoop} {host : Host} {accepted : Bool}
    {message : JupyterMessage} (h : w.step D connection (.dequeue host accepted) = some t)
    (hpc : w.pc = .dequeuing message) (hreleases : Releases D connection w host accepted) :
    t.pc = afterQueue message ∧
      (w.executionQueue.pending = [] ∧ t.log = w.log ∨
        ∃ request rest frames, w.executionQueue.pending = request :: rest ∧
          t.log = w.log ++ [ProxyEvent.out (.socket .shell request frames)]) := by
  simp only [step, hpc] at h
  cases hpending : w.kernel.executionQueue.pending with
  | nil =>
      simp only [ZmqWsProxy.dequeueSection, ExecutionQueue.nextRequest_of_nil hpending] at h
      cases h
      exact ⟨rfl, Or.inl ⟨hpending, by simp [emit]⟩⟩
  | cons request rest =>
      obtain ⟨rfl, haccepted⟩ := hreleases request rest hpending
      obtain ⟨frames, hsend⟩ := sendTo_of_not_rejected haccepted .shell
      simp only [ZmqWsProxy.dequeueSection, ExecutionQueue.nextRequest_of_cons hpending,
        hsend] at h
      cases h
      exact ⟨rfl, Or.inr ⟨request, rest, frames, hpending, rfl⟩⟩

/-- The events of a step carry an answer on: one that the proxy had in hand stays
there until its listener has it, and one that arrives is in hand. -/
structure Carries (w t : ProxyLoop) (answer : Answer) (msgId : String) (listener : ℕ)
    (events : List ProxyEvent) : Prop where
  log : t.log = w.log ++ events
  kept : ∀ message, answer.Of msgId message → inDelivery w.pc = some message →
    inDelivery t.pc = some message ∨ .out (.rpc listener message) ∈ events
  found : ∀ message, answer.Of msgId message → .decoded message ∈ events →
    inDelivery t.pc = some message

theorem carries_of_none {w t : ProxyLoop} {answer : Answer} {msgId : String} {listener : ℕ}
    (hnone : inDelivery w.pc = none) (outputs : List Output)
    (hlog : t.log = w.log ++ outputs.map .out) :
    ∃ events, Carries w t answer msgId listener events := by
  refine ⟨outputs.map .out, hlog, ?_, ?_⟩
  · intro message _ hmessage
    rw [hnone] at hmessage
    cases hmessage
  · intro message _ hdecoded
    simp at hdecoded

theorem carries_of_some {w t : ProxyLoop} {answer : Answer} {msgId : String} {listener : ℕ}
    (message : JupyterMessage) (hw : inDelivery w.pc = some message)
    (ht : answer.Of msgId message → inDelivery t.pc = some message) (outputs : List Output)
    (hlog : t.log = w.log ++ outputs.map .out) :
    ∃ events, Carries w t answer msgId listener events := by
  refine ⟨outputs.map .out, hlog, ?_, ?_⟩
  · intro message' hof hmessage
    obtain rfl : message = message' := Option.some.inj (hw.symm.trans hmessage)
    exact Or.inl (ht hof)
  · intro message' _ hdecoded
    simp at hdecoded

theorem carries_decode {w u : ProxyLoop} {answer : Answer} {msgId : String} {listener : ℕ}
    {channel : JupyterChannel} {frames : List Bytes} (hpc : w.pc = .listening)
    (hlog : u.log = w.log) :
    ∃ events, Carries w (decode D connection u channel frames) answer msgId listener
      events := by
  have hnone : inDelivery w.pc = none := by rw [hpc]; rfl
  cases hdecoded : (WireMessage.fromZmq connection.sessionId channel frames).toJupyter D
      channel connection.hmacKey with
  | ok message =>
      rw [decode_of_ok hdecoded]
      refine ⟨[.decoded message], by simp [hlog], ?_, ?_⟩
      · intro message' _ hmessage
        rw [hnone] at hmessage
        cases hmessage
      · intro message' hof hmem
        obtain rfl : message' = message := by simpa using hmem
        exact inDelivery_afterDecode hof
  | err e | panic => exact carries_of_none hnone [] (by simp [decode, hdecoded, hlog])

theorem step_carries {w t : ProxyLoop} {a : Act} (h : w.step D connection a = some t)
    {answer : Answer} {msgId : String} {listener : ℕ}
    (hlistener : w.kernel.rpcListeners.lookup msgId = some listener)
    (hreleases : ∀ host accepted message, a = .dequeue host accepted →
      w.pc = .dequeuing message → answer.Of msgId message →
      Releases D connection w host accepted) :
    ∃ events, Carries w t answer msgId listener events := by
  cases step_took h with
  | receive hpc hpending hchannel => exact carries_of_none (by rw [hpc]; rfl) [] (by simp)
  | passOn hpc hsection => exact carries_of_none (by rw [hpc]; rfl) _ rfl
  | hold hpc hsection => exact carries_of_none (by rw [hpc]; rfl) _ rfl
  | send hpc hsection => exact carries_of_none (by rw [hpc]; rfl) _ rfl
  | sendFails hpc hsection => exact carries_of_none (by rw [hpc]; rfl) [] (by simp [fail])
  | arrive hpc hpending => exact carries_decode hpc rfl
  | flush hpc hpending => exact carries_decode hpc rfl
  | @update host message executionState hpc =>
      exact carries_of_some message (by rw [hpc]; rfl)
        (fun hof => inDelivery_afterUpdate hof executionState) _ rfl
  | @dequeue host accepted message kernel outputs hpc hsection =>
      exact carries_of_some message (by rw [hpc]; rfl) inDelivery_afterQueue outputs rfl
  | @dequeueFails host accepted message kernel e hpc hsection =>
      -- It does not fail with an answer in hand.
      refine carries_of_some message (by rw [hpc]; rfl) (fun hof => ?_) [] (by simp [fail])
      rw [(step_dequeue h hpc (hreleases host accepted message rfl hpc hof)).1]
      exact inDelivery_afterQueue hof
  | @record message hpc =>
      refine ⟨(ZmqWsProxy.recordSection w.kernel message).2.map .out, rfl, ?_, ?_⟩
      · intro message' hof hmessage
        have hsome : inDelivery w.pc = some message := by rw [hpc]; rfl
        obtain rfl : message = message' := Option.some.inj (hsome.symm.trans hmessage)
        obtain ⟨⟨parent, hparent, rfl⟩, -⟩ := hof
        refine Or.inr (List.mem_map.mpr ⟨.rpc listener message, ?_, rfl⟩)
        simp [ZmqWsProxy.recordSection, hparent, hlistener]
      · intro message' _ hdecoded
        simp at hdecoded
  | publish hpc => exact carries_of_none (by rw [hpc]; rfl) _ rfl
  | stop hpc hpending => exact carries_of_none (by rw [hpc]; rfl) [] (by simp)

/-! ## The requests on their way to the kernel -/

theorem inHand_eq_some_iff {pc : ProxyPc} {posted : Posted} :
    Session.inHand pc = some posted ↔ pc = .queueing posted ∨ pc = .sending posted := by
  cases pc <;> simp [Session.inHand]

/-- An execution request in the proxy's hand stays there, is queued, or is sent. -/
theorem step_inHand {w t : ProxyLoop} {a : Act} (h : w.step D connection a = some t)
    {posted : Posted} (hheld : Session.inHand w.pc = some posted) (hmsg : Executes posted.msg)
    (hshell : posted.msg.channel = .shell)
    (hsend : ∀ host accepted, a = .send host accepted →
      accepted = true ∧ ¬ ZmqWsProxy.Rejected D connection host posted.msg) :
    Session.inHand t.pc = some posted ∨ posted.msg ∈ t.executionQueue.pending ∨
      ∃ host accepted frames, a = .send host accepted ∧ w.pc = .sending posted ∧
        t.log = w.log ++ [ProxyEvent.out (.socket .shell posted.msg frames)] := by
  rcases inHand_eq_some_iff.mp hheld with hpc | hpc
  · cases a with
    | queue host =>
        have hsame : ∀ posted', w.pc = .queueing posted' → posted' = posted := by
          intro posted' hpc'
          rw [hpc] at hpc'
          exact (ProxyPc.queueing.inj hpc').symm
        cases change_queue hpc h with
        | admitted host posted' hpc₀ hmsg' hactive hqueue hchannel hpc' hlog =>
            rw [hpc', hsame posted' hpc₀]
            exact Or.inl rfl
        | queued host posted' active hpc₀ hmsg' hactive hqueue hchannel hpc' hlog =>
            rw [hqueue, hsame posted' hpc₀]
            exact Or.inr (Or.inl (List.mem_append_right _ (List.mem_singleton_self _)))
        | cleared host posted' hpc₀ hmsg' hqueue hchannel hpc' hlog =>
            rw [hsame posted' hpc₀] at hmsg'
            exact absurd hmsg' hmsg.not_clears
        | passed host posted' hpc₀ hmsg' hqueue hchannel hpc' hlog =>
            rw [hsame posted' hpc₀] at hmsg'
            exact absurd hmsg hmsg'.1
        | decoded a message hpc₀ hmessage hqueue hchannel hpc' hlog => exact hmessage.elim
        | discarded a hpc₀ hqueue hchannel hpc' hlog =>
            rw [hpc] at hpc₀
            cases hpc₀
        | moved a hfree hqueue hchannel hpc' hlog =>
            rw [hpc] at hfree
            exact hfree.elim
    | _ =>
        simp only [step, hpc] at h
        cases h
  · cases a with
    | send host accepted =>
        obtain ⟨rfl, haccepted⟩ := hsend host accepted rfl
        obtain ⟨frames, hframes⟩ := sendTo_of_not_rejected haccepted .shell
        simp only [step, hpc, ZmqWsProxy.sendSection, hshell, hframes] at h
        cases h
        exact Or.inr (Or.inr ⟨host, true, frames, rfl, hpc, rfl⟩)
    | _ =>
        simp only [step, hpc] at h
        cases h

/-- The request of a call is an execution request for the shell, and it can always be
encoded. -/
theorem executes_collectRequest (msgId : String) (options : ExecuteOptions) :
    Executes (collectRequest msgId options) := ⟨_, rfl⟩

theorem not_rejected_collectRequest (host : Host) (msgId : String) (options : ExecuteOptions) :
    ¬ ZmqWsProxy.Rejected D connection host (collectRequest msgId options) := by
  rintro ⟨e, he⟩
  cases he

end ProxyLoop

end Kallichore
