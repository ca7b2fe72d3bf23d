import Kallichore.Proxy.Answer

/-!
# What the proxy gives to its client

A message of the kernel goes to the client, and before that to the listener that is registered
for the request it answers, if there is one. `Showing` says which messages a step of the proxy
gives to whom, `inDelivery_step` where the messages in its hand come from.
-/

namespace Kallichore

/-- The message tells the client who asked for an execution. -/
def KernelMessage.isAnnouncement : KernelMessage → Bool
  | .executionRequested _ => true
  | _ => false

theorem KernelState.setStatus_not_announcement (state : KernelState) (status : Status)
    (reason : Option String) (host : Host) :
    ∀ update ∈ (state.setStatus status reason host).2, ∃ message,
      update = WebsocketMessage.kernel message ∧ message.isAnnouncement = false := by
  have hpoll : ∀ kernel : KernelState, ∀ update ∈ (kernel.pollWorkingDir host).2, ∃ message,
      update = WebsocketMessage.kernel message ∧ message.isAnnouncement = false := by
    intro kernel update hupdate
    unfold pollWorkingDir at hupdate
    split at hupdate
    · cases hupdate
    · split at hupdate
      · exact ⟨_, List.mem_singleton.mp hupdate, rfl⟩
      · cases hupdate
  intro update hupdate
  unfold setStatus at hupdate
  split at hupdate
  · cases hupdate
  · split at hupdate
    · cases hupdate
    · split at hupdate
      · rcases List.mem_append.mp hupdate with hold | hnew
        · exact ⟨_, List.mem_singleton.mp hold, rfl⟩
        · exact hpoll _ update hnew
      · exact ⟨_, List.mem_singleton.mp hupdate, rfl⟩

/-! ## What the kernel says of a request -/

/-- The message is about the request with this ID. -/
def JupyterMessage.isAbout (msgId : String) (message : JupyterMessage) : Bool :=
  message.parentHeader.any fun parent => parent.msgId == msgId

theorem JupyterMessage.isAbout_iff {msgId : String} {message : JupyterMessage} :
    message.isAbout msgId = true ↔
      ∃ parent, message.parentHeader = some parent ∧ parent.msgId = msgId := by
  simp [isAbout, Option.any_eq_true]

namespace ProxyLoop

variable {D : Codecs} {connection : KernelConnection} {w t : ProxyLoop}

/-- The message of the kernel that an event gives to the client. -/
def shownBy : ProxyEvent → Option JupyterMessage
  | .out (.websocket (.jupyter message)) => some message
  | _ => none

/-- The message of the kernel that an event gives to a listener. -/
def toldBy (listener : ℕ) : ProxyEvent → Option JupyterMessage
  | .out (.rpc l message) => if l = listener then some message else none
  | _ => none

/-- The message that is about to be given to the client. -/
def inPublishing : ProxyPc → List JupyterMessage
  | .publishing message => [message]
  | _ => []

/-- The messages of the kernel that the client was given or is about to be given. -/
def shown (w : ProxyLoop) : List JupyterMessage :=
  w.log.filterMap shownBy ++ inPublishing w.pc

/-- The messages of the kernel that a listener was given. -/
def told (w : ProxyLoop) (listener : ℕ) : List JupyterMessage :=
  w.log.filterMap (toldBy listener)

/-- The event tells the client who asked for an execution. -/
def IsAnnouncement : ProxyEvent → Prop
  | .out (.websocket (.kernel message)) => message.isAnnouncement = true
  | _ => False

/-- What a step of the proxy gives to its client and to the listeners. -/
inductive Showing (w t : ProxyLoop) : Prop
  /-- Nothing, or a message that is an answer to nothing. -/
  | quiet (new : List JupyterMessage) (hnew : ∀ message ∈ new, message.parentHeader = none)
      (hshown : t.shown = w.shown ++ new) (htold : ∀ listener, t.told listener = w.told listener)
  | recorded (message : JupyterMessage) (parent : JupyterMessageHeader)
      (hparent : message.parentHeader = some parent) (hpc : w.pc = .recording message)
      (hshown : t.shown = w.shown ++ [message])
      (htold : ∀ listener, t.told listener = w.told listener ++
        if w.kernel.rpcListeners.lookup parent.msgId = some listener then [message] else [])

/-- An event that gives no message of the kernel to anyone. -/
def Withholds (event : ProxyEvent) : Prop :=
  shownBy event = none ∧ ∀ listener, toldBy listener event = none

def Discreet (w : ProxyLoop) : Prop := ∀ event ∈ w.log, ¬ IsAnnouncement event

/-- A step that withholds what it does, from a place where nothing is about to be given to a
place where at most an answer to nothing is. -/
theorem Showing.of_withholds {E : List ProxyEvent} (hpc : inPublishing w.pc = [])
    (hpc' : ∀ message ∈ inPublishing t.pc, message.parentHeader = none)
    (hlog : t.log = w.log ++ E) (hevents : ∀ event ∈ E, Withholds event) :
    Showing w t := by
  refine .quiet (inPublishing t.pc) hpc' ?_ fun listener => ?_
  · have hnone : E.filterMap shownBy = [] :=
      List.filterMap_eq_nil_iff.mpr fun event hevent => (hevents event hevent).1
    rw [shown, shown, hlog, hpc, List.filterMap_append, hnone, List.append_nil]
  · have hnone : E.filterMap (toldBy listener) = [] :=
      List.filterMap_eq_nil_iff.mpr fun event hevent => (hevents event hevent).2 listener
    rw [told, told, hlog, List.filterMap_append, hnone, List.append_nil]

theorem parentHeader_of_mem_afterQueue {message held : JupyterMessage}
    (h : held ∈ inPublishing (afterQueue message)) : held.parentHeader = none := by
  unfold afterQueue at h
  split at h
  next => cases h
  next hparent =>
    obtain rfl := List.mem_singleton.mp h
    exact hparent

theorem parentHeader_of_mem_afterDecode {message held : JupyterMessage}
    (h : held ∈ inPublishing (afterDecode message)) : held.parentHeader = none := by
  unfold afterDecode at h
  split at h
  next => cases h
  next => exact parentHeader_of_mem_afterQueue h

theorem parentHeader_of_mem_afterUpdate {message held : JupyterMessage}
    {executionState : ExecutionState}
    (h : held ∈ inPublishing (afterUpdate message executionState)) :
    held.parentHeader = none := by
  cases executionState with
  | busy => exact parentHeader_of_mem_afterQueue h
  | idle => cases h

theorem inPublishing_afterReceive (posted : Posted) : inPublishing (afterReceive posted) = [] := by
  rcases afterReceive_eq posted with heq | heq
  · rw [heq]
    rfl
  · rw [heq]
    rfl

theorem inPublishing_fail (w : ProxyLoop) : inPublishing w.fail.pc = [] := by
  simp only [fail]
  split
  · rfl
  · rfl

theorem withholds_queueSection {kernel state : KernelState} {msg : JupyterMessage} {host : Host}
    {outputs : List Output} {goesOn : Bool}
    (h : ZmqWsProxy.queueSection kernel msg host = (state, outputs, goesOn)) :
    ∀ event ∈ outputs.map ProxyEvent.out, Withholds event := by
  have hkernel : ∀ event ∈ [Output.websocket (.kernel (.executionQueued msg.msgId))].map
      ProxyEvent.out, Withholds event := by
    intro event hevent
    obtain rfl := List.mem_singleton.mp hevent
    exact ⟨rfl, fun listener => rfl⟩
  have hnil : ∀ event ∈ ([] : List Output).map ProxyEvent.out, Withholds event := by
    intro event hevent
    cases hevent
  unfold ZmqWsProxy.queueSection at h
  split at h
  · split at h
    · cases h
      exact hkernel
    · cases h
      exact hnil
  · cases h
    exact hnil
  · cases h
    exact hnil
  · cases h
    exact hnil

theorem withholds_socket {channel : JupyterChannel} {msg : JupyterMessage}
    {frames : List Bytes} : Withholds (.out (.socket channel msg frames)) :=
  ⟨rfl, fun _ => rfl⟩

theorem withholds_sendSection {msg : JupyterMessage} {host : Host} {sent : Bool}
    {outputs : List Output} (h : ZmqWsProxy.sendSection D connection msg host sent = .ok outputs) :
    ∀ event ∈ outputs.map ProxyEvent.out, Withholds event := by
  intro event hevent
  rcases ZmqWsProxy.sendSection_eq_ok h with rfl | ⟨frames, rfl⟩
  · cases hevent
  · obtain rfl := List.mem_singleton.mp hevent
    exact withholds_socket

theorem withholds_dequeueSection {kernel state : KernelState} {host : Host} {sent : Bool}
    {outputs : List Output}
    (h : ZmqWsProxy.dequeueSection D connection kernel host sent = (state, .ok outputs)) :
    ∀ event ∈ outputs.map ProxyEvent.out, Withholds event := by
  intro event hevent
  unfold ZmqWsProxy.dequeueSection at h
  split at h
  next queue request hnext =>
    obtain ⟨frames, rfl⟩ := ZmqWsProxy.sendTo_eq_ok (congrArg Prod.snd h)
    obtain rfl := List.mem_singleton.mp hevent
    exact withholds_socket
  next =>
    cases h
    cases hevent

theorem withholds_statusSection (kernel : KernelState) (message : JupyterMessage)
    (executionState : ExecutionState) (host : Host) :
    ∀ event ∈ (ZmqWsProxy.statusSection kernel message executionState host).2.map ProxyEvent.out,
      Withholds event := by
  intro event hevent
  simp only [ZmqWsProxy.statusSection, List.map_map, List.mem_map, Function.comp_apply] at hevent
  obtain ⟨update, hupdate, rfl⟩ := hevent
  obtain ⟨message, rfl⟩ := KernelState.setStatus_updates _ _ _ _ update hupdate
  exact ⟨rfl, fun _ => rfl⟩

/-- What the proxy decodes is not given to anyone yet, unless it is an answer to nothing. -/
theorem showing_decode {v : ProxyLoop} {channel : JupyterChannel} {frames : List Bytes}
    (hpc : v.pc = .listening) (hlog : v.log = w.log) (hw : w.pc = .listening) :
    Showing w (decode D connection v channel frames) := by
  have hnone : inPublishing w.pc = [] := by
    rw [hw]
    rfl
  unfold decode
  simp only
  split
  next message hdecoded =>
    refine .of_withholds (E := [.decoded message]) hnone
      (fun held hheld => parentHeader_of_mem_afterDecode hheld) (by rw [hlog]) ?_
    intro event hevent
    obtain rfl := List.mem_singleton.mp hevent
    exact ⟨rfl, fun _ => rfl⟩
  next =>
    refine .of_withholds (E := []) hnone ?_ (by rw [hlog, List.append_nil]) ?_
    · intro held hheld
      rw [hpc] at hheld
      cases hheld
    · intro event hevent
      cases hevent
  next =>
    refine .of_withholds (E := []) hnone ?_ (by rw [hlog, List.append_nil]) ?_
    · intro held hheld
      cases hheld
    · intro event hevent
      cases hevent

theorem step_showing {a : Act} (h : w.step D connection a = some t) : Showing w t := by
  have hnone : ∀ {pc : ProxyPc}, inPublishing pc = [] →
      ∀ message ∈ inPublishing pc, message.parentHeader = none := by
    intro pc hpc message hmessage
    rw [hpc] at hmessage
    cases hmessage
  have hnothing : ∀ event ∈ ([] : List ProxyEvent), Withholds event := by
    intro event hevent
    cases hevent
  cases step_took h with
  | @receive posted rest hpc =>
      exact .of_withholds (by rw [hpc]; rfl) (hnone (inPublishing_afterReceive posted))
        (List.append_nil w.log).symm hnothing
  | passOn hpc hsection | hold hpc hsection =>
      exact .of_withholds (by rw [hpc]; rfl) (hnone rfl) rfl (withholds_queueSection hsection)
  | send hpc hsection =>
      exact .of_withholds (by rw [hpc]; rfl) (hnone rfl) rfl (withholds_sendSection hsection)
  | sendFails hpc =>
      exact .of_withholds (by rw [hpc]; rfl) (hnone (inPublishing_fail w))
        (List.append_nil w.log).symm hnothing
  | arrive hpc => exact showing_decode hpc rfl hpc
  | flush hpc => exact showing_decode hpc rfl hpc
  | @update host message executionState hpc =>
      exact .of_withholds (by rw [hpc]; rfl)
        (fun held hheld => parentHeader_of_mem_afterUpdate hheld) rfl
        (withholds_statusSection w.kernel message executionState host)
  | dequeue hpc hsection =>
      exact .of_withholds (by rw [hpc]; rfl)
        (fun held hheld => parentHeader_of_mem_afterQueue hheld) rfl
        (withholds_dequeueSection hsection)
  | @dequeueFails _ _ _ kernel _ hpc hsection =>
      exact .of_withholds (by rw [hpc]; rfl) (hnone (inPublishing_fail { w with kernel }))
        (List.append_nil w.log).symm hnothing
  | @record message hpc =>
      have hshown : w.shown = w.log.filterMap shownBy := by
        rw [shown, hpc]
        exact List.append_nil _
      cases hparent : message.parentHeader with
      | none =>
          refine .quiet [message] ?_ ?_ fun listener => ?_
          · intro held hheld
            obtain rfl := List.mem_singleton.mp hheld
            exact hparent
          · rw [hshown]
            simp [shown, emit, ZmqWsProxy.recordSection, hparent, inPublishing]
          · simp [told, emit, ZmqWsProxy.recordSection, hparent]
      | some parent =>
          refine .recorded message parent hparent hpc ?_ fun listener => ?_
          · have hrpc : (((w.kernel.rpcListeners.lookup parent.msgId).toList.map fun l =>
                Output.rpc l message).map ProxyEvent.out).filterMap shownBy = [] := by
              cases w.kernel.rpcListeners.lookup parent.msgId with
              | none => rfl
              | some l => rfl
            simp only [shown, hpc, emit, ZmqWsProxy.recordSection, hparent, List.filterMap_append,
              hrpc, List.append_nil, inPublishing]
          · have hrpc : (((w.kernel.rpcListeners.lookup parent.msgId).toList.map fun l =>
                Output.rpc l message).map ProxyEvent.out).filterMap (toldBy listener) =
                if w.kernel.rpcListeners.lookup parent.msgId = some listener then [message]
                else [] := by
              cases w.kernel.rpcListeners.lookup parent.msgId with
              | none => rfl
              | some l =>
                  by_cases hl : l = listener
                  · subst hl
                    simp [toldBy]
                  · simp [toldBy, hl]
            simp only [told, emit, ZmqWsProxy.recordSection, hparent, List.filterMap_append, hrpc]
  | @publish message hpc =>
      refine .quiet [] (fun held => List.not_mem_nil.elim) ?_ fun listener => ?_
      · simp [shown, hpc, emit, ZmqWsProxy.publishSection, inPublishing, shownBy]
      · simp [told, emit, ZmqWsProxy.publishSection, toldBy]
  | stop hpc =>
      exact .of_withholds (by rw [hpc]; rfl) (hnone rfl) (List.append_nil w.log).symm hnothing

theorem discreet_of_append {events : List ProxyEvent} (hw : w.Discreet)
    (hlog : t.log = w.log ++ events) (hevents : ∀ event ∈ events, ¬ IsAnnouncement event) :
    t.Discreet := by
  intro event hevent
  rw [hlog] at hevent
  exact (List.mem_append.mp hevent).elim (hw event) (hevents event)

theorem discreet_decode {v : ProxyLoop} {channel : JupyterChannel} {frames : List Bytes}
    (hv : v.Discreet) : (decode D connection v channel frames).Discreet := by
  unfold decode
  simp only
  split
  next message =>
    refine discreet_of_append hv rfl fun event hevent => ?_
    obtain rfl := List.mem_singleton.mp hevent
    exact id
  next => exact hv
  next => exact hv

theorem not_isAnnouncement_queueSection {kernel state : KernelState} {msg : JupyterMessage}
    {host : Host} {outputs : List Output} {goesOn : Bool}
    (h : ZmqWsProxy.queueSection kernel msg host = (state, outputs, goesOn)) :
    ∀ event ∈ outputs.map ProxyEvent.out, ¬ IsAnnouncement event := by
  have hnil : ∀ event ∈ ([] : List Output).map ProxyEvent.out, ¬ IsAnnouncement event := by
    intro event hevent
    cases hevent
  unfold ZmqWsProxy.queueSection at h
  split at h
  · split at h
    · cases h
      intro event hevent
      obtain rfl := List.mem_singleton.mp hevent
      exact Bool.false_ne_true
    · cases h
      exact hnil
  · cases h
    exact hnil
  · cases h
    exact hnil
  · cases h
    exact hnil

theorem discreet_step {a : Act} (hw : w.Discreet) (h : w.step D connection a = some t) :
    t.Discreet := by
  cases step_took h with
  | receive | sendFails | dequeueFails | stop => exact hw
  | passOn hpc hsection | hold hpc hsection =>
      exact discreet_of_append hw rfl (not_isAnnouncement_queueSection hsection)
  | send hpc hsection =>
      refine discreet_of_append hw rfl fun event hevent => ?_
      rcases ZmqWsProxy.sendSection_eq_ok hsection with rfl | ⟨frames, rfl⟩
      · cases hevent
      · obtain rfl := List.mem_singleton.mp hevent
        exact id
  | arrive => exact discreet_decode hw
  | flush => exact discreet_decode hw
  | update hpc =>
      refine discreet_of_append hw rfl fun event hevent => ?_
      simp only [ZmqWsProxy.statusSection, List.map_map, List.mem_map,
        Function.comp_apply] at hevent
      obtain ⟨update, hupdate, rfl⟩ := hevent
      obtain ⟨message, rfl, hmessage⟩ :=
        KernelState.setStatus_not_announcement _ _ _ _ update hupdate
      exact Bool.eq_false_iff.mp hmessage
  | @dequeue host sent message kernel outputs hpc hsection =>
      refine discreet_of_append hw rfl fun event hevent => ?_
      unfold ZmqWsProxy.dequeueSection at hsection
      split at hsection
      next queue request hnext =>
        obtain ⟨frames, rfl⟩ := ZmqWsProxy.sendTo_eq_ok (congrArg Prod.snd hsection)
        obtain rfl := List.mem_singleton.mp hevent
        exact id
      next =>
        cases hsection
        cases hevent
  | @record message hpc =>
      refine discreet_of_append hw rfl fun event hevent => ?_
      obtain ⟨output, houtput, rfl⟩ := List.mem_map.mp hevent
      unfold ZmqWsProxy.recordSection at houtput
      split at houtput
      · cases houtput
      · obtain ⟨listener, -, rfl⟩ := List.mem_map.mp houtput
        exact id
  | publish hpc =>
      refine discreet_of_append hw rfl fun event hevent => ?_
      obtain rfl := List.mem_singleton.mp hevent
      exact id

theorem isPrefix_log {a : Act} (h : w.step D connection a = some t) : w.log <+: t.log := by
  have hdecode : ∀ {v : ProxyLoop} {channel : JupyterChannel} {frames : List Bytes},
      v.log = w.log → w.log <+: (decode D connection v channel frames).log := by
    intro v channel frames hlog
    unfold decode
    simp only
    split
    next => exact ⟨_, by rw [hlog]⟩
    next => exact ⟨[], by rw [hlog, List.append_nil]⟩
    next => exact ⟨[], by rw [hlog, List.append_nil]⟩
  cases step_took h with
  | receive | sendFails | dequeueFails | stop => exact List.prefix_refl _
  | passOn | hold | send | update | dequeue | record | publish => exact ⟨_, rfl⟩
  | arrive => exact hdecode rfl
  | flush => exact hdecode rfl

theorem eq_of_inDelivery_afterQueue {message held : JupyterMessage}
    (h : inDelivery (afterQueue message) = some held) : message = held := by
  unfold afterQueue at h
  split at h
  next => exact Option.some.inj h
  next => cases h

theorem eq_of_inDelivery_afterDecode {message held : JupyterMessage}
    (h : inDelivery (afterDecode message) = some held) : message = held := by
  unfold afterDecode at h
  split at h
  next => exact Option.some.inj h
  next => exact eq_of_inDelivery_afterQueue h

theorem eq_of_inDelivery_afterUpdate {message held : JupyterMessage}
    {executionState : ExecutionState}
    (h : inDelivery (afterUpdate message executionState) = some held) : message = held := by
  cases executionState with
  | busy => exact eq_of_inDelivery_afterQueue h
  | idle => exact Option.some.inj h

theorem inDelivery_decode {v : ProxyLoop} {channel : JupyterChannel} {frames : List Bytes}
    {held : JupyterMessage} (hpc : v.pc = .listening)
    (h : inDelivery (decode D connection v channel frames).pc = some held) :
    (WireMessage.fromZmq connection.sessionId channel frames).toJupyter D channel
      connection.hmacKey = .ok held := by
  unfold decode at h
  simp only at h
  split at h
  next message hdecoded =>
    rw [eq_of_inDelivery_afterDecode h] at hdecoded
    exact hdecoded
  next =>
    rw [hpc] at h
    cases h
  next => cases h

/-- A message of the kernel that is in hand was so before, or it has just arrived. -/
theorem inDelivery_step {a : Act} {held : JupyterMessage} (h : w.step D connection a = some t)
    (hheld : inDelivery t.pc = some held) :
    inDelivery w.pc = some held ∨ Delivers D connection w held a := by
  cases step_took h with
  | @receive posted =>
      have hnone : inDelivery (afterReceive posted) = some held := hheld
      rcases afterReceive_eq posted with heq | heq
      · rw [heq] at hnone
        cases hnone
      · rw [heq] at hnone
        cases hnone
  | passOn | hold | send | publish | stop => cases hheld
  | record => cases hheld
  | sendFails | dequeueFails =>
      simp only [fail] at hheld
      split at hheld
      · cases hheld
      · cases hheld
  | arrive hpc => exact Or.inr (inDelivery_decode (v := { w with flushing := false }) hpc hheld)
  | @flush frames rest hpc hpending =>
      exact Or.inr ⟨frames, rest, hpending, inDelivery_decode
        (v := { w with pendingIopubMessages := rest, flushing := true }) hpc hheld⟩
  | update hpc =>
      rw [hpc, ← eq_of_inDelivery_afterUpdate hheld]
      exact Or.inl rfl
  | dequeue hpc =>
      rw [hpc, ← eq_of_inDelivery_afterQueue hheld]
      exact Or.inl rfl

theorem filter_isAbout_eq_nil {msgId : String} {new : List JupyterMessage}
    (h : ∀ message ∈ new, message.parentHeader = none) :
    new.filter (JupyterMessage.isAbout msgId) = [] := by
  rw [List.filter_eq_nil_iff]
  intro message hmessage
  simp [JupyterMessage.isAbout, h message hmessage]

end ProxyLoop

end Kallichore
