import Kallichore.Proxy.Showing
import Kallichore.Session.Collect

/-!
# An execution as its client sees it

A call of `execute_collect` runs code that the client of the session did not send. The client
is told by an `ExecutionRequested` event, which the call puts on the channel to the client
before it posts its request, and it is given everything the kernel says about the request, as
the call is. Here the channel to the client is part of the state: what the proxy puts on it,
what the calls announce, and what other tasks tell the client about the kernel. It keeps all
that was put on it, for a client that reads it: `consume_output_streams`, with which a failed
start takes messages off the channel before any client has them, is no step here.

`announced_first` says that the client knows whose execution it is before it hears of it, and
`collected_of_shown` that the reply of the call is made of what the client was given.
-/

namespace Kallichore

def ExecutionAttribution.toValue (attribution : ExecutionAttribution) : Value :=
  .object [("agent_name", (attribution.agentName.map Value.string).getD .null),
    ("agent_version", (attribution.agentVersion.map Value.string).getD .null),
    ("source", .string attribution.source), ("tool", .string attribution.tool),
    ("workspace_id", .string attribution.workspaceId)]

/-- A session with the channel to its client. -/
structure ClientView where
  session : Session
  /-- What was put on the channel to the client. -/
  wsJson : List WebsocketMessage
  /-- The code that a call has yet to announce, and who asked for it. -/
  announcing : String → Option (String × ExecutionAttribution)

namespace ClientView

inductive Act
  | register (msgId : String) (options : ExecuteOptions)
      (attribution : Option ExecutionAttribution) (listener : ℕ)
  /-- `announce_execution`. -/
  | announce (msgId : String) (requestedAt : Int)
  /-- Any other step of the session. -/
  | session (a : Session.Act)
  /-- Another task tells the client about the kernel. -/
  | tell (message : KernelMessage)

/-- What the proxy puts on the channel to the client. -/
def toClient : ProxyEvent → Option WebsocketMessage
  | .out (.websocket message) => some message
  | _ => none

/-- What a status that is written outside of the proxy tells the client. -/
def statusUpdates (kernel : KernelState) : Session.Act → List WebsocketMessage
  | .exit reason host => (kernel.setStatus .exited (some reason) host).2
  | .status status reason host => (kernel.setStatus status reason host).2
  | _ => []

/-- The step is one that is taken with its announcement in mind. -/
def isHeldUp (s : ClientView) : Session.Act → Bool
  | .register _ _ _ => true
  | .submit msgId => (s.announcing msgId).isSome
  | _ => false

/-- The session has taken a step, and what it put on the channel to the client is there. -/
def after (s : ClientView) (a : Session.Act) (session : Session) : ClientView :=
  { s with
    session
    wsJson := s.wsJson ++ statusUpdates s.session.loop.kernel a ++
      (session.loop.log.drop s.session.loop.log.length).filterMap toClient }

def step (D : Codecs) (connection : KernelConnection) (s : ClientView) : Act → Option ClientView
  | .register msgId options attribution listener =>
      (s.session.step D connection (.register msgId
        { options with attribution := attribution.map ExecutionAttribution.toValue }
          listener)).map fun session =>
            { s with
              session
              announcing := Function.update s.announcing msgId
                (attribution.map fun attribution => (options.code, attribution)) }
  | .announce msgId requestedAt =>
      match s.announcing msgId with
      | some (code, attribution) =>
          some { s with
            wsJson := s.wsJson ++
              [.kernel (.executionRequested { msgId, code, requestedAt, attribution })]
            announcing := Function.update s.announcing msgId none }
      | none => none
  | .session a =>
      if s.isHeldUp a then none else (s.session.step D connection a).map (s.after a)
  | .tell message =>
      -- Only the calls announce executions.
      if message.isAnnouncement then none
      else some { s with wsJson := s.wsJson ++ [.kernel message] }

def machine (D : Codecs) (connection : KernelConnection) : Machine ClientView Act :=
  ⟨step D connection⟩

def init (session : Session) : ClientView where
  session
  wsJson := []
  announcing := fun _ => none

inductive Took (D : Codecs) (connection : KernelConnection) (s t : ClientView) : Act → Prop
  | register (msgId : String) (options : ExecuteOptions)
      (attribution : Option ExecutionAttribution) (listener : ℕ)
      (hstep : s.session.step D connection (.register msgId
        { options with attribution := attribution.map ExecutionAttribution.toValue }
          listener) = some t.session)
      (hannouncing : t.announcing = Function.update s.announcing msgId
        (attribution.map fun attribution => (options.code, attribution)))
      (hchannel : t.wsJson = s.wsJson) :
      Took D connection s t (.register msgId options attribution listener)
  | announce (msgId code : String) (attribution : ExecutionAttribution) (requestedAt : Int)
      (hcall : s.announcing msgId = some (code, attribution)) (hsession : t.session = s.session)
      (hannouncing : t.announcing = Function.update s.announcing msgId none)
      (hchannel : t.wsJson = s.wsJson ++
        [.kernel (.executionRequested { msgId, code, requestedAt, attribution })]) :
      Took D connection s t (.announce msgId requestedAt)
  | session (a : Session.Act) (hfree : s.isHeldUp a = false)
      (hstep : s.session.step D connection a = some t.session)
      (hannouncing : t.announcing = s.announcing)
      (hchannel : t.wsJson = (s.after a t.session).wsJson) : Took D connection s t (.session a)
  | tell (message : KernelMessage) (hmessage : message.isAnnouncement = false)
      (hsession : t.session = s.session) (hannouncing : t.announcing = s.announcing)
      (hchannel : t.wsJson = s.wsJson ++ [.kernel message]) :
      Took D connection s t (.tell message)

variable {D : Codecs} {connection : KernelConnection} {s t : ClientView}

theorem step_took {a : Act} (h : s.step D connection a = some t) : Took D connection s t a := by
  cases a with
  | register msgId options attribution listener =>
      obtain ⟨session, hsession, rfl⟩ := Option.map_eq_some_iff.mp h
      exact .register msgId options attribution listener hsession rfl rfl
  | announce msgId requestedAt =>
      simp only [step] at h
      split at h
      next code attribution hcall =>
        cases h
        exact .announce msgId code attribution requestedAt hcall rfl rfl rfl
      next => cases h
  | session a =>
      simp only [step] at h
      split at h
      next => cases h
      next hfree =>
        obtain ⟨session, hsession, rfl⟩ := Option.map_eq_some_iff.mp h
        exact .session a (Bool.eq_false_iff.mpr hfree) hsession rfl rfl
  | tell message =>
      simp only [step] at h
      split at h
      next => cases h
      next hmessage =>
        cases h
        exact .tell message (Bool.eq_false_iff.mpr hmessage) rfl rfl rfl

end ClientView

namespace Session

open ProxyLoop

variable {D : Codecs} {connection : KernelConnection} {s t : Session}

theorem showing_of_same {w v : ProxyLoop} (hpc : v.pc = w.pc) (hlog : v.log = w.log) :
    Showing w v := by
  refine .quiet [] (fun message hmessage => nomatch hmessage) ?_ fun listener => ?_
  · rw [shown, shown, hpc, hlog, List.append_nil]
  · rw [told, told, hlog]

theorem showing_step {a : Act} (h : s.step D connection a = some t) :
    Showing s.loop t.loop := by
  cases step_change h with
  | proxy a =>
      cases step_took h with
      | proxy hloop => exact step_showing hloop
  | posted _ _ _ hloop => exact showing_of_same hloop.pc hloop.log
  | withdrawn _ _ _ _ hpc hlog => exact showing_of_same hpc hlog
  | cleared _ _ _ _ hpc hlog => exact showing_of_same hpc hlog
  | other _ hloop => exact showing_of_same hloop.pc hloop.log

theorem isPrefix_log {a : Act} (h : s.step D connection a = some t) :
    s.loop.log <+: t.loop.log := by
  have hsame : t.loop.log = s.loop.log → s.loop.log <+: t.loop.log := by
    intro hlog
    exact ⟨[], by rw [hlog, List.append_nil]⟩
  cases step_change h with
  | proxy a =>
      cases step_took h with
      | proxy hloop => exact ProxyLoop.isPrefix_log hloop
  | posted _ _ _ hloop => exact hsame hloop.log
  | withdrawn _ _ _ _ _ hlog => exact hsame hlog
  | cleared _ _ _ _ _ hlog => exact hsame hlog
  | other _ hloop => exact hsame hloop.log

theorem discreet_step {a : Act} (hs : s.loop.Discreet) (h : s.step D connection a = some t) :
    t.loop.Discreet := by
  have hsame : t.loop.log = s.loop.log → t.loop.Discreet := by
    intro hlog event hevent
    exact hs event (hlog ▸ hevent)
  cases step_change h with
  | proxy a =>
      cases step_took h with
      | proxy hloop => exact ProxyLoop.discreet_step hs hloop
  | posted _ _ _ hloop => exact hsame hloop.log
  | withdrawn _ _ _ _ _ hlog => exact hsame hlog
  | cleared _ _ _ _ _ hlog => exact hsame hlog
  | other _ hloop => exact hsame hloop.log

/-- A message of the kernel that is in hand was so before, or it has just arrived. -/
theorem inDelivery_step {a : Act} {held : JupyterMessage} (h : s.step D connection a = some t)
    (hheld : inDelivery t.loop.pc = some held) :
    inDelivery s.loop.pc = some held ∨
      ∃ b, a = .proxy b ∧ Delivers D connection s.loop held b := by
  have hsame : t.loop.pc = s.loop.pc → inDelivery s.loop.pc = some held := by
    intro hpc
    rw [← hpc, hheld]
  cases step_change h with
  | proxy a =>
      cases step_took h with
      | proxy hloop =>
          refine (ProxyLoop.inDelivery_step hloop hheld).imp id fun hdelivers => ?_
          exact ⟨a, rfl, hdelivers⟩
  | posted _ _ _ hloop => exact Or.inl (hsame hloop.pc)
  | withdrawn _ _ _ _ hpc => exact Or.inl (hsame hpc)
  | cleared _ _ _ _ hpc => exact Or.inl (hsame hpc)
  | other _ hloop => exact Or.inl (hsame hloop.pc)

/-- A listener in the table was there before, or a call has just registered it. -/
theorem mem_rpcListeners_step {a : Act} {entry : String × ℕ}
    (h : s.step D connection a = some t) (hentry : entry ∈ t.loop.kernel.rpcListeners) :
    entry ∈ s.loop.kernel.rpcListeners ∨ ∃ options, a = .register entry.1 options entry.2 := by
  have hsame : t.loop.kernel.rpcListeners = s.loop.kernel.rpcListeners →
      entry ∈ s.loop.kernel.rpcListeners := by
    intro hlisteners
    rw [← hlisteners]
    exact hentry
  cases step_took h with
  | proxy hloop =>
      rcases step_holder hloop with hholder | ⟨host, status, reason, -, -, hkernel⟩
      · exact Or.inl (hsame hholder.rpcListeners)
      · refine Or.inl (hsame ?_)
        rw [← s.loop.kernel.setStatus_rpcListeners status reason host, ← hkernel]
  | register =>
      rcases List.mem_cons.mp hentry with rfl | hold
      · exact Or.inr ⟨_, rfl⟩
      · exact Or.inl (List.mem_of_mem_filter hold)
  | finish | giveUp => exact Or.inl (List.mem_of_mem_filter hentry)
  | abandon =>
      refine Or.inl (hsame ?_)
      change (abandonSection s.loop.kernel _).1.rpcListeners = _
      rw [abandonSection_fst]
  | exit | status => exact Or.inl (hsame (KernelState.setStatus_rpcListeners _ _ _ _))
  | post | submit | signal | message | kill => exact Or.inl hentry

/-! ## Before a request is posted -/

/-- Nothing is posted under this ID but by the call that has it. -/
def Act.Spares (msgId : String) : Act → Prop
  | .post msg => msg.msgId ≠ msgId
  | .interrupt _ interruptId => interruptId ≠ msgId
  | _ => True

/-- The kernel says nothing about a request that it was not sent. -/
def Causal (D : Codecs) (connection : KernelConnection) (msgId : String) (s : Session) :
    Act → Prop
  | .proxy a => ∀ message, Delivers D connection s.loop message a →
      message.isAbout msgId = true → ∃ event ∈ s.loop.log, Sends msgId event
  | _ => True

/-- No request has this ID yet, and so nothing is said about one. -/
structure Untouched (msgId : String) (s : Session) : Prop where
  gone : Gone msgId s.loop
  log : ∀ event ∈ s.loop.log, ¬ Sends msgId event
  hand : ∀ message, inDelivery s.loop.pc = some message → message.isAbout msgId = false
  shown : s.loop.shown.filter (JupyterMessage.isAbout msgId) = []

theorem posts_ne {a : Act} {msgId : String} {posted : Posted} (hown : s.OwnRequests)
    (hspares : a.Spares msgId) (hsubmit : a ≠ .submit msgId) (h : s.Posts posted a) :
    posted.msg.msgId ≠ msgId := by
  cases a with
  | post msg =>
      obtain rfl := h
      exact hspares
  | submit own =>
      obtain ⟨request, hcall, rfl⟩ := h
      rintro rfl
      exact hsubmit (congrArg Act.submit (hown own request hcall).symm)
  | interrupt own interruptId =>
      obtain ⟨-, -, rfl⟩ := h
      exact hspares
  | _ => exact h.elim

theorem gone_step {a : Act} {msgId : String} (hs : Gone msgId s.loop)
    (hposts : ∀ posted, s.Posts posted a → posted.msg.msgId ≠ msgId)
    (h : s.step D connection a = some t) :
    Gone msgId t.loop ∧ ∀ event ∈ t.loop.log, event ∈ s.loop.log ∨ ¬ Sends msgId event := by
  have hunderway : ∀ posted ∈ underway t.loop, posted.msg.msgId ≠ msgId := by
    intro posted hposted
    rcases underway_step h posted hposted with hold | hnew
    · exact hs.underway posted hold
    · exact hposts posted hnew
  have hsame : ∀ {v : ProxyLoop}, t.loop.executionQueue = v.executionQueue →
      v.executionQueue = s.loop.executionQueue → t.loop.log = s.loop.log →
      Gone msgId t.loop ∧ ∀ event ∈ t.loop.log, event ∈ s.loop.log ∨ ¬ Sends msgId event := by
    intro v hv hqueue hlog
    refine ⟨⟨hunderway, ?_⟩, fun event hevent => Or.inl (hlog ▸ hevent)⟩
    rw [hv, hqueue]
    exact hs.pending
  cases step_change h with
  | proxy a hloop => exact ⟨⟨hunderway, pending_change hs hloop⟩, log_change hs hloop⟩
  | posted _ _ _ hloop => exact hsame hloop.queue rfl hloop.log
  | withdrawn own _ hqueue _ _ hlog =>
      refine ⟨⟨hunderway, ?_⟩, fun event hevent => Or.inl (hlog ▸ hevent)⟩
      change ∀ msg ∈ t.executionQueue.pending, _
      rw [hqueue, ExecutionQueue.removePending_pending]
      exact fun msg hmem => hs.pending msg (List.mem_of_mem_filter hmem)
  | cleared _ _ hqueue _ _ hlog =>
      refine ⟨⟨hunderway, ?_⟩, fun event hevent => Or.inl (hlog ▸ hevent)⟩
      change ∀ msg ∈ t.executionQueue.pending, _
      rw [hqueue]
      intro msg hmem
      cases hmem
  | other _ hloop => exact hsame hloop.queue rfl hloop.log

theorem untouched_step {a : Act} {msgId : String} (hs : Untouched msgId s)
    (hposts : ∀ posted, s.Posts posted a → posted.msg.msgId ≠ msgId)
    (hcausal : Causal D connection msgId s a) (h : s.step D connection a = some t) :
    Untouched msgId t := by
  obtain ⟨hgone, hlog⟩ := gone_step hs.gone hposts h
  refine ⟨hgone, fun event hevent => ?_, fun message hmessage => ?_, ?_⟩
  · exact (hlog event hevent).elim (hs.log event) id
  · rcases inDelivery_step h hmessage with hold | ⟨b, rfl, hdelivers⟩
    · exact hs.hand message hold
    · refine Bool.eq_false_iff.mpr fun habout => ?_
      obtain ⟨event, hevent, hsends⟩ := hcausal message hdelivers habout
      exact hs.log event hevent hsends
  · cases showing_step h with
    | quiet new hnew hshown =>
        rw [hshown, List.filter_append, hs.shown, filter_isAbout_eq_nil hnew, List.append_nil]
    | recorded message parent hparent hpc hshown =>
        have habout := hs.hand message (by rw [hpc]; rfl)
        rw [hshown, List.filter_append, hs.shown, List.filter_cons_of_neg (by simp [habout]),
          List.filter_nil, List.append_nil]

theorem untouched_init (msgId sessionId workingDirectory : String) (host : Host)
    (mode : InterruptMode) (pendingIopubMessages : List (List Bytes)) :
    Untouched msgId (init sessionId workingDirectory host mode pendingIopubMessages) where
  gone := ⟨fun _ => List.not_mem_nil.elim, fun _ => List.not_mem_nil.elim⟩
  log := fun _ => List.not_mem_nil.elim
  hand := fun _ => nofun
  shown := rfl

theorem absent_of_step {a : Act} {msgId : String} (h : s.step D connection a = some t)
    (ht : t.call msgId = .absent) : s.call msgId = .absent := by
  cases step_call h msgId with
  | same heq => rw [← heq, ht]
  | registered options hcall => exact hcall
  | submitted request _ heq =>
      rw [heq] at ht
      cases ht
  | collected _ heq =>
      rcases heq with heq | heq
      · rw [heq] at ht
        cases ht
      · rw [heq] at ht
        cases ht
  | abandoned _ _ heq =>
      rw [heq] at ht
      split at ht
      · cases ht
      · cases ht
  | interrupted _ heq =>
      rw [heq] at ht
      cases ht

/-- What it takes to register a call, and what it does. -/
structure Registering (s t : Session) (msgId : String) (options : ExecuteOptions)
    (listener : ℕ) : Prop where
  absent : s.call msgId = .absent
  call : t.call msgId = .registered (collectRequest msgId options)
  pc : t.loop.pc = s.loop.pc
  log : t.loop.log = s.loop.log
  listeners : t.loop.kernel.rpcListeners =
    (msgId, listener) :: s.loop.kernel.rpcListeners.filter fun entry => entry.1 ≠ msgId

theorem register_spec {msgId : String} {options : ExecuteOptions} {listener : ℕ}
    (h : s.step D connection (.register msgId options listener) = some t) :
    Registering s t msgId options listener := by
  cases step_took h with
  | register hcall => exact ⟨hcall, by simp [setCall], rfl, rfl, rfl⟩

theorem registered_of_submit {msgId : String} (h : s.step D connection (.submit msgId) = some t) :
    ∃ request, s.call msgId = .registered request := by
  cases step_took h with
  | submit hcall => exact ⟨_, hcall⟩

/-! ## What a listener is told -/

/-- The listener belongs to no other call. -/
def Act.SparesListener (msgId : String) (listener : ℕ) : Act → Prop
  | .register own _ l => l = listener → own = msgId
  | _ => True

/-- As long as the call has not begun, its listener is told nothing. -/
structure Unregistered (listener : ℕ) (s : Session) : Prop where
  listeners : ∀ entry ∈ s.loop.kernel.rpcListeners, entry.2 ≠ listener
  told : s.loop.told listener = []

/-- A call is told what the client is, from the first message on, and all of it as long as its
listener is registered. -/
structure Listening (msgId : String) (listener : ℕ) (s : Session) : Prop where
  call : s.call msgId ≠ .absent
  own : ∀ entry ∈ s.loop.kernel.rpcListeners, entry.2 = listener ↔ entry.1 = msgId
  told : s.loop.told listener <+: s.loop.shown.filter (JupyterMessage.isAbout msgId)
  whole : (msgId, listener) ∈ s.loop.kernel.rpcListeners →
    s.loop.told listener = s.loop.shown.filter (JupyterMessage.isAbout msgId)

theorem mem_of_lookup_eq_some {listeners : List (String × ℕ)} {msgId : String} {listener : ℕ}
    (h : listeners.lookup msgId = some listener) : (msgId, listener) ∈ listeners := by
  obtain ⟨before, after, rfl, -⟩ := List.lookup_eq_some_iff.mp h
  exact List.mem_append_right _ List.mem_cons_self

theorem unregistered_step {a : Act} {msgId : String} {listener : ℕ}
    (hs : Unregistered listener s) (hspares : a.SparesListener msgId listener)
    (h : s.step D connection a = some t) (ht : t.call msgId = .absent) :
    Unregistered listener t := by
  constructor
  · intro entry hentry hlistener
    rcases mem_rpcListeners_step h hentry with hold | ⟨options, rfl⟩
    · exact hs.listeners entry hold hlistener
    · rw [← hspares hlistener, (register_spec h).call] at ht
      cases ht
  · cases showing_step h with
    | quiet _ _ _ htold => rw [htold, hs.told]
    | recorded message parent _ _ _ htold =>
        have hlookup : s.loop.kernel.rpcListeners.lookup parent.msgId ≠ some listener :=
          fun hlookup => hs.listeners _ (mem_of_lookup_eq_some hlookup) rfl
        rw [htold, hs.told, if_neg hlookup, List.append_nil]

theorem listening_of_register {msgId : String} {options : ExecuteOptions} {listener : ℕ}
    (hs : Unregistered listener s) (htouched : Untouched msgId s)
    (h : s.step D connection (.register msgId options listener) = some t) :
    Listening msgId listener t := by
  have hspec := register_spec h
  have hequal : t.loop.told listener = t.loop.shown.filter (JupyterMessage.isAbout msgId) := by
    have htold : t.loop.told listener = s.loop.told listener := by rw [told, told, hspec.log]
    have hshown : t.loop.shown = s.loop.shown := by rw [shown, shown, hspec.log, hspec.pc]
    rw [htold, hshown, hs.told, htouched.shown]
  refine ⟨?_, ?_, hequal ▸ List.prefix_refl _, fun _ => hequal⟩
  · intro hcall
    cases hspec.call.symm.trans hcall
  · rw [hspec.listeners]
    intro entry hentry
    rcases List.mem_cons.mp hentry with rfl | hold
    · exact iff_of_true rfl rfl
    · obtain ⟨hmem, hne⟩ := List.mem_filter.mp hold
      exact iff_of_false (hs.listeners entry hmem) (by simpa using hne)

theorem listening_step {a : Act} {msgId : String} {listener : ℕ}
    (hs : Listening msgId listener s) (hspares : a.SparesListener msgId listener)
    (h : s.step D connection a = some t) : Listening msgId listener t := by
  have hcall : t.call msgId ≠ .absent := fun ht => hs.call (absent_of_step h ht)
  have hold : ∀ entry ∈ t.loop.kernel.rpcListeners, entry.1 = msgId →
      entry ∈ s.loop.kernel.rpcListeners := by
    rintro ⟨own, l⟩ hentry rfl
    rcases mem_rpcListeners_step h hentry with hmem | ⟨options, rfl⟩
    · exact hmem
    · exact absurd (register_spec h).absent hs.call
  have hown : ∀ entry ∈ t.loop.kernel.rpcListeners, entry.2 = listener ↔ entry.1 = msgId := by
    intro entry hentry
    refine ⟨fun hlistener => ?_, fun hmsgId => (hs.own entry (hold entry hentry hmsgId)).mpr hmsgId⟩
    rcases mem_rpcListeners_step h hentry with hmem | ⟨options, rfl⟩
    · exact (hs.own entry hmem).mp hlistener
    · exact hspares hlistener
  cases showing_step h with
  | quiet new hnew hshown htold =>
      have hfilter : t.loop.shown.filter (JupyterMessage.isAbout msgId) =
          s.loop.shown.filter (JupyterMessage.isAbout msgId) := by
        rw [hshown, List.filter_append, filter_isAbout_eq_nil hnew, List.append_nil]
      refine ⟨hcall, hown, ?_, fun hmem => ?_⟩
      · rw [htold, hfilter]
        exact hs.told
      · rw [htold, hfilter]
        exact hs.whole (hold _ hmem rfl)
  | recorded message parent hparent hpc hshown htold =>
      have hshown' := congrArg (List.filter (JupyterMessage.isAbout msgId)) hshown
      rw [List.filter_append] at hshown'
      by_cases hlookup : s.loop.kernel.rpcListeners.lookup parent.msgId = some listener
      · -- The listener is registered, and so it has been told everything.
        have hentry := mem_of_lookup_eq_some hlookup
        have hmsgId : parent.msgId = msgId := (hs.own _ hentry).mp rfl
        have habout : message.isAbout msgId = true :=
          JupyterMessage.isAbout_iff.mpr ⟨parent, hparent, hmsgId⟩
        have hequal : t.loop.told listener =
            t.loop.shown.filter (JupyterMessage.isAbout msgId) := by
          rw [htold, if_pos hlookup, hs.whole (hmsgId ▸ hentry), hshown',
            List.filter_cons_of_pos habout, List.filter_nil]
        exact ⟨hcall, hown, hequal ▸ List.prefix_refl _, fun _ => hequal⟩
      · have hsame : t.loop.told listener = s.loop.told listener := by
          rw [htold, if_neg hlookup, List.append_nil]
        refine ⟨hcall, hown, ?_, fun hmem => ?_⟩
        · rw [hsame, hshown']
          exact hs.told.trans (List.prefix_append _ _)
        · -- Were the message about the request, it would have been given to the listener.
          have hentry := hold _ hmem rfl
          have hne : parent.msgId ≠ msgId := by
            rintro rfl
            obtain ⟨l, hl⟩ := Option.isSome_iff_exists.mp
              (List.lookup_isSome_iff.mpr ⟨_, hentry, beq_self_eq_true parent.msgId⟩)
            have hlistener : l = listener := (hs.own _ (mem_of_lookup_eq_some hl)).mpr rfl
            exact hlookup (hlistener ▸ hl)
          have habout : ¬ message.isAbout msgId = true := by
            rw [JupyterMessage.isAbout_iff]
            rintro ⟨parent', hparent', hmsgId⟩
            cases hparent.symm.trans hparent'
            exact hne hmsgId
          rw [hsame, hshown', List.filter_cons_of_neg habout, List.filter_nil, List.append_nil,
            hs.whole hentry]

end Session

namespace ClientView

open ProxyLoop Session

variable {D : Codecs} {connection : KernelConnection} {s t : ClientView}

/-! ## The channel to the client -/

/-- The message of the kernel that the client is given. -/
def ofKernel : WebsocketMessage → Option JupyterMessage
  | .jupyter message => some message
  | .kernel _ => none

/-- The announcement of the execution with this ID. -/
def announced (msgId : String) : WebsocketMessage → Option ExecutionRequested
  | .kernel (.executionRequested request) => if request.msgId = msgId then some request else none
  | _ => none

/-- What the messages to the client have of what the kernel says about a request. -/
def answers (msgId : String) (messages : List WebsocketMessage) : List JupyterMessage :=
  (messages.filterMap ofKernel).filter (JupyterMessage.isAbout msgId)

/-- What the client was given, and is about to be given, of what the kernel says about a
request. -/
def heard (s : ClientView) (msgId : String) : List JupyterMessage :=
  answers msgId s.wsJson ++ (inPublishing s.session.loop.pc).filter (JupyterMessage.isAbout msgId)

/-- The step of the session that an action is. -/
def Act.inner : Act → Option Session.Act
  | .register msgId options attribution listener =>
      some (.register msgId
        { options with attribution := attribution.map ExecutionAttribution.toValue } listener)
  | .session a => some a
  | _ => none

theorem step_inner {a : Act} (h : s.step D connection a = some t) :
    (∃ b, a.inner = some b ∧ s.session.step D connection b = some t.session) ∨
      a.inner = none ∧ t.session = s.session := by
  cases step_took h with
  | register _ _ _ _ hstep => exact Or.inl ⟨_, rfl, hstep⟩
  | announce _ _ _ _ _ hsession => exact Or.inr ⟨rfl, hsession⟩
  | session b _ hstep => exact Or.inl ⟨b, rfl, hstep⟩
  | tell _ _ hsession => exact Or.inr ⟨rfl, hsession⟩

/-- The channel has the messages of the kernel that the proxy has put on it, and the proxy
announces nothing. -/
structure Mirrored (s : ClientView) : Prop where
  shown : s.wsJson.filterMap ofKernel = s.session.loop.log.filterMap shownBy
  discreet : s.session.loop.Discreet

theorem heard_eq (hs : s.Mirrored) (msgId : String) :
    s.heard msgId = s.session.loop.shown.filter (JupyterMessage.isAbout msgId) := by
  rw [heard, answers, hs.shown, shown, List.filter_append]

theorem ofKernel_toClient (event : ProxyEvent) :
    (toClient event).bind ofKernel = shownBy event := by
  cases event with
  | decoded => rfl
  | out output =>
      cases output with
      | socket | rpc => rfl
      | websocket message => cases message <;> rfl

theorem statusUpdates_eq (kernel : KernelState) (a : Session.Act) :
    ∀ update ∈ statusUpdates kernel a, ∃ message,
      update = .kernel message ∧ message.isAnnouncement = false := by
  intro update hupdate
  cases a with
  | exit | status => exact KernelState.setStatus_not_announcement _ _ _ _ update hupdate
  | _ => cases hupdate

theorem after_wsJson {a : Session.Act} (hs : s.Mirrored)
    (h : s.session.step D connection a = some t.session) :
    ∃ new, (s.after a t.session).wsJson = s.wsJson ++ new ∧
      t.session.loop.log.filterMap shownBy =
        s.session.loop.log.filterMap shownBy ++ new.filterMap ofKernel ∧
      ∀ msgId, new.filterMap (announced msgId) = [] := by
  obtain ⟨events, hlog⟩ := Session.isPrefix_log h
  have hdiscreet : ∀ event ∈ events, ¬ IsAnnouncement event := fun event hevent =>
    Session.discreet_step hs.discreet h event (hlog ▸ List.mem_append_right _ hevent)
  have hupdates := statusUpdates_eq s.session.loop.kernel a
  refine ⟨statusUpdates s.session.loop.kernel a ++ events.filterMap toClient, ?_, ?_, ?_⟩
  · rw [after, ← hlog, List.drop_left, List.append_assoc]
  · have hnone : (statusUpdates s.session.loop.kernel a).filterMap ofKernel = [] := by
      refine List.filterMap_eq_nil_iff.mpr fun update hupdate => ?_
      obtain ⟨message, rfl, -⟩ := hupdates update hupdate
      rfl
    rw [← hlog, List.filterMap_append, List.filterMap_append, hnone, List.nil_append,
      List.filterMap_filterMap]
    simp only [ofKernel_toClient]
  · intro msgId
    rw [List.filterMap_append, List.append_eq_nil_iff]
    constructor
    · refine List.filterMap_eq_nil_iff.mpr fun update hupdate => ?_
      obtain ⟨message, rfl, hmessage⟩ := hupdates update hupdate
      cases message with
      | executionRequested => cases hmessage
      | _ => rfl
    · refine List.filterMap_eq_nil_iff.mpr fun message hmessage => ?_
      obtain ⟨event, hevent, hclient⟩ := List.mem_filterMap.mp hmessage
      cases event with
      | decoded => cases hclient
      | out output =>
          cases output with
          | socket | rpc => cases hclient
          | websocket told =>
              cases hclient
              cases message with
              | jupyter => rfl
              | kernel message =>
                  cases message with
                  | executionRequested => exact absurd rfl (hdiscreet _ hevent)
                  | _ => rfl

theorem mirrored_step {a : Act} (hs : s.Mirrored) (h : s.step D connection a = some t) :
    t.Mirrored := by
  cases step_took h with
  | register msgId options attribution listener hstep hannouncing hchannel =>
      refine ⟨?_, Session.discreet_step hs.discreet hstep⟩
      rw [hchannel, hs.shown, (register_spec hstep).log]
  | announce msgId code attribution requestedAt hcall hsession hannouncing hchannel =>
      refine ⟨?_, hsession ▸ hs.discreet⟩
      rw [hchannel, hsession, List.filterMap_append, hs.shown]
      exact List.append_nil _
  | session b hfree hstep hannouncing hchannel =>
      refine ⟨?_, Session.discreet_step hs.discreet hstep⟩
      obtain ⟨new, hnew, hlog, -⟩ := after_wsJson hs hstep
      rw [hchannel, hnew, List.filterMap_append, hs.shown, hlog]
  | tell message hmessage hsession hannouncing hchannel =>
      refine ⟨?_, hsession ▸ hs.discreet⟩
      rw [hchannel, hsession, List.filterMap_append, hs.shown]
      exact List.append_nil _

/-! ## Who asked comes before what is said -/

/-- Nothing but the call posts a request under its ID. -/
def Act.Spares (msgId : String) (a : Act) : Prop := ∀ b ∈ a.inner, b.Spares msgId

/-- The listener belongs to no other call. -/
def Act.SparesListener (msgId : String) (listener : ℕ) (a : Act) : Prop :=
  ∀ b ∈ a.inner, b.SparesListener msgId listener

/-- The kernel says nothing about a request that it was not sent. -/
def Causal (D : Codecs) (connection : KernelConnection) (msgId : String) (s : ClientView)
    (a : Act) : Prop :=
  ∀ b ∈ a.inner, s.session.Causal D connection msgId b

/-- Nothing was said about the request of a call, and it was not announced. -/
structure Fresh (msgId : String) (s : ClientView) : Prop where
  own : s.session.OwnRequests
  mirrored : s.Mirrored
  untouched : s.session.Untouched msgId
  silent : s.wsJson.filterMap (announced msgId) = []

theorem fresh_step {a : Act} {msgId : String} (hs : Fresh msgId s) (hspares : a.Spares msgId)
    (hcausal : s.Causal D connection msgId a) (hsubmit : a ≠ .session (.submit msgId))
    (hannounce : ∀ requestedAt, a ≠ .announce msgId requestedAt)
    (h : s.step D connection a = some t) : Fresh msgId t := by
  refine ⟨?_, mirrored_step hs.mirrored h, ?_, ?_⟩
  · rcases step_inner h with ⟨b, -, hstep⟩ | ⟨-, hsession⟩
    · exact ownRequests_step hs.own hstep
    · exact hsession ▸ hs.own
  · rcases step_inner h with ⟨b, hb, hstep⟩ | ⟨-, hsession⟩
    · refine untouched_step hs.untouched (fun posted hposted => ?_) (hcausal b hb) hstep
      refine posts_ne hs.own (hspares b hb) ?_ hposted
      rintro rfl
      cases a with
      | session b =>
          cases hb
          exact hsubmit rfl
      | register | announce | tell => cases hb
    · exact hsession ▸ hs.untouched
  · cases step_took h with
    | register _ _ _ _ _ _ hchannel => rw [hchannel, hs.silent]
    | announce own code attribution requestedAt _ _ _ hchannel =>
        have hne : own ≠ msgId := by
          rintro rfl
          exact hannounce requestedAt rfl
        rw [hchannel, List.filterMap_append, hs.silent]
        simp [announced, hne]
    | session b _ hstep _ hchannel =>
        obtain ⟨new, hnew, -, hnone⟩ := after_wsJson hs.mirrored hstep
        rw [hchannel, hnew, List.filterMap_append, hs.silent, hnone msgId, List.append_nil]
    | tell message hmessage _ _ hchannel =>
        rw [hchannel, List.filterMap_append, hs.silent]
        cases message with
        | executionRequested => cases hmessage
        | _ => rfl

/-- A call that has not begun: nothing is known of its ID. -/
structure Unbegun (msgId : String) (s : ClientView) : Prop where
  fresh : Fresh msgId s
  announcing : s.announcing msgId = none

/-- The messages tell who asked for the execution, once and before anything else of it. -/
def Introduced (msgId code : String) (attribution : ExecutionAttribution)
    (messages : List WebsocketMessage) : Prop :=
  ∃ before requestedAt after,
    messages = before ++
      .kernel (.executionRequested { msgId, code, requestedAt, attribution }) :: after ∧
    answers msgId before = [] ∧
    messages.filterMap (announced msgId) = [{ msgId, code, requestedAt, attribution }]

theorem Introduced.append {msgId code : String} {attribution : ExecutionAttribution}
    {messages new : List WebsocketMessage} (h : Introduced msgId code attribution messages)
    (hnew : new.filterMap (announced msgId) = []) :
    Introduced msgId code attribution (messages ++ new) := by
  obtain ⟨before, requestedAt, after, rfl, hbefore, honce⟩ := h
  refine ⟨before, requestedAt, after ++ new, by simp, hbefore, ?_⟩
  rw [List.filterMap_append, hnew, List.append_nil, honce]

theorem call_ne_absent_step {a : Act} {msgId : String} (hs : s.session.call msgId ≠ .absent)
    (h : s.step D connection a = some t) : t.session.call msgId ≠ .absent := by
  intro ht
  rcases step_inner h with ⟨b, -, hstep⟩ | ⟨-, hsession⟩
  · exact hs (absent_of_step hstep ht)
  · exact hs (hsession ▸ ht)

theorem unbegun_init (msgId sessionId workingDirectory : String) (host : Host)
    (mode : InterruptMode) (pendingIopubMessages : List (List Bytes)) :
    Unbegun msgId (init (Session.init sessionId workingDirectory host mode
      pendingIopubMessages)) where
  fresh :=
    { own := fun _ _ hcall => nomatch hcall
      mirrored := ⟨rfl, fun _ => List.not_mem_nil.elim⟩
      untouched := untouched_init msgId sessionId workingDirectory host mode pendingIopubMessages
      silent := rfl }
  announcing := rfl

theorem unbegun_step {a : Act} {msgId : String}
    (hs : s.session.call msgId = .absent → Unbegun msgId s) (hspares : a.Spares msgId)
    (hcausal : s.Causal D connection msgId a) (h : s.step D connection a = some t)
    (ht : t.session.call msgId = .absent) : Unbegun msgId t := by
  have habsent : s.session.call msgId = .absent := by
    by_contra hne
    exact call_ne_absent_step hne h ht
  obtain ⟨hfresh, hannouncing⟩ := hs habsent
  have hannounce : ∀ requestedAt, a ≠ .announce msgId requestedAt := by
    rintro requestedAt rfl
    cases step_took h with
    | announce _ _ _ _ hcall => cases hcall.symm.trans hannouncing
  refine ⟨fresh_step hfresh hspares hcausal ?_ hannounce h, ?_⟩
  · rintro rfl
    cases step_took h with
    | session _ _ hstep =>
        obtain ⟨request, hcall⟩ := registered_of_submit hstep
        cases hcall.symm.trans habsent
  · cases step_took h with
    | register own options attribution listener hstep hannouncing' =>
        have hne : msgId ≠ own := by
          rintro rfl
          rw [(register_spec hstep).call] at ht
          cases ht
        rw [hannouncing', Function.update_of_ne hne, hannouncing]
    | announce own code attribution requestedAt _ _ hannouncing' =>
        have hne : msgId ≠ own := by
          rintro rfl
          exact hannounce requestedAt rfl
        rw [hannouncing', Function.update_of_ne hne, hannouncing]
    | session _ _ _ hannouncing' => rw [hannouncing', hannouncing]
    | tell _ _ _ hannouncing' => rw [hannouncing', hannouncing]

theorem unbegun_run {sessionId workingDirectory : String} {host : Host} {mode : InterruptMode}
    {pendingIopubMessages : List (List Bytes)} {acts : List Act} {msgId : String}
    (hspares : ∀ a ∈ acts, a.Spares msgId)
    (hcausal : (machine D connection).Meets (fun s a => s.Causal D connection msgId a)
      (init (Session.init sessionId workingDirectory host mode pendingIopubMessages)) acts)
    (hrun : (machine D connection).run (init (Session.init sessionId workingDirectory host mode
      pendingIopubMessages)) acts = some t) (ht : t.session.call msgId = .absent) :
    Unbegun msgId t := by
  have hmeets : (machine D connection).Meets
      (fun s a => s.Causal D connection msgId a ∧ a.Spares msgId)
      (init (Session.init sessionId workingDirectory host mode pendingIopubMessages)) acts := by
    rw [Machine.meets_iff_forall_append] at hcausal ⊢
    intro as a bs u heq hu
    exact ⟨hcausal as a bs u heq hu, hspares a (by simp [heq])⟩
  exact (machine D connection).run_invariant
    (I := fun s => s.session.call msgId = .absent → Unbegun msgId s)
    (fun _ _ _ hs hC h ht => unbegun_step hs hC.2 hC.1 h ht)
    (fun _ => unbegun_init msgId sessionId workingDirectory host mode pendingIopubMessages)
    hmeets hrun ht

/-- A run in which a call registers, around that step. -/
structure Around (D : Codecs) (connection : KernelConnection) (start t : ClientView)
    (as bs : List Act) (msgId : String) (options : ExecuteOptions)
    (attribution : Option ExecutionAttribution) (listener : ℕ) (u v : ClientView) : Prop where
  before : (machine D connection).run start as = some u
  unbegun : Unbegun msgId u
  step : u.step D connection (.register msgId options attribution listener) = some v
  after : (machine D connection).run v bs = some t
  fresh : Fresh msgId v
  meets : (machine D connection).Meets
    (fun s a => s.Causal D connection msgId a ∧ a.Spares msgId) v bs

section Runs

variable {sessionId workingDirectory : String} {host : Host} {mode : InterruptMode}
  {pendingIopubMessages : List (List Bytes)} {as bs : List Act} {msgId : String}
  {options : ExecuteOptions} {listener : ℕ}

theorem exists_around {attribution : Option ExecutionAttribution}
    (hspares : ∀ a ∈ as ++ .register msgId options attribution listener :: bs, a.Spares msgId)
    (hcausal : (machine D connection).Meets (fun s a => s.Causal D connection msgId a)
      (init (Session.init sessionId workingDirectory host mode pendingIopubMessages))
      (as ++ .register msgId options attribution listener :: bs))
    (hrun : (machine D connection).run
      (init (Session.init sessionId workingDirectory host mode pendingIopubMessages))
      (as ++ .register msgId options attribution listener :: bs) = some t) :
    ∃ u v, Around D connection
      (init (Session.init sessionId workingDirectory host mode pendingIopubMessages)) t as bs
      msgId options attribution listener u v := by
  obtain ⟨u, hu, hrest⟩ := (machine D connection).run_append_eq_some_iff _ _ _ _ |>.mp hrun
  obtain ⟨v, hv, hafter⟩ := (machine D connection).run_cons_eq_some_iff _ _ _ _ |>.mp hrest
  have hstep : u.step D connection (.register msgId options attribution listener) = some v := hv
  have habsent : u.session.call msgId = .absent := by
    cases step_took hstep with
    | register _ _ _ _ hregister => exact (register_spec hregister).absent
  have hunbegun : Unbegun msgId u :=
    unbegun_run (fun a ha => hspares a (List.mem_append_left _ ha))
      (Machine.Meets.of_append _ hcausal) hu habsent
  have hspare := hspares _ (List.mem_append_right _ List.mem_cons_self)
  refine ⟨u, v, hu, hunbegun, hstep, hafter, ?_, ?_⟩
  · refine fresh_step hunbegun.fresh hspare ?_ (fun heq => nomatch heq)
      (fun _ heq => nomatch heq) hstep
    rintro b hb
    cases hb
    trivial
  · rw [Machine.meets_iff_forall_append] at hcausal ⊢
    rintro cs a ds w rfl hw
    refine ⟨hcausal (as ++ .register msgId options attribution listener :: cs) a ds w
      (by simp) ?_, hspares a (by simp)⟩
    refine ((machine D connection).run_append_eq_some_iff _ _ _ _).mpr ⟨u, hu, ?_⟩
    exact ((machine D connection).run_cons_eq_some_iff _ _ _ _).mpr ⟨v, hv, hw⟩

def sampleAttribution : ExecutionAttribution where
  source := "agent"
  agentName := none
  agentVersion := none
  workspaceId := "w"
  tool := "execute_code"

/-- A call registers, on behalf of an agent. -/
def registering : Act := .register "c" sampleOptions (some sampleAttribution) 7

/-- It announces its execution, and the kernel has its request. -/
def attributing : List Act :=
  [.announce "c" 5, .session (.submit "c"), .session (.proxy .receive),
    .session (.proxy (.queue sampleHost)), .session (.proxy (.send sampleHost true))]

/-- The kernel says that it is done with the request. -/
def settling : List Act :=
  [.session (.proxy (.arrive .ioPub (idleFrames (sampleParent "c" "execute_request")))),
    .session (.proxy (.update sampleHost)), .session (.proxy (.dequeue sampleHost true)),
    .session (.proxy .record), .session (.proxy .publish)]

def settledCodecs : Codecs := idleCodecs (sampleParent "c" "execute_request")

theorem spares_attributing :
    ∀ a ∈ [] ++ registering :: (attributing ++ settling),
      a.Spares "c" ∧ a.SparesListener "c" 7 := by
  intro a ha
  simp only [attributing, settling, List.nil_append, List.cons_append, List.mem_cons,
    List.not_mem_nil, or_false] at ha
  rcases ha with rfl | rfl | rfl | rfl | rfl | rfl | rfl | rfl | rfl | rfl | rfl
  all_goals
    constructor
    all_goals
      intro b hb
      cases hb
  · trivial
  · exact fun _ => rfl
  all_goals trivial

theorem causal_attributing :
    (machine settledCodecs unsignedConnection).Meets
      (fun s a => s.Causal settledCodecs unsignedConnection "c" a)
      (init (sampleSession .signal)) ([] ++ registering :: (attributing ++ settling)) := by
  change Machine.Meets _ _ _ ((registering :: attributing) ++ settling)
  refine Machine.meets_append _ rfl (Machine.meets_of_forall _ _ ?_) ⟨?_, fun _ _ =>
    Machine.meets_of_forall _ _ ?_⟩
  · intro a ha u b hb
    simp only [attributing, List.mem_cons, List.not_mem_nil, or_false] at ha
    rcases ha with rfl | rfl | rfl | rfl | rfl | rfl
    all_goals cases hb
    · trivial
    · trivial
    all_goals exact fun message hdelivers => hdelivers.elim
  · -- The kernel was sent the request before it answered it.
    intro b hb
    cases hb
    exact fun message _ _ => ⟨_, List.mem_singleton_self _, rfl⟩
  · intro a ha u b hb
    simp only [List.mem_cons, List.not_mem_nil, or_false] at ha
    rcases ha with rfl | rfl | rfl | rfl
    all_goals
      cases hb
      exact fun message hdelivers => hdelivers.elim

set_option maxRecDepth 20000 in
theorem run_attributing :
    ∃ t, (machine settledCodecs unsignedConnection).run (init (sampleSession .signal))
        ([] ++ registering :: (attributing ++ settling)) = some t ∧
      answers "c" t.wsJson = [idleMessage (sampleParent "c" "execute_request")] ∧
      ("c", 7) ∈ t.session.loop.kernel.rpcListeners ∧
      t.session.loop.told 7 = [idleMessage (sampleParent "c" "execute_request")] :=
  ⟨_, rfl, rfl, List.mem_singleton_self _, rfl⟩

theorem unregistered_run {acts : List Act}
    (hspares : ∀ a ∈ acts, a.SparesListener msgId listener)
    (hrun : (machine D connection).run (init (Session.init sessionId workingDirectory host mode
      pendingIopubMessages)) acts = some t) (ht : t.session.call msgId = .absent) :
    Unregistered listener t.session := by
  refine (machine D connection).run_invariant
    (I := fun s => s.session.call msgId = .absent → Unregistered listener s.session)
    (C := fun _ a => a.SparesListener msgId listener) ?_ ?_
    (Machine.meets_of_forall _ _ fun a ha _ => hspares a ha) hrun ht
  · intro s a t hs hC h ht
    have hstep' : s.step D connection a = some t := h
    have habsent : s.session.call msgId = .absent := by
      by_contra hne
      exact call_ne_absent_step hne hstep' ht
    rcases step_inner hstep' with ⟨b, hb, hstep⟩ | ⟨-, hsession⟩
    · exact unregistered_step (hs habsent) (hC b hb) hstep ht
    · exact hsession ▸ hs habsent
  · exact fun _ => ⟨fun _ => List.not_mem_nil.elim, rfl⟩

/-- In every order of the steps, if no other message has the ID of a call's request, no other
call its listener, and the kernel answers no request that it was not sent: the call is told
nothing about its request that the client is not, in the same order from the first message on,
and everything as long as its listener is registered. What it returns is what anyone would
collect from the messages to the client. -/
theorem collected_of_shown {attribution : Option ExecutionAttribution}
    (hspares : ∀ a ∈ as ++ .register msgId options attribution listener :: bs,
      a.Spares msgId ∧ a.SparesListener msgId listener)
    (hcausal : (machine D connection).Meets (fun s a => s.Causal D connection msgId a)
      (init (Session.init sessionId workingDirectory host mode pendingIopubMessages))
      (as ++ .register msgId options attribution listener :: bs))
    (hrun : (machine D connection).run
      (init (Session.init sessionId workingDirectory host mode pendingIopubMessages))
      (as ++ .register msgId options attribution listener :: bs) = some t) :
    t.session.loop.told listener <+: t.heard msgId ∧
      ((msgId, listener) ∈ t.session.loop.kernel.rpcListeners →
        t.session.loop.told listener = t.heard msgId) ∧
      ∀ (render : Value → String) (streaming : Bool) (result : Except ExecuteError ExecuteReply),
        Collect.collectExecutionOutput render streaming
          ((t.session.loop.told listener).map .message) = some result →
        Collect.collectExecutionOutput render streaming ((t.heard msgId).map .message) =
          some result := by
  obtain ⟨u, v, haround⟩ := exists_around (fun a ha => (hspares a ha).1) hcausal hrun
  have hunregistered : Unregistered listener u.session :=
    unregistered_run (fun a ha => (hspares a (List.mem_append_left _ ha)).2) haround.before
      (by
        cases step_took haround.step with
        | register _ _ _ _ hstep => exact (register_spec hstep).absent)
  have hlistening : Listening msgId listener v.session ∧ v.Mirrored := by
    refine ⟨?_, haround.fresh.mirrored⟩
    cases step_took haround.step with
    | register _ _ _ _ hstep =>
        exact listening_of_register hunregistered haround.unbegun.fresh.untouched hstep
  obtain ⟨hlistening, hmirrored⟩ := (machine D connection).run_invariant
    (I := fun s => Listening msgId listener s.session ∧ s.Mirrored)
    (C := fun _ a => a.SparesListener msgId listener)
    (fun s a t hs hC h => by
      refine ⟨?_, mirrored_step hs.2 h⟩
      rcases step_inner h with ⟨b, hb, hstep⟩ | ⟨-, hsession⟩
      · exact listening_step hs.1 (hC b hb) hstep
      · exact hsession ▸ hs.1) hlistening
    (Machine.meets_of_forall _ _ fun a ha _ => (hspares a (by simp [ha])).2) haround.after
  rw [heard_eq hmirrored]
  refine ⟨hlistening.told, hlistening.whole, fun render streaming result hresult => ?_⟩
  obtain ⟨more, hmore⟩ := hlistening.told
  rw [← hmore, List.map_append]
  exact Collect.collectExecutionOutput_of_end hresult _

theorem collected_of_shown_attributing :
    ∃ t, (machine settledCodecs unsignedConnection).run (init (sampleSession .signal))
        ([] ++ registering :: (attributing ++ settling)) = some t ∧
      ("c", 7) ∈ t.session.loop.kernel.rpcListeners ∧
      t.session.loop.told 7 = [idleMessage (sampleParent "c" "execute_request")] ∧
      t.session.loop.told 7 = t.heard "c" := by
  obtain ⟨t, hrun, -, hmem, htold⟩ := run_attributing
  obtain ⟨-, hwhole, -⟩ := collected_of_shown spares_attributing causal_attributing hrun
  exact ⟨t, hrun, hmem, htold, hwhole hmem⟩

end Runs

end ClientView

end Kallichore
