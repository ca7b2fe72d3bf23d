import Kallichore.Lib.Remains
import Kallichore.Session.Abandon

/-!
# What abandoning an execution leaves alone

Under its lock `abandon` takes nothing but its own request out of the queue. If
the request was active, the kernel is interrupted, and how that is done makes
the difference to the others: a signal goes to the process and the queue stays
as it is, but a kernel that takes interrupts by message is sent an interrupt
request like that of a client, and the proxy cancels whatever is pending when it
comes to it.
-/

namespace Kallichore

namespace Session

open ProxyLoop

variable {D : Codecs} {connection : KernelConnection}

/-- The action takes a pending request out of the queue. If it does so because a
message cancels what is pending, that message is one of those `allowed`. -/
inductive Removes (allowed : Posted → Prop) (s : Session) (request : JupyterMessage) :
    Act → Prop
  | released (host : Host) (accepted : Bool) (rest : List JupyterMessage)
      (hpending : s.executionQueue.pending = request :: rest) :
      Removes allowed s request (.proxy (.dequeue host accepted))
  | withdrawn : Removes allowed s request (.abandon request.msgId)
  | cancelled (host : Host) (posted : Posted) (hpc : s.loop.pc = .queueing posted)
      (hclears : Clears posted.msg) (hallowed : allowed posted) :
      Removes allowed s request (.proxy (.queue host))
  | killed : Removes allowed s request .kill
  | exited (reason : String) (host : Host) : Removes allowed s request (.exit reason host)

/-- The request was taken out of the queue along the run. -/
def Removed (D : Codecs) (connection : KernelConnection) (allowed : Posted → Prop)
    (s : Session) (acts : List Act) (request : JupyterMessage) : Prop :=
  ∃ as a bs u, acts = as ++ a :: bs ∧ (machine D connection).run s as = some u ∧
    Removes allowed u request a

theorem pending_remains_change {s t : Session} {a : ProxyLoop.Act} {allowed : Posted → Prop}
    (hallowed : ∀ posted ∈ underway s.loop, allowed posted)
    (h : ProxyLoop.Change D connection s.loop t.loop a) :
    ∃ kept new, t.executionQueue.pending = kept ++ new ∧
      Remains (fun request => Removes allowed s request (.proxy a))
        s.executionQueue.pending kept := by
  cases h.pending with
  | same a hpending =>
      refine ⟨s.executionQueue.pending, [], ?_, .refl _⟩
      rw [List.append_nil]
      exact hpending
  | queued host posted hpc hpending =>
      exact ⟨s.executionQueue.pending, [posted.msg], hpending, .refl _⟩
  | cancelled host posted hpc hclears hpending =>
      have hposted : allowed posted := hallowed posted (by simp [underway, hpc, inHand])
      refine ⟨[], [], hpending, .nil_of_forall fun request _ => ?_⟩
      exact .cancelled host posted hpc hclears hposted
  | released host accepted request hpending =>
      refine ⟨t.executionQueue.pending, [], (List.append_nil _).symm, ?_⟩
      rw [executionQueue, hpending]
      exact (Remains.refl _).drop (.released host accepted _ hpending)

theorem pending_remains_step {s t : Session} {a : Act} {allowed : Posted → Prop}
    (hallowed : ∀ posted ∈ underway s.loop, allowed posted)
    (h : s.step D connection a = some t) :
    ∃ kept new, t.executionQueue.pending = kept ++ new ∧
      Remains (fun request => Removes allowed s request a) s.executionQueue.pending kept := by
  cases step_change h with
  | proxy a hloop => exact pending_remains_change hallowed hloop
  | posted a posted hposted hloop =>
      exact ⟨_, [], by rw [executionQueue, hloop.queue, List.append_nil]; rfl, .refl _⟩
  | withdrawn msgId hcall hqueue hchannel hpc hlog =>
      rw [hqueue, ExecutionQueue.removePending_pending]
      refine ⟨_, [], (List.append_nil _).symm, .filter fun request _ hremoved => ?_⟩
      obtain rfl : request.msgId = msgId := by simpa using hremoved
      exact .withdrawn
  | cleared a hact hqueue hchannel hpc hlog =>
      refine ⟨[], [], by rw [hqueue]; rfl, .nil_of_forall fun request _ => ?_⟩
      rcases hact with rfl | ⟨-, reason, host, rfl⟩
      · exact .killed
      · exact .exited reason host
  | other a hloop =>
      exact ⟨_, [], by rw [executionQueue, hloop.queue, List.append_nil]; rfl, .refl _⟩

theorem removed_of_removes {s : Session} {a : Act} {allowed : Posted → Prop}
    {request : JupyterMessage} (acts : List Act) (h : Removes allowed s request a) :
    Removed D connection allowed s (a :: acts) request :=
  ⟨[], a, acts, s, rfl, rfl, h⟩

theorem removed_cons {s t : Session} {a : Act} {acts : List Act} {allowed : Posted → Prop}
    {request : JupyterMessage} (hstep : s.step D connection a = some t)
    (h : Removed D connection allowed t acts request) :
    Removed D connection allowed s (a :: acts) request := by
  obtain ⟨as, b, bs, u, rfl, hrun, hremoves⟩ := h
  refine ⟨a :: as, b, bs, u, rfl, ?_, hremoves⟩
  exact ((machine D connection).run_cons_eq_some_iff s u a as).mpr ⟨t, hstep, hrun⟩

/-- Along a run in which only allowed messages come to the queue, the pending
requests stay in order until they are removed. -/
theorem run_pending_remains {allowed : Posted → Prop} {s t : Session} {acts : List Act}
    (hallowed : ∀ as bs u, acts = as ++ bs → (machine D connection).run s as = some u →
      ∀ posted ∈ underway u.loop, allowed posted)
    (hrun : (machine D connection).run s acts = some t) :
    ∃ kept new, t.executionQueue.pending = kept ++ new ∧
      Remains (Removed D connection allowed s acts) s.executionQueue.pending kept := by
  induction acts generalizing s with
  | nil =>
      cases hrun
      exact ⟨_, [], by rw [List.append_nil], .refl _⟩
  | cons a acts ih =>
      obtain ⟨u, hstep, hrest⟩ := ((machine D connection).run_cons_eq_some_iff s t a acts).mp hrun
      obtain ⟨first, new, hfirst, hremains⟩ :=
        pending_remains_step (hallowed [] (a :: acts) s rfl rfl) hstep
      obtain ⟨left, new', hleft, hremains'⟩ := ih (s := u) (fun as bs v heq hv =>
        hallowed (a :: as) bs v (by rw [heq]; rfl)
          (((machine D connection).run_cons_eq_some_iff s v a as).mpr ⟨u, hstep, hv⟩)) hrest
      rw [hfirst] at hremains'
      obtain ⟨kept, rest, rfl, hkept⟩ := hremains'.append_inv
      refine ⟨kept, rest ++ new', by rw [hleft, List.append_assoc], ?_⟩
      exact (hremains.mono fun request => removed_of_removes acts).trans
        (hkept.mono fun request => removed_cons hstep)

/-! ## The interrupt that follows -/

/-- No interrupt that follows on abandoning this request is on its way. -/
def Unposted (msgId : String) (s : Session) : Prop :=
  ∀ posted ∈ underway s.loop, posted.poster ≠ .abandon msgId

/-- Only a call that is about to interrupt a kernel by message posts one. -/
theorem unposted_step {s t : Session} {a : Act} {msgId : String} (hs : Unposted msgId s)
    (hcall : s.call msgId = .interrupting → s.mode = .message →
      ∀ interruptId, a ≠ .interrupt msgId interruptId)
    (h : s.step D connection a = some t) : Unposted msgId t := by
  intro posted hposted hposter
  rcases underway_step h posted hposted with hold | hnew
  · exact hs posted hold hposter
  · cases a with
    | post msg =>
        obtain rfl := hnew
        cases hposter
    | submit own =>
        obtain ⟨request, -, rfl⟩ := hnew
        cases hposter
    | interrupt own interruptId =>
        obtain ⟨hinterrupting, hmode, rfl⟩ := hnew
        cases hposter
        exact hcall hinterrupting hmode interruptId rfl
    | _ => exact hnew

theorem finished_step {s t : Session} {a : Act} {msgId : String}
    (hs : s.call msgId = .finished) (h : s.step D connection a = some t) :
    t.call msgId = .finished := by
  cases step_call h msgId with
  | same heq => rw [heq, hs]
  | registered options hcall _ => cases hs.symm.trans hcall
  | submitted request hcall _ => cases hs.symm.trans hcall
  | collected hcall _ => cases hs.symm.trans hcall
  | abandoned hcall _ _ => cases hs.symm.trans hcall
  | interrupted hcall _ => cases hs.symm.trans hcall

theorem interrupt_finished {s t : Session} {msgId interruptId : String}
    (h : s.step D connection (.interrupt msgId interruptId) = some t) :
    t.call msgId = .finished := by
  cases step_took h with
  | signal hcall hmode | message hcall hmode => simp [setCall]

theorem finished_or_unposted_step {s t : Session} {a : Act} {msgId : String}
    (hs : s.call msgId = .finished ∨ Unposted msgId s)
    (h : s.step D connection a = some t) : t.call msgId = .finished ∨ Unposted msgId t := by
  rcases hs with hfinished | hunposted
  · exact Or.inl (finished_step hfinished h)
  · by_cases hact : ∃ interruptId, a = .interrupt msgId interruptId
    · obtain ⟨interruptId, rfl⟩ := hact
      exact Or.inl (interrupt_finished h)
    · refine Or.inr (unposted_step hunposted (fun _ _ interruptId heq => ?_) h)
      exact hact ⟨interruptId, heq⟩

/-- Abandoning the request does not end in an interrupt by message. -/
structure Harmless (msgId : String) (s : Session) : Prop where
  unposted : Unposted msgId s
  call : s.call msgId = .finished ∨ s.call msgId = .interrupting ∧ s.mode = .signal

theorem harmless_step {s t : Session} {a : Act} {msgId : String} (hs : Harmless msgId s)
    (h : s.step D connection a = some t) : Harmless msgId t := by
  refine ⟨unposted_step hs.unposted (fun hcall hmode => ?_) h, ?_⟩
  · rcases hs.call with hfinished | ⟨-, hsignal⟩
    · cases hfinished.symm.trans hcall
    · cases hsignal.symm.trans hmode
  · rcases hs.call with hfinished | ⟨hinterrupting, hsignal⟩
    · exact Or.inl (finished_step hfinished h)
    · cases step_call h msgId with
      | same heq => exact Or.inr ⟨heq.trans hinterrupting, (step_mode h).trans hsignal⟩
      | registered options hcall _ => cases hinterrupting.symm.trans hcall
      | submitted request hcall _ => cases hinterrupting.symm.trans hcall
      | collected hcall _ => cases hinterrupting.symm.trans hcall
      | abandoned hcall _ _ => cases hinterrupting.symm.trans hcall
      | interrupted _ heq => exact Or.inl heq

/-- The kernel takes interrupts by message and the request is running. -/
def InterruptsByMessage (s : Session) (msgId : String) : Prop :=
  s.mode = .message ∧ ∃ active, s.executionQueue.active = some active ∧ active.msgId = msgId

theorem harmless_abandon {s t : Session} {msgId : String} (hs : Unposted msgId s)
    (hmode : ¬ s.InterruptsByMessage msgId)
    (h : s.step D connection (.abandon msgId) = some t) : Harmless msgId t := by
  refine ⟨unposted_step hs (fun _ _ _ heq => by cases heq) h, ?_⟩
  obtain ⟨-, -, hcall⟩ := step_abandon h
  rw [hcall]
  split
  · rename_i hrunning
    refine Or.inr ⟨rfl, (step_mode h).trans ?_⟩
    cases hcase : s.mode with
    | signal => rfl
    | message => exact absurd ⟨hcase, abandonSection_running hrunning⟩ hmode
  · exact Or.inl rfl

/-- What abandoning the request takes out of the queue, then and later. -/
def SparesOthers (D : Codecs) (connection : KernelConnection) (allowed : Posted → Prop)
    (msgId : String) (s u t : Session) (acts : List Act) : Prop :=
  u.executionQueue.active = s.executionQueue.active ∧
  u.executionQueue.pending =
    s.executionQueue.pending.filter (fun request => request.msgId ≠ msgId) ∧
  ∃ kept new, t.executionQueue.pending = kept ++ new ∧
    Remains (Removed D connection allowed u acts) u.executionQueue.pending kept

/-- Whatever a call abandons, the other requests that are pending stay pending, in
order, until they are released, withdrawn or cancelled by someone else, unless
the kernel takes interrupts by message and the abandoned request is running. -/
theorem run_sparesOthers {s₀ s u t : Session} {before acts : List Act} {msgId : String}
    (hunderway : underway s₀.loop = [])
    (hs : (machine D connection).run s₀ before = some s)
    (habandon : s.step D connection (.abandon msgId) = some u)
    (hrun : (machine D connection).run u acts = some t) :
    SparesOthers D connection
      (fun posted => posted.poster = .abandon msgId → s.InterruptsByMessage msgId)
      msgId s u t acts := by
  obtain ⟨hcall, hqueue, -⟩ := step_abandon habandon
  refine ⟨?_, ?_, run_pending_remains ?_ hrun⟩
  · rw [hqueue, ExecutionQueue.removePending_active]
  · rw [hqueue, ExecutionQueue.removePending_pending]
  · intro as bs v _ hv posted hposted hposter
    by_contra hmode
    have hstart : s₀.call msgId = .finished ∨ Unposted msgId s₀ := by
      refine Or.inr fun posted hmem => ?_
      rw [hunderway] at hmem
      cases hmem
    have hunposted : Unposted msgId s := by
      rcases (machine D connection).run_of_step
        (I := fun s => s.call msgId = .finished ∨ Unposted msgId s)
        (fun _ _ _ => finished_or_unposted_step) hstart hs with hfinished | hunposted
      · cases hfinished.symm.trans hcall
      · exact hunposted
    have hharmless : Harmless msgId v :=
      (machine D connection).run_of_step (fun _ _ _ => harmless_step)
        (harmless_abandon hunposted hmode habandon) hv
    exact hharmless.unposted posted hposted hposter

/-- A request is running and another one waits behind it when its call gives up. -/
def givenUpRunning : List Act :=
  [.register "m" sampleOptions 0, .submit "m", .proxy .receive, .proxy (.queue sampleHost),
    .proxy (.send sampleHost true), .post (ExecutionQueue.sampleRequest "r"),
    .proxy .receive, .proxy (.queue sampleHost), .giveUp "m"]

/-- The kernel is interrupted and the proxy takes the interrupt off the channel. -/
def interruptAfterwards : List Act :=
  [.interrupt "m" "i", .proxy .receive, .proxy (.queue sampleHost)]

/-- A request waits while the one before it is abandoned and signalled. -/
theorem run_sparesOthers_signal :
    ∃ s u t,
      (machine WireMessage.sampleCodecs unsignedConnection).run (sampleSession .signal)
        givenUpRunning = some s ∧
      s.step WireMessage.sampleCodecs unsignedConnection (.abandon "m") = some u ∧
      (machine WireMessage.sampleCodecs unsignedConnection).run u [.interrupt "m" "i"] =
        some t ∧
      t.executionQueue.pending = [ExecutionQueue.sampleRequest "r"] ∧
      SparesOthers WireMessage.sampleCodecs unsignedConnection
        (fun posted => posted.poster = .abandon "m" → s.InterruptsByMessage "m")
        "m" s u t [.interrupt "m" "i"] := by
  obtain ⟨s, u, t, hs, hu, ht, hpending⟩ : ∃ s u t,
      (machine WireMessage.sampleCodecs unsignedConnection).run (sampleSession .signal)
        givenUpRunning = some s ∧
      s.step WireMessage.sampleCodecs unsignedConnection (.abandon "m") = some u ∧
      (machine WireMessage.sampleCodecs unsignedConnection).run u [.interrupt "m" "i"] =
        some t ∧
      t.executionQueue.pending = [ExecutionQueue.sampleRequest "r"] :=
    ⟨_, _, _, rfl, rfl, rfl, rfl⟩
  exact ⟨s, u, t, hs, hu, ht, hpending, run_sparesOthers rfl hs hu ht⟩

/-- A request that waits behind an abandoned one is dropped when the kernel takes
interrupts by message. -/
theorem not_sparesOthers_message :
    ¬ ∀ (D : Codecs) (connection : KernelConnection) (mode : InterruptMode)
      (before acts : List Act) (msgId : String) (s u t : Session),
      (machine D connection).run (sampleSession mode) before = some s →
      s.step D connection (.abandon msgId) = some u →
      (machine D connection).run u acts = some t →
        SparesOthers D connection (fun posted => posted.poster ≠ .abandon msgId)
          msgId s u t acts := by
  intro h
  obtain ⟨s, u, v, t, hs, hu, hv, ht, hwaits, hpc, hgone⟩ : ∃ s u v t,
      (machine WireMessage.sampleCodecs unsignedConnection).run (sampleSession .message)
        givenUpRunning = some s ∧
      s.step WireMessage.sampleCodecs unsignedConnection (.abandon "m") = some u ∧
      (machine WireMessage.sampleCodecs unsignedConnection).run u
        [.interrupt "m" "i", .proxy .receive] = some v ∧
      (machine WireMessage.sampleCodecs unsignedConnection).run u interruptAfterwards =
        some t ∧
      u.executionQueue.pending = [ExecutionQueue.sampleRequest "r"] ∧
      v.loop.pc = .queueing ⟨interruptRequest "i", .abandon "m"⟩ ∧
      t.executionQueue.pending = [] :=
    ⟨_, _, _, _, rfl, rfl, rfl, rfl, rfl, rfl, rfl⟩
  obtain ⟨-, -, kept, new, hkept, hremains⟩ := h _ _ _ _ _ _ s u t hs hu ht
  obtain ⟨rfl, -⟩ := List.append_eq_nil_iff.mp (hkept.symm.trans hgone)
  rw [hwaits] at hremains
  cases hremains with
  | drop hremoved _ =>
      obtain ⟨as, a, bs, w, hacts, hw, hremoves⟩ := hremoved
      have hmem : a ∈ interruptAfterwards := by simp [hacts]
      cases hremoves with
      | cancelled host posted hposted hclears hallowed =>
          -- The proxy is at the queue only with the last of the three actions.
          obtain ⟨has, -⟩ : as = [.interrupt "m" "i", .proxy .receive] ∧
              host = sampleHost ∧ bs = [] := by
            simpa [interruptAfterwards, List.cons_eq_append_iff] using hacts
          rw [has] at hw
          obtain rfl : v = w := Option.some.inj (hv.symm.trans hw)
          cases hpc.symm.trans hposted
          exact hallowed rfl
      | _ => simp [interruptAfterwards] at hmem

end Session

end Kallichore
