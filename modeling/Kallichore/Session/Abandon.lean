import Kallichore.Session.InFlight

/-!
# Abandoning an execution

A call of `execute_collect` that times out or is cancelled abandons its request:
under the lock it withdraws the request if it is pending, and finds out whether
it is the active one, in which case the kernel is interrupted.

The request may also be in a third place, between the channel and the queue or
between the queue and its socket, where `abandon` does not look. If it is there
at that moment it is sent later; if it is not, it is never sent.
-/

namespace Kallichore

namespace Session

open ProxyLoop

variable {D : Codecs} {connection : KernelConnection}

/-- The message the proxy has in hand between the channel and a socket. -/
def inHand : ProxyPc → Option Posted
  | .queueing posted | .sending posted => some posted
  | _ => none

theorem inHand_of_free {pc : ProxyPc} (h : Free pc) : inHand pc = none := by
  cases pc with
  | queueing | sending | updating | dequeuing => exact absurd h id
  | _ => rfl

theorem inHand_afterReceive (posted : Posted) : inHand (afterReceive posted) = some posted := by
  rcases afterReceive_eq posted with heq | heq
  all_goals
    rw [heq]
    rfl

theorem inHand_afterDecode (message : JupyterMessage) : inHand (afterDecode message) = none := by
  unfold afterDecode
  split
  · rfl
  · exact inHand_of_free (free_afterQueue message)

theorem inHand_afterUpdate (message : JupyterMessage) (executionState : ExecutionState) :
    inHand (afterUpdate message executionState) = none := by
  cases executionState with
  | busy => exact inHand_of_free (free_afterQueue message)
  | idle => rfl

/-- A message in the proxy's hand was there before or comes from the channel. -/
theorem inHand_change {w t : ProxyLoop} {a : ProxyLoop.Act}
    (h : ProxyLoop.Change D connection w t a) {posted : Posted}
    (hposted : inHand t.pc = some posted) :
    inHand w.pc = some posted ∨ a = .receive ∧ ∃ rest, w.wsZmq = posted :: rest := by
  have hnone : ∀ pc : ProxyPc, inHand pc = none → t.pc ≠ pc := by
    rintro pc hpc rfl
    rw [hpc] at hposted
    cases hposted
  have hfree : ¬ Free t.pc := fun hfree => hnone t.pc (inHand_of_free hfree) rfl
  have hheld : ∀ held, inHand w.pc = some held → inHand t.pc = some held →
      inHand w.pc = some posted := by
    intro held hw ht
    rw [hw, ← ht, hposted]
  cases h with
  | received held rest hpc hchannel hchannel' hqueue hpc' hlog =>
      rw [hpc', inHand_afterReceive] at hposted
      cases hposted
      exact Or.inr ⟨rfl, rest, hchannel⟩
  | admitted host held hpc hmsg hactive hqueue hchannel hpc' hlog =>
      exact Or.inl (hheld held (by rw [hpc]; rfl) (by rw [hpc']; rfl))
  | queued host held active hpc hmsg hactive hqueue hchannel hpc' hlog =>
      exact absurd hpc' (hnone _ rfl)
  | cleared host held hpc hmsg hqueue hchannel hpc' hlog =>
      exact Or.inl (hheld held (by rw [hpc]; rfl) (by rw [hpc']; rfl))
  | passed host held hpc hmsg hqueue hchannel hpc' hlog =>
      exact Or.inl (hheld held (by rw [hpc]; rfl) (by rw [hpc']; rfl))
  | sent host accepted held frames hpc hqueue hchannel hpc' hlog =>
      exact absurd hpc' (hnone _ rfl)
  | decoded a message hpc hmessage hqueue hchannel hpc' hlog =>
      exact absurd hpc' (hnone _ (inHand_afterDecode message))
  | updated host message executionState hpc hqueue hchannel hpc' hlog =>
      exact absurd hpc' (hnone _ (inHand_afterUpdate message executionState))
  | unsent host accepted held hpc hqueue hchannel hpc' hlog => exact absurd hpc' hfree
  | discarded a hpc hqueue hchannel hpc' hlog => exact absurd hpc' hfree
  | drained host accepted message hpc hpending hqueue hchannel hpc' hlog =>
      exact absurd hpc' hfree
  | released host accepted message request rest frames hpc hpending hqueue hchannel hpc'
      hlog => exact absurd hpc' hfree
  | lost host accepted message request rest hpc hpending hqueue hchannel hpc' hlog =>
      exact absurd hpc' hfree
  | moved a hpc hqueue hchannel hpc' hlog => exact absurd hpc' hfree

/-- The messages on their way to the queue or past it: on the channel and in the
proxy's hand. -/
def underway (w : ProxyLoop) : List Posted := (inHand w.pc).toList ++ w.wsZmq

theorem underway_change {w t : ProxyLoop} {a : ProxyLoop.Act}
    (h : ProxyLoop.Change D connection w t a) : ∀ posted ∈ underway t, posted ∈ underway w := by
  have hfree : ∀ pc : ProxyPc, inHand pc = none → t.pc = pc → t.wsZmq = w.wsZmq →
      ∀ posted ∈ underway t, posted ∈ underway w := by
    intro pc hnone hpc hchannel posted hposted
    rw [underway, hpc, hnone, hchannel] at hposted
    exact List.mem_append_right _ hposted
  have hheld : ∀ held, inHand w.pc = some held → inHand t.pc = some held →
      t.wsZmq = w.wsZmq → ∀ posted ∈ underway t, posted ∈ underway w := by
    intro held hw ht hchannel posted hposted
    rw [underway, ht, hchannel, ← hw] at hposted
    exact hposted
  cases h with
  | received posted rest hpc hchannel hchannel' hqueue hpc' hlog =>
      intro other hother
      rw [underway, hpc', inHand_afterReceive, hchannel'] at hother
      rw [underway, hchannel]
      exact List.mem_append_right _ hother
  | admitted host posted hpc hmsg hactive hqueue hchannel hpc' hlog =>
      exact hheld posted (by rw [hpc]; rfl) (by rw [hpc']; rfl) hchannel
  | queued host posted active hpc hmsg hactive hqueue hchannel hpc' hlog =>
      exact hfree .listening rfl hpc' hchannel
  | cleared host posted hpc hmsg hqueue hchannel hpc' hlog =>
      exact hheld posted (by rw [hpc]; rfl) (by rw [hpc']; rfl) hchannel
  | passed host posted hpc hmsg hqueue hchannel hpc' hlog =>
      exact hheld posted (by rw [hpc]; rfl) (by rw [hpc']; rfl) hchannel
  | sent host accepted posted frames hpc hqueue hchannel hpc' hlog =>
      exact hfree .listening rfl hpc' hchannel
  | unsent host accepted posted hpc hqueue hchannel hpc' hlog =>
      exact hfree t.pc (inHand_of_free hpc') rfl hchannel
  | decoded a message hpc hmessage hqueue hchannel hpc' hlog =>
      exact hfree _ (inHand_afterDecode message) hpc' hchannel
  | discarded a hpc hqueue hchannel hpc' hlog =>
      exact hfree t.pc (inHand_of_free hpc') rfl hchannel
  | updated host message executionState hpc hqueue hchannel hpc' hlog =>
      exact hfree _ (inHand_afterUpdate message executionState) hpc' hchannel
  | drained host accepted message hpc hpending hqueue hchannel hpc' hlog =>
      exact hfree t.pc (inHand_of_free hpc') rfl hchannel
  | released host accepted message request rest frames hpc hpending hqueue hchannel hpc'
      hlog =>
      exact hfree t.pc (inHand_of_free hpc') rfl hchannel
  | lost host accepted message request rest hpc hpending hqueue hchannel hpc' hlog =>
      exact hfree t.pc (inHand_of_free hpc') rfl hchannel
  | moved a hpc hqueue hchannel hpc' hlog =>
      exact hfree t.pc (inHand_of_free hpc') rfl hchannel

/-- In one step of the session at most one message is put on the channel. -/
theorem underway_step {s t : Session} {a : Act} (h : s.step D connection a = some t) :
    ∀ posted ∈ underway t.loop, posted ∈ underway s.loop ∨ s.Posts posted a := by
  intro posted hposted
  have hsame : t.loop.pc = s.loop.pc → t.loop.wsZmq = s.loop.wsZmq →
      posted ∈ underway s.loop := by
    intro hpc hchannel
    rw [underway, hpc, hchannel] at hposted
    exact hposted
  cases step_change h with
  | proxy a hloop => exact Or.inl (underway_change hloop posted hposted)
  | posted a new hnew hloop =>
      obtain ⟨-, hchannel, hpc, -⟩ := hloop
      rw [underway, hpc, hchannel] at hposted
      simp only [List.mem_append, List.mem_singleton] at hposted
      rcases hposted with hheld | hold | rfl
      · exact Or.inl (List.mem_append_left _ hheld)
      · exact Or.inl (List.mem_append_right _ hold)
      · exact Or.inr hnew
  | withdrawn msgId hcall hqueue hchannel hpc hlog => exact Or.inl (hsame hpc hchannel)
  | cleared a hact hqueue hchannel hpc hlog => exact Or.inl (hsame hpc hchannel)
  | other a hloop => exact Or.inl (hsame hloop.pc hloop.channel)

/-- The event hands a message with this ID to a socket. -/
def Sends (msgId : String) : ProxyEvent → Prop
  | .out (.socket _ msg _) => msg.msgId = msgId
  | _ => False

/-- The request is nowhere it could still be sent from. -/
structure Gone (msgId : String) (w : ProxyLoop) : Prop where
  underway : ∀ posted ∈ underway w, posted.msg.msgId ≠ msgId
  pending : ∀ msg ∈ w.executionQueue.pending, msg.msgId ≠ msgId

theorem pending_change {w t : ProxyLoop} {a : ProxyLoop.Act} {msgId : String}
    (hgone : Gone msgId w) (h : ProxyLoop.Change D connection w t a) :
    ∀ msg ∈ t.executionQueue.pending, msg.msgId ≠ msgId := by
  cases h.pending with
  | same a hpending =>
      rw [hpending]
      exact hgone.pending
  | queued host posted hpc hpending =>
      intro msg hmem
      rw [hpending] at hmem
      rcases List.mem_append.mp hmem with hold | hnew
      · exact hgone.pending msg hold
      · rw [List.mem_singleton.mp hnew]
        exact hgone.underway posted (by simp [underway, hpc, inHand])
  | cancelled host posted hpc hclears hpending => simp [hpending]
  | released host accepted request hpending =>
      intro msg hmem
      exact hgone.pending msg (hpending ▸ List.mem_cons_of_mem _ hmem)

theorem log_change {w t : ProxyLoop} {a : ProxyLoop.Act} {msgId : String}
    (hgone : Gone msgId w) (h : ProxyLoop.Change D connection w t a) :
    ∀ event ∈ t.log, event ∈ w.log ∨ ¬ Sends msgId event := by
  intro event hevent
  match event with
  | .decoded _ => exact Or.inr id
  | .out (.websocket _) => exact Or.inr id
  | .out (.rpc _ _) => exact Or.inr id
  | .out (.socket channel msg frames) =>
      rcases h.of_sent hevent with hold | ⟨posted, hpc, rfl⟩ | ⟨rest, hpending⟩
      · exact Or.inl hold
      · exact Or.inr (hgone.underway posted (by simp [underway, hpc, inHand]))
      · exact Or.inr (hgone.pending msg (by simp [hpending]))

/-! ## The calls -/

/-- A registered call is about to post the request of its own ID. -/
def OwnRequests (s : Session) : Prop :=
  ∀ msgId request, s.call msgId = .registered request → request.msgId = msgId

theorem ownRequests_step {s t : Session} {a : Act} (hs : s.OwnRequests)
    (h : s.step D connection a = some t) : t.OwnRequests := by
  intro msgId request hcall
  cases step_call h msgId with
  | same heq => exact hs msgId request (heq ▸ hcall)
  | registered options _ heq =>
      rw [heq] at hcall
      cases hcall
      rfl
  | submitted own _ heq =>
      rw [heq] at hcall
      cases hcall
  | collected _ heq =>
      rcases heq with heq | heq
      all_goals
        rw [heq] at hcall
        cases hcall
  | abandoned _ _ heq =>
      rw [heq] at hcall
      split at hcall <;> cases hcall
  | interrupted _ heq =>
      rw [heq] at hcall
      cases hcall

def Abandoned (s : Session) (msgId : String) : Prop :=
  s.call msgId = .interrupting ∨ s.call msgId = .finished

theorem abandoned_step {s t : Session} {a : Act} {msgId : String} (hs : s.Abandoned msgId)
    (h : s.step D connection a = some t) : t.Abandoned msgId := by
  have hne : ∀ phase, s.call msgId = phase → phase = .interrupting ∨ phase = .finished := by
    rintro phase rfl
    exact hs
  cases step_call h msgId with
  | same heq =>
      rw [Abandoned, heq]
      exact hs
  | registered options hcall _ => simpa using hne _ hcall
  | submitted request hcall _ => simpa using hne _ hcall
  | collected hcall _ => simpa using hne _ hcall
  | abandoned hcall _ _ => simpa using hne _ hcall
  | interrupted _ heq => exact Or.inr heq

/-- The IDs that clients and interrupts use are not those of calls of
`execute_collect`, which are made up at random. -/
def DistinctIds (s : Session) : Act → Prop
  | .post msg => s.call msg.msgId = .absent
  | .interrupt _ interruptId => s.call interruptId = .absent
  | _ => True

/-- Nothing is posted under the ID of a call that has abandoned its request. -/
theorem posts_ne_of_abandoned {s : Session} {a : Act} {msgId : String} {posted : Posted}
    (hown : s.OwnRequests) (habandoned : s.Abandoned msgId) (hids : s.DistinctIds a)
    (h : s.Posts posted a) : posted.msg.msgId ≠ msgId := by
  rintro rfl
  have hne : ∀ phase, s.call posted.msg.msgId = phase →
      phase = .interrupting ∨ phase = .finished := by
    rintro phase rfl
    exact habandoned
  cases a with
  | post msg =>
      obtain rfl := h
      simpa using hne _ hids
  | submit own =>
      obtain ⟨request, hcall, rfl⟩ := h
      rw [hown own request hcall] at hne
      simpa using hne _ hcall
  | interrupt own interruptId =>
      obtain ⟨-, -, rfl⟩ := h
      simpa using hne _ hids
  | _ => exact h.elim

/-! ## An abandoned request is not sent -/

/-- An abandoned request that is gone and was never sent. -/
structure Unsent (msgId : String) (s : Session) : Prop where
  own : s.OwnRequests
  abandoned : s.Abandoned msgId
  gone : Gone msgId s.loop
  log : ∀ event ∈ s.loop.log, ¬ Sends msgId event

theorem unsent_step {s t : Session} {a : Act} {msgId : String} (hs : Unsent msgId s)
    (hids : s.DistinctIds a) (h : s.step D connection a = some t) : Unsent msgId t := by
  have hunderway : ∀ posted ∈ underway t.loop, posted.msg.msgId ≠ msgId := by
    intro posted hposted
    rcases underway_step h posted hposted with hold | hnew
    · exact hs.gone.underway posted hold
    · exact posts_ne_of_abandoned hs.own hs.abandoned hids hnew
  have hlog : ∀ event ∈ t.loop.log, event ∈ s.loop.log ∨ ¬ Sends msgId event := by
    cases step_change h with
    | proxy a hloop => exact log_change hs.gone hloop
    | posted a posted hposted hloop => exact fun event hevent => Or.inl (hloop.log ▸ hevent)
    | withdrawn own hcall hqueue hchannel hpc hlog =>
        exact fun event hevent => Or.inl (hlog ▸ hevent)
    | cleared a hact hqueue hchannel hpc hlog =>
        exact fun event hevent => Or.inl (hlog ▸ hevent)
    | other a hloop => exact fun event hevent => Or.inl (hloop.log ▸ hevent)
  have hpending : ∀ msg ∈ t.loop.executionQueue.pending, msg.msgId ≠ msgId := by
    cases step_change h with
    | proxy a hloop => exact pending_change hs.gone hloop
    | posted a posted hposted hloop =>
        rw [hloop.queue]
        exact hs.gone.pending
    | withdrawn own hcall hqueue hchannel hpc hlog =>
        change ∀ msg ∈ t.executionQueue.pending, _
        rw [hqueue, ExecutionQueue.removePending_pending]
        exact fun msg hmem => hs.gone.pending msg (List.mem_of_mem_filter hmem)
    | cleared a hact hqueue hchannel hpc hlog =>
        change ∀ msg ∈ t.executionQueue.pending, _
        rw [hqueue]
        simp
    | other a hloop =>
        rw [hloop.queue]
        exact hs.gone.pending
  refine ⟨ownRequests_step hs.own h, abandoned_step hs.abandoned h, ⟨hunderway, hpending⟩, ?_⟩
  intro event hevent
  rcases hlog event hevent with hold | hnew
  · exact hs.log event hold
  · exact hnew

/-- When a call abandons its request, the request is not on its way: neither on
the channel nor in the proxy's hand. -/
def Settled (s : Session) : Act → Prop
  | .abandon msgId => ∀ posted ∈ underway s.loop, posted.msg.msgId ≠ msgId
  | _ => True

theorem unsent_abandon {s t : Session} {msgId : String} (hown : s.OwnRequests)
    (hsettled : s.Settled (.abandon msgId)) (h : s.step D connection (.abandon msgId) = some t)
    (hlog : ∀ event ∈ t.loop.log, ¬ Sends msgId event) : Unsent msgId t := by
  have hunderway : ∀ posted ∈ underway t.loop, posted.msg.msgId ≠ msgId := by
    intro posted hposted
    rcases underway_step h posted hposted with hold | hnew
    · exact hsettled posted hold
    · exact hnew.elim
  obtain ⟨-, hqueue, hcall⟩ := step_abandon h
  have hpending : ∀ msg ∈ t.executionQueue.pending, msg.msgId ≠ msgId := by
    rw [hqueue, ExecutionQueue.removePending_pending]
    exact fun msg hmem => by simpa using List.of_mem_filter hmem
  have habandoned : t.Abandoned msgId := by
    rw [Abandoned, hcall]
    split
    · exact Or.inl rfl
    · exact Or.inr rfl
  exact ⟨ownRequests_step hown h, habandoned, ⟨hunderway, hpending⟩, hlog⟩

/-- Along the run, a request that had not been sent when it was abandoned is not
sent afterwards. -/
def NeverSent (D : Codecs) (connection : KernelConnection) (s t : Session)
    (acts : List Act) : Prop :=
  ∀ as bs msgId u, acts = as ++ [.abandon msgId] ++ bs →
    (machine D connection).run s (as ++ [.abandon msgId]) = some u →
    (∀ event ∈ u.loop.log, ¬ Sends msgId event) → ∀ event ∈ t.loop.log, ¬ Sends msgId event

theorem run_ownRequests {s t : Session} {acts : List Act} (hs : s.OwnRequests)
    (hrun : (machine D connection).run s acts = some t) : t.OwnRequests := by
  exact (machine D connection).run_of_step (fun _ _ _ hu h => ownRequests_step hu h) hs hrun

/-- In every run in which requests are abandoned only when they are not on their
way, an abandoned request is not sent. -/
theorem run_neverSent {s t : Session} {acts : List Act}
    (hcalls : ∀ msgId, s.call msgId = .absent)
    (hids : (machine D connection).Meets DistinctIds s acts)
    (hsettled : (machine D connection).Meets Settled s acts)
    (hrun : (machine D connection).run s acts = some t) :
    NeverSent D connection s t acts := by
  intro as bs msgId u heq hu hlog
  have hown : s.OwnRequests := by
    intro id request hcall
    rw [hcalls] at hcall
    cases hcall
  obtain ⟨v, hv, hstep⟩ := ((machine D connection).run_append_eq_some_iff s u as _).mp hu
  have habandon : v.step D connection (.abandon msgId) = some u := by
    simpa [Machine.run, machine] using hstep
  have hsettledV : v.Settled (.abandon msgId) := by
    rw [Machine.meets_iff_forall_append] at hsettled
    exact hsettled as (.abandon msgId) bs v (by simp [heq]) hv
  have hunsent : Unsent msgId u :=
    unsent_abandon (run_ownRequests hown hv) hsettledV habandon hlog
  have hidsBs : (machine D connection).Meets DistinctIds u bs := by
    have hlist : acts = (as ++ [Act.abandon msgId]) ++ bs ++ [] := by simp [heq]
    exact Machine.Meets.segment _ (hlist ▸ hids) hu
  have hrest : (machine D connection).run u bs = some t := by
    rw [heq] at hrun
    obtain ⟨u', hu', hrest⟩ := ((machine D connection).run_append_eq_some_iff s t _ bs).mp hrun
    obtain rfl : u = u' := Option.some.inj (hu.symm.trans hu')
    exact hrest
  exact ((machine D connection).run_invariant (I := Unsent msgId)
    (fun _ _ _ hs ha h => unsent_step hs ha h) hunsent hidsBs hrest).log

/-! ## A request on its way -/

def sampleOptions : ExecuteOptions where
  code := "1"
  silent := false
  storeHistory := true
  stopOnError := true
  attribution := none

/-- A request waits behind another one when its call gives up. -/
def givenUpPending : List Act :=
  [.post (ExecutionQueue.sampleRequest "r"), .proxy .receive, .proxy (.queue sampleHost),
    .proxy (.send sampleHost true), .register "m" sampleOptions 0, .submit "m",
    .proxy .receive, .proxy (.queue sampleHost), .giveUp "m"]

/-- A request is on the channel when its call gives up. -/
def givenUpUnderway : List Act :=
  [.register "m" sampleOptions 0, .submit "m", .giveUp "m"]

theorem run_givenUpPending (D : Codecs) (mode : InterruptMode) :
    ∃ t, (machine D unsignedConnection).run (sampleSession mode) givenUpPending = some t ∧
      t.call "m" = .gaveUp ∧ underway t.loop = [] :=
  ⟨_, rfl, rfl, rfl⟩

/-- A request that is withdrawn while it is pending is not sent. -/
theorem run_neverSent_pending :
    ∃ t, (machine WireMessage.sampleCodecs unsignedConnection).run (sampleSession .signal)
        (givenUpPending ++ [.abandon "m"]) = some t ∧
      NeverSent WireMessage.sampleCodecs unsignedConnection (sampleSession .signal) t
        (givenUpPending ++ [.abandon "m"]) := by
  obtain ⟨s, hs, hcall, hunderway⟩ := run_givenUpPending WireMessage.sampleCodecs .signal
  obtain ⟨t, ht⟩ : ∃ t, (machine WireMessage.sampleCodecs unsignedConnection).run s
      [.abandon "m"] = some t := by
    simp [Machine.run, machine, step, hcall]
  have hrun := (Machine.run_append_eq_some_iff _ _ _ _ _).mpr ⟨s, hs, ht⟩
  refine ⟨t, hrun, run_neverSent (fun _ => rfl) ?_ ?_ hrun⟩
  · refine ⟨rfl, fun u _ => Machine.meets_of_forall _ u ?_⟩
    simp [DistinctIds]
  · refine Machine.meets_append _ hs (Machine.meets_of_forall _ _ ?_) ⟨?_, fun _ _ => trivial⟩
    · simp [givenUpPending, Settled]
    · simp [Settled, hunderway]

/-- A request on the channel is not withdrawn, and the proxy sends it after its
call has returned. -/
theorem not_neverSent_underway :
    ¬ ∀ (D : Codecs) (connection : KernelConnection) (mode : InterruptMode)
      (acts : List Act) (t : Session),
      (machine D connection).Meets DistinctIds (sampleSession mode) acts →
      (machine D connection).run (sampleSession mode) acts = some t →
        NeverSent D connection (sampleSession mode) t acts := by
  intro h
  obtain ⟨u, t, frames, hu, hrest, hlog, hlog'⟩ : ∃ u t frames,
      (machine WireMessage.sampleCodecs unsignedConnection).run (sampleSession .signal)
        (givenUpUnderway ++ [Act.abandon "m"]) = some u ∧
      (machine WireMessage.sampleCodecs unsignedConnection).run u
        [.proxy .receive, .proxy (.queue sampleHost), .proxy (.send sampleHost true)] =
          some t ∧
      u.loop.log = [] ∧
      t.loop.log = [.out (.socket .shell (collectRequest "m" sampleOptions) frames)] :=
    ⟨_, _, _, rfl, rfl, rfl, rfl⟩
  have hrun := (Machine.run_append_eq_some_iff _ _ _ _ _).mpr ⟨u, hu, hrest⟩
  have hids : (machine WireMessage.sampleCodecs unsignedConnection).Meets DistinctIds
      (sampleSession .signal) (givenUpUnderway ++ [Act.abandon "m"] ++ [Act.proxy .receive,
        .proxy (.queue sampleHost), .proxy (.send sampleHost true)]) := by
    apply Machine.meets_of_forall _ _
    simp [givenUpUnderway, DistinctIds]
  have hhere := h _ _ _ _ t hids hrun givenUpUnderway _ "m" u rfl hu (by simp [hlog])
  exact hhere (.out (.socket .shell (collectRequest "m" sampleOptions) frames))
    (by simp [hlog']) rfl

end Session

end Kallichore
