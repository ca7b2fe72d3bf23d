import Kallichore.Workspaces.Focus

/-!
# No call is stranded

A call that waits for a reply relies on its entry among the pending requests: the
reply finds it there by its ID, and the window's detach finds it there by the
generation that serves it. `Brokered` is that reliance as an invariant of the
record and its calls. Operations on the record keep it if they account for every
entry they remove (`Operates`); `detach_channel` is a sequence of such operations,
during which the requests it has yet to move are served by a window that is gone.
-/

namespace Kallichore

open WindowEvent

namespace Effect

/-- The effect ends the wait of this call. -/
def Settles : Effect → ℕ → Prop
  | replied call _, c => call = c
  | dropped call, c => call = c
  | _, _ => False

end Effect

namespace CommandPhase

def request? : CommandPhase → Option CommandRequest
  | idle => none
  | connecting request | waiting request | expired request | replied request _
  | disconnected request | timedOut request => some request

section Hear

variable {c : ℕ}

theorem hear_of_not_waiting {phase : CommandPhase} (effects : List Effect)
    (h : ∀ request, phase ≠ waiting request) : phase.hear c effects = phase := by
  have hreceive : ∀ reply, phase.receive reply = phase := by
    intro reply
    cases phase <;> first | rfl | exact absurd rfl (h _)
  have hdisconnect : phase.disconnect = phase := by
    cases phase <;> first | rfl | exact absurd rfl (h _)
  induction effects with
  | nil => rfl
  | cons e effects ih => cases e <;> simpa [hear, hreceive, hdisconnect] using ih

theorem hear_waiting_cases (request : CommandRequest) (effects : List Effect) :
    ((waiting request).hear c effects = waiting request ∧ ∀ e ∈ effects, ¬e.Settles c) ∨
    ((waiting request).hear c effects = disconnected request ∧ .dropped c ∈ effects) ∨
    ∃ reply, (waiting request).hear c effects = replied request reply ∧
      .replied c reply ∈ effects := by
  induction effects with
  | nil => exact Or.inl ⟨rfl, by simp⟩
  | cons e effects ih =>
      by_cases he : e.Settles c
      · cases e with
        | sent => cases he
        | cancelled => cases he
        | replied call reply =>
            cases he
            refine Or.inr (Or.inr ⟨reply, ?_, List.mem_cons_self⟩)
            rw [hear, if_pos rfl]
            exact hear_of_not_waiting effects (by simp [receive])
        | dropped call =>
            cases he
            refine Or.inr (Or.inl ⟨?_, List.mem_cons_self⟩)
            rw [hear, if_pos rfl]
            exact hear_of_not_waiting effects (by simp [disconnect])
      · have hskip : (waiting request).hear c (e :: effects) =
            (waiting request).hear c effects := by
          cases e with
          | sent => rfl
          | cancelled => rfl
          | replied call reply =>
              have hne : call ≠ c := he
              rw [hear, if_neg hne]
          | dropped call =>
              have hne : call ≠ c := he
              rw [hear, if_neg hne]
        rw [hskip]
        obtain ⟨h, hspared⟩ | ⟨h, hmem⟩ | ⟨reply, h, hmem⟩ := ih
        · exact Or.inl ⟨h, List.forall_mem_cons.mpr ⟨he, hspared⟩⟩
        · exact Or.inr (Or.inl ⟨h, List.mem_cons_of_mem _ hmem⟩)
        · exact Or.inr (Or.inr ⟨reply, h, List.mem_cons_of_mem _ hmem⟩)

theorem hear_cases (phase : CommandPhase) (effects : List Effect) :
    phase.hear c effects = phase ∨
    ∃ request, phase = waiting request ∧
      ((phase.hear c effects = disconnected request ∧ .dropped c ∈ effects) ∨
        ∃ reply, phase.hear c effects = replied request reply ∧ .replied c reply ∈ effects) := by
  cases phase with
  | waiting request =>
      obtain ⟨h, -⟩ | h := hear_waiting_cases request effects
      · exact Or.inl h
      · exact Or.inr ⟨request, rfl, h⟩
  | _ => exact Or.inl (hear_of_not_waiting effects (by simp))

theorem hear_of_spared {phase : CommandPhase} {effects : List Effect}
    (h : ∀ e ∈ effects, ¬e.Settles c) : phase.hear c effects = phase := by
  obtain hsame | ⟨_, _, ⟨-, hmem⟩ | ⟨reply, -, hmem⟩⟩ := hear_cases phase effects
  · exact hsame
  · exact absurd rfl (h _ hmem)
  · exact absurd rfl (h _ hmem)

theorem of_hear_eq_waiting {phase : CommandPhase} {effects : List Effect}
    {request : CommandRequest} (h : phase.hear c effects = waiting request) :
    phase = waiting request ∧ ∀ e ∈ effects, ¬e.Settles c := by
  cases phase with
  | waiting r =>
      obtain ⟨hsame, hspared⟩ | ⟨hend, -⟩ | ⟨reply, hend, -⟩ := hear_waiting_cases r effects
      · exact ⟨hsame.symm.trans h, hspared⟩
      · cases hend.symm.trans h
      · cases hend.symm.trans h
  | _ =>
      rw [hear_of_not_waiting effects (by simp)] at h
      cases h

theorem hear_append (phase : CommandPhase) (effects more : List Effect) :
    phase.hear c (effects ++ more) = (phase.hear c effects).hear c more := by
  induction effects generalizing phase with
  | nil => rfl
  | cons e effects ih => cases e <;> exact ih _

theorem request?_hear (phase : CommandPhase) (effects : List Effect) :
    (phase.hear c effects).request? = phase.request? := by
  obtain h | ⟨request, rfl, ⟨h, -⟩ | ⟨reply, h, -⟩⟩ := hear_cases phase effects
  · rw [h]
  · rw [h]
    rfl
  · rw [h]
    rfl

end Hear

end CommandPhase

/-- The entries after an operation were there before; those served by another
channel now were sent to it by the operation. -/
def Carried (w v : Workspace) (effects : List Effect) : Prop :=
  ∀ id q, v.pending.lookup id = some q → w.pending.lookup id = some q ∨
    ∃ p window, w.pending.lookup id = some p ∧ q = { p with servedBy := q.servedBy } ∧
      .sent q.servedBy window (.commandRequest q.request) ∈ effects

namespace Carried

theorem refl_of_pending {w v : Workspace} (h : v.pending = w.pending) (effects : List Effect) :
    Carried w v effects := by
  intro id q hq
  rw [h] at hq
  exact Or.inl hq

theorem erase {w v : Workspace} {key : String} (h : v.pending = w.pending.erase key)
    (effects : List Effect) : Carried w v effects := by
  intro id q hq
  rw [h] at hq
  by_cases hid : id = key
  · rw [hid, AList.lookup_erase] at hq
    cases hq
  · rw [AList.lookup_erase_ne hid] at hq
    exact Or.inl hq

theorem trans {w v u : Workspace} {effects more : List Effect} (h : Carried w v effects)
    (h' : Carried v u more) : Carried w u (effects ++ more) := by
  intro id q hq
  obtain hv | ⟨p, window, hp, hqp, hsent⟩ := h' id q hq
  · obtain hw | ⟨p, window, hp, hqp, hsent⟩ := h id q hv
    · exact Or.inl hw
    · exact Or.inr ⟨p, window, hp, hqp, List.mem_append_left _ hsent⟩
  · obtain hw | ⟨p', window', hp', hpp', hsent'⟩ := h id p hp
    · exact Or.inr ⟨p, window, hw, hqp, List.mem_append_right _ hsent⟩
    · refine Or.inr ⟨p', window, hp', ?_, List.mem_append_right _ hsent⟩
      rw [hqp, hpp']

theorem same {w v : Workspace} {effects : List Effect} (h : Carried w v effects) {id : String}
    {q : Pending} (hq : v.pending.lookup id = some q) :
    ∃ p, w.pending.lookup id = some p ∧ q.request = p.request ∧ q.reply = p.reply := by
  obtain hw | ⟨p, _, hp, hqp, -⟩ := h id q hq
  · exact ⟨q, hw, rfl, rfl⟩
  · exact ⟨p, hp, by rw [hqp], by rw [hqp]⟩

end Carried

namespace Broker

@[simp] theorem workspace_after (b : Broker) (events : List WindowEvent)
    (result : Workspace × List Effect) : (b.after events result).workspace = result.1 := rfl

theorem calls_after (b : Broker) (events : List WindowEvent)
    (result : Workspace × List Effect) (c : ℕ) :
    (b.after events result).calls c = (b.calls c).hear c result.2 := rfl

@[simp] theorem calls_setCall_self (b : Broker) (c : ℕ) (phase : CommandPhase) :
    (b.setCall c phase).calls c = phase := Function.update_self _ _ _

theorem calls_setCall_of_ne (b : Broker) {c d : ℕ} (phase : CommandPhase) (h : d ≠ c) :
    (b.setCall c phase).calls d = b.calls d := Function.update_of_ne h _ _

theorem after_after (b : Broker) (events later : List WindowEvent) (w v : Workspace)
    (effects more : List Effect) :
    (b.after events (w, effects)).after later (v, more) =
      b.after (later ++ events) (v, effects ++ more) := by
  simp [after, CommandPhase.hear_append]

/-- Every call that waits for a reply is looked after. The requests in `moving`
are served by a window that is being detached. -/
structure Brokered (moving : List String) (b : Broker) : Prop where
  kept : Kept b
  key : ∀ id p, b.workspace.pending.lookup id = some p → p.request.id = id
  sent : ∀ id p, b.workspace.pending.lookup id = some p →
    ∃ window, .sent p.servedBy window (.commandRequest p.request) ∈ b.effects
  attached : ∀ id p, b.workspace.pending.lookup id = some p →
    attachedIn b.history p.servedBy = true ∨ id ∈ moving
  caller : ∀ id p, b.workspace.pending.lookup id = some p →
    b.calls p.reply = .waiting p.request ∨ b.calls p.reply = .expired p.request
  /-- A call that waits has an entry. -/
  waiting : ∀ c request, b.calls c = .waiting request →
    ∃ p, b.workspace.pending.lookup request.id = some p ∧ p.reply = c ∧ p.request = request
  replied : ∀ c request reply, b.calls c = .replied request reply → reply.id = request.id
  ids : ∀ c request, (b.calls c).request? = some request → request.id ∈ b.requestIds
  distinct : ∀ c d r r', (b.calls c).request? = some r → (b.calls d).request? = some r' →
    r.id = r'.id → c = d

/-- The operation on the record accounts for the entries it removes and no
others. -/
structure Operates (b : Broker) (moving : List String) (events : List WindowEvent)
    (v : Workspace) (effects : List Effect) : Prop where
  mirrors : Mirrors (events ++ b.history) v
  carried : Carried b.workspace v effects
  attached : ∀ id q, v.pending.lookup id = some q →
    attachedIn (events ++ b.history) q.servedBy = true ∨ id ∈ moving
  removed : ∀ id p, b.workspace.pending.lookup id = some p → v.pending.lookup id = none →
    ∃ e ∈ effects, e.Settles p.reply
  spared : ∀ id q, v.pending.lookup id = some q → ∀ e ∈ effects, ¬e.Settles q.reply
  replies : ∀ c reply, .replied c reply ∈ effects →
    ∃ p, b.workspace.pending.lookup reply.id = some p ∧ p.reply = c

namespace Brokered

variable {b : Broker} {moving moving' : List String}

theorem request?_caller (hb : Brokered moving b) {id : String} {p : Pending}
    (hp : b.workspace.pending.lookup id = some p) :
    (b.calls p.reply).request? = some p.request := by
  obtain h | h := hb.caller id p hp
  · rw [h]
    rfl
  · rw [h]
    rfl

theorem eq_of_reply_eq (hb : Brokered moving b) {id id' : String} {p q : Pending}
    (hp : b.workspace.pending.lookup id = some p) (hq : b.workspace.pending.lookup id' = some q)
    (h : p.reply = q.reply) : id = id' := by
  have hrequest := hb.request?_caller hp
  rw [h, hb.request?_caller hq] at hrequest
  rw [← hb.key id p hp, ← hb.key id' q hq, Option.some.inj hrequest]

/-- An operation that accounts for what it removes leaves every waiting call
looked after. -/
theorem after (hb : Brokered moving b) {events : List WindowEvent} {v : Workspace}
    {effects : List Effect} (h : Operates b moving' events v effects) :
    Brokered moving' (b.after events (v, effects)) where
  kept := h.mirrors
  key id q hq := by
    obtain ⟨p, hp, hreq, -⟩ := h.carried.same hq
    rw [hreq]
    exact hb.key id p hp
  sent id q hq := by
    obtain hp | ⟨p, window, hp, -, hsent⟩ := h.carried id q hq
    · obtain ⟨window, hsent⟩ := hb.sent id q hp
      exact ⟨window, List.mem_append_left _ hsent⟩
    · exact ⟨window, List.mem_append_right _ hsent⟩
  attached := h.attached
  caller id q hq := by
    obtain ⟨p, hp, hreq, hreply⟩ := h.carried.same hq
    change (b.calls q.reply).hear q.reply effects = _ ∨ (b.calls q.reply).hear q.reply effects = _
    rw [CommandPhase.hear_of_spared (h.spared id q hq), hreply, hreq]
    exact hb.caller id p hp
  waiting c request hc := by
    obtain ⟨hwaiting, hspared⟩ := CommandPhase.of_hear_eq_waiting hc
    obtain ⟨p, hp, rfl, rfl⟩ := hb.waiting c request hwaiting
    cases hv : v.pending.lookup p.request.id with
    | none =>
        obtain ⟨e, he, hsettles⟩ := h.removed _ p hp hv
        exact absurd hsettles (hspared e he)
    | some q =>
        obtain ⟨p', hp', hreq, hreply⟩ := h.carried.same hv
        obtain rfl : p = p' := Option.some.inj (hp.symm.trans hp')
        exact ⟨q, hv, hreply, hreq⟩
  replied c request reply hc := by
    change (b.calls c).hear c effects = _ at hc
    obtain hsame | ⟨r, hwaiting, ⟨hend, -⟩ | ⟨reply', hend, hmem⟩⟩ :=
      CommandPhase.hear_cases (c := c) (b.calls c) effects
    · exact hb.replied c request reply (hsame.symm.trans hc)
    · cases hend.symm.trans hc
    · obtain ⟨rfl, rfl⟩ := CommandPhase.replied.inj (hend.symm.trans hc)
      obtain ⟨p, hp, rfl⟩ := h.replies c reply' hmem
      have hreq := hb.request?_caller hp
      rw [hwaiting] at hreq
      rw [← hb.key _ p hp, ← Option.some.inj hreq]
  ids c request hc := by
    change ((b.calls c).hear c effects).request? = _ at hc
    rw [CommandPhase.request?_hear] at hc
    exact hb.ids c request hc
  distinct c d r r' hc hd := by
    change ((b.calls c).hear c effects).request? = _ at hc
    change ((b.calls d).hear d effects).request? = _ at hd
    rw [CommandPhase.request?_hear] at hc hd
    exact hb.distinct c d r r' hc hd

theorem quiet (hb : Brokered moving b) {events : List WindowEvent} {v : Workspace}
    {effects : List Effect} (hmirrors : Mirrors (events ++ b.history) v)
    (hpending : v.pending = b.workspace.pending)
    (hattached : ∀ g, attachedIn b.history g = true → attachedIn (events ++ b.history) g = true)
    (heffects : ∀ e ∈ effects, ∀ c, ¬e.Settles c) : Operates b moving events v effects where
  mirrors := hmirrors
  carried := .refl_of_pending hpending effects
  attached id q hq := by
    rw [hpending] at hq
    exact (hb.attached id q hq).imp (hattached _) fun h => h
  removed id p hp hnone := by
    rw [hpending, hp] at hnone
    cases hnone
  spared id q hq e he := heffects e he q.reply
  replies c reply hmem := absurd rfl (heffects _ hmem c)

/-- The departing window's channel is gone, and its requests are to be moved. -/
theorem leave (hb : Brokered [] b) {generation : ℕ} {moving : List String}
    (hmoving : ∀ id p, b.workspace.pending.lookup id = some p → p.servedBy = generation →
      id ∈ moving) :
    Operates b moving [.detached generation]
      { b.workspace with channels :=
        b.workspace.channels.filter fun c => c.generation != generation } [] where
  mirrors := Mirrors.leave hb.kept generation
  carried := .refl_of_pending rfl []
  attached id p hp := by
    by_cases hserved : p.servedBy = generation
    · exact Or.inr (hmoving id p hp hserved)
    · obtain hatt | hmem := hb.attached id p hp
      · left
        simp [attachedIn, hatt, Ne.symm hserved]
      · cases hmem
  removed id p hp hnone := by
    rw [show b.workspace.pending.lookup id = none from hnone] at hp
    cases hp
  spared := by simp
  replies := by simp

theorem erase (hb : Brokered moving b) {id : String} {p : Pending}
    (hp : b.workspace.pending.lookup id = some p) {v : Workspace}
    (hmirrors : Mirrors b.history v) (hpending : v.pending = b.workspace.pending.erase id)
    (hmoving : ∀ id' ∈ moving, id' = id ∨ id' ∈ moving') {e : Effect}
    (he : e.Settles p.reply) (hreply : ∀ c reply, e = .replied c reply → reply.id = id) :
    Operates b moving' [] v [e] := by
  have herase : ∀ id' q, v.pending.lookup id' = some q →
      id' ≠ id ∧ b.workspace.pending.lookup id' = some q := by
    intro id' q hq
    rw [hpending] at hq
    have hne : id' ≠ id := by
      rintro rfl
      rw [AList.lookup_erase] at hq
      cases hq
    rw [AList.lookup_erase_ne hne] at hq
    exact ⟨hne, hq⟩
  refine ⟨hmirrors, .erase hpending _, ?_, ?_, ?_, ?_⟩
  · intro id' q hq
    obtain ⟨hne, hq⟩ := herase id' q hq
    exact (hb.attached id' q hq).imp_right fun h => (hmoving id' h).resolve_left hne
  · intro id' q hq hnone
    by_cases hid : id' = id
    · subst hid
      obtain rfl : p = q := Option.some.inj (hp.symm.trans hq)
      exact ⟨e, List.mem_singleton_self e, he⟩
    · rw [hpending, AList.lookup_erase_ne hid, hq] at hnone
      cases hnone
  · intro id' q hq f hf
    obtain ⟨hne, hq⟩ := herase id' q hq
    obtain rfl := List.mem_singleton.mp hf
    intro hsettles
    -- the effect names one call only
    have hsame : q.reply = p.reply := by
      cases f <;> first | exact hsettles.symm.trans he | cases he
    exact hne (hb.eq_of_reply_eq hq hp hsame)
  · intro c reply hmem
    obtain rfl := List.mem_singleton.mp hmem
    exact ⟨p, by rw [hreply c reply rfl, hp], Eq.symm he⟩

/-- A request moves to another window, or its caller learns that there is none. -/
theorem redispatch {id : String} (hb : Brokered (id :: moving) b) :
    Operates b moving [] (b.workspace.redispatch id).1 (b.workspace.redispatch id).2 := by
  have hmirrors : Mirrors b.history (b.workspace.redispatch id).1 := hb.kept.redispatch id
  have hothers : ∀ id' q, id' ≠ id → b.workspace.pending.lookup id' = some q →
      attachedIn b.history q.servedBy = true ∨ id' ∈ moving := by
    intro id' q hne hq
    exact (hb.attached id' q hq).imp_right fun h => (List.mem_cons.mp h).resolve_left hne
  unfold Workspace.redispatch at hmirrors ⊢
  cases hp : b.workspace.pending.lookup id with
  | none =>
      refine ⟨hb.kept, .refl_of_pending rfl [], ?_, ?_, by simp, by simp⟩
      · intro id' q hq
        apply hothers id' q _ hq
        rintro rfl
        cases hp.symm.trans hq
      · intro id' q hq hnone
        cases hq.symm.trans hnone
  | some p =>
      obtain ⟨rest, taker, hd, heq⟩ := Workspace.dispatch_spec
        { b.workspace with pending := b.workspace.pending.erase id } p.request
      simp only [hp, heq] at hmirrors ⊢
      cases taker with
      | none =>
          exact hb.erase hp hmirrors rfl (fun id' h => List.mem_cons.mp h) rfl (by simp)
      | some channel =>
          have hmem : channel ∈ rest := by
            obtain ⟨-, before, after, rfl, -⟩ := hd.taken channel rfl
            simp
          have hatt : attachedIn b.history channel.generation = true :=
            hmirrors.attached channel hmem
          refine ⟨hmirrors, ?_, ?_, ?_, by simp [Effect.Settles], by simp⟩
          · intro id' q hq
            by_cases hid : id' = id
            · subst hid
              obtain rfl := Option.some.inj ((AList.lookup_insert _).symm.trans hq)
              exact Or.inr ⟨p, channel.window, hp, rfl, by simp⟩
            · change ((b.workspace.pending.erase id).insert id _).lookup id' = some q at hq
              rw [AList.lookup_insert_ne hid, AList.lookup_erase_ne hid] at hq
              exact Or.inl hq
          · intro id' q hq
            by_cases hid : id' = id
            · subst hid
              obtain rfl := Option.some.inj ((AList.lookup_insert _).symm.trans hq)
              exact Or.inl hatt
            · change ((b.workspace.pending.erase id).insert id _).lookup id' = some q at hq
              rw [AList.lookup_insert_ne hid, AList.lookup_erase_ne hid] at hq
              exact hothers id' q hid hq
          · intro id' q hq hnone
            change ((b.workspace.pending.erase id).insert id _).lookup id' = none at hnone
            rw [AList.lookup_insert_eq_none] at hnone
            rw [AList.lookup_erase_ne hnone.1, hq] at hnone
            cases hnone.2

theorem redispatchAll {orphans : List (List ℕ × String)}
    (hb : Brokered (orphans.map Prod.snd) b) :
    Brokered [] (b.after ((orphans.reverse.flatMap Prod.fst).map receiverDropped)
      (b.workspace.redispatchAll orphans)) ∧
    Carried b.workspace (b.workspace.redispatchAll orphans).1
      (b.workspace.redispatchAll orphans).2 := by
  induction orphans generalizing b with
  | nil =>
      refine ⟨?_, .refl_of_pending rfl []⟩
      simpa [Workspace.redispatchAll, Broker.after, CommandPhase.hear] using hb
  | cons orphan orphans ih =>
      obtain ⟨windows, id⟩ := orphan
      have hdropped : Operates b (id :: orphans.map Prod.snd) (windows.map receiverDropped)
          (b.workspace.dropReceivers windows) [] := by
        apply hb.quiet (hb.kept.dropReceivers windows) rfl _ (by simp)
        intro g hg
        rwa [attachedIn_dropped]
      have hmoved := (hb.after hdropped).redispatch
      obtain ⟨hrest, hcarried⟩ := ih ((hb.after hdropped).after hmoved)
      rw [after_after, after_after] at hrest
      constructor
      · simpa [Workspace.redispatchAll] using hrest
      · exact hmoved.carried.trans hcarried

theorem clear (hb : Brokered moving b) (now : ℕ) :
    Operates b [] [] { b.workspace with disconnectedSince := some now, pending := ∅ }
      (b.workspace.pending.entries.map fun entry => .dropped entry.2.reply) where
  mirrors := Mirrors.congr hb.kept rfl rfl rfl
  carried _ _ hq := by
    cases hq
  attached _ _ hq := by
    cases hq
  removed id p hp _ := by
    have hmem := AList.mem_lookup_iff.mp hp
    exact ⟨.dropped p.reply, List.mem_map.mpr ⟨_, hmem, rfl⟩, rfl⟩
  spared _ _ hq := by
    cases hq
  replies := by simp

/-- A detach moves the requests of the departing window, or ends their wait. -/
theorem detachChannel (hb : Brokered [] b) (now : ℕ) {generation : ℕ}
    {orphans : List (List ℕ × String)}
    (horphans : (orphans.map Prod.snd).Perm (b.workspace.orphaned generation)) :
    Brokered [] (b.after
      ((orphans.reverse.flatMap Prod.fst).map receiverDropped ++ [.detached generation])
      (b.workspace.detachChannel now generation orphans)) ∧
    Carried b.workspace (b.workspace.detachChannel now generation orphans).1
      (b.workspace.detachChannel now generation orphans).2 := by
  have hmoving : ∀ id p, b.workspace.pending.lookup id = some p → p.servedBy = generation →
      id ∈ orphans.map Prod.snd := by
    intro id p hp hserved
    rw [horphans.mem_iff]
    refine List.mem_map.mpr ⟨⟨id, p⟩, ?_, rfl⟩
    exact List.mem_filter.mpr ⟨AList.mem_lookup_iff.mp hp, beq_iff_eq.mpr hserved⟩
  have hleft := hb.leave hmoving
  obtain ⟨hall, hcarried⟩ := (hb.after hleft).redispatchAll
  have htotal := hleft.carried.trans hcarried
  simp only [Workspace.detachChannel]
  split
  · rw [after_after] at hall
    exact ⟨hall, htotal⟩
  · have hclear := hall.clear now
    have hcleared := hall.after hclear
    rw [after_after, after_after] at hcleared
    exact ⟨hcleared, htotal.trans hclear.carried⟩

theorem setCall (hb : Brokered moving b) {c : ℕ} {phase : CommandPhase} {ids : List String}
    (hids : b.requestIds ⊆ ids)
    (hentry : ∀ id p, b.workspace.pending.lookup id = some p → p.reply = c →
      phase = .waiting p.request ∨ phase = .expired p.request)
    (hwaiting : ∀ r, phase ≠ .waiting r) (hreplied : ∀ r reply, phase ≠ .replied r reply)
    (hid : ∀ r, phase.request? = some r → r.id ∈ ids)
    (hdistinct : ∀ r d r', phase.request? = some r → d ≠ c → (b.calls d).request? = some r' →
      r.id ≠ r'.id) :
    Brokered moving { b.setCall c phase with requestIds := ids } where
  kept := hb.kept
  key := hb.key
  sent := hb.sent
  attached := hb.attached
  caller id p hp := by
    change (b.setCall c phase).calls p.reply = _ ∨ (b.setCall c phase).calls p.reply = _
    by_cases hc : p.reply = c
    · rw [hc, calls_setCall_self]
      exact hentry id p hp hc
    · rw [calls_setCall_of_ne b phase hc]
      exact hb.caller id p hp
  waiting d r hd := by
    change (b.setCall c phase).calls d = _ at hd
    by_cases hdc : d = c
    · rw [hdc, calls_setCall_self] at hd
      exact absurd hd (hwaiting r)
    · rw [calls_setCall_of_ne b phase hdc] at hd
      exact hb.waiting d r hd
  replied d r reply hd := by
    change (b.setCall c phase).calls d = _ at hd
    by_cases hdc : d = c
    · rw [hdc, calls_setCall_self] at hd
      exact absurd hd (hreplied r reply)
    · rw [calls_setCall_of_ne b phase hdc] at hd
      exact hb.replied d r reply hd
  ids d r hd := by
    change ((b.setCall c phase).calls d).request? = _ at hd
    by_cases hdc : d = c
    · rw [hdc, calls_setCall_self] at hd
      exact hid r hd
    · rw [calls_setCall_of_ne b phase hdc] at hd
      exact hids (hb.ids d r hd)
  distinct d e r r' hd he heq := by
    change ((b.setCall c phase).calls d).request? = _ at hd
    change ((b.setCall c phase).calls e).request? = _ at he
    by_cases hdc : d = c
    · by_cases hec : e = c
      · rw [hdc, hec]
      · rw [hdc, calls_setCall_self] at hd
        rw [calls_setCall_of_ne b phase hec] at he
        exact absurd heq (hdistinct r e r' hd hec he)
    · rw [calls_setCall_of_ne b phase hdc] at hd
      by_cases hec : e = c
      · rw [hec, calls_setCall_self] at he
        exact absurd heq.symm (hdistinct r' d r he hdc hd)
      · rw [calls_setCall_of_ne b phase hec] at he
        exact hb.distinct d e r r' hd he heq

theorem setCall_same (hb : Brokered moving b) {c : ℕ} {phase : CommandPhase}
    (hentry : ∀ id p, b.workspace.pending.lookup id = some p → p.reply = c →
      phase = .waiting p.request ∨ phase = .expired p.request)
    (hwaiting : ∀ r, phase ≠ .waiting r) (hreplied : ∀ r reply, phase ≠ .replied r reply)
    (hsame : phase.request? = (b.calls c).request?) : Brokered moving (b.setCall c phase) := by
  apply hb.setCall (List.Subset.refl b.requestIds) hentry hwaiting hreplied
  · intro r hr
    exact hb.ids c r (hsame.symm.trans hr)
  · intro r d r' hr hdc hd heq
    exact hdc (hb.distinct d c r' r hd (hsame.symm.trans hr) heq.symm)

theorem reply_eq_of_lookup (hb : Brokered moving b) {c : ℕ} {request : CommandRequest}
    (hrequest : (b.calls c).request? = some request) {p : Pending}
    (hp : b.workspace.pending.lookup request.id = some p) : p.reply = c :=
  hb.distinct p.reply c p.request request (hb.request?_caller hp) hrequest
    (hb.key request.id p hp)

theorem lookup_eq_none (hb : Brokered moving b) {c : ℕ} {request : CommandRequest}
    (hcall : b.calls c = .connecting request) :
    b.workspace.pending.lookup request.id = none := by
  cases hp : b.workspace.pending.lookup request.id with
  | none => rfl
  | some p =>
      have hreply := hb.reply_eq_of_lookup (by rw [hcall]; rfl) hp
      obtain h | h := hb.caller _ p hp
      · rw [hreply, hcall] at h
        cases h
      · rw [hreply, hcall] at h
        cases h

theorem file (hb : Brokered moving b) {c generation window : ℕ} {request : CommandRequest}
    (hcall : b.calls c = .connecting request) {v : Workspace} (hmirrors : Mirrors b.history v)
    (hpending : v.pending = b.workspace.pending.insert request.id ⟨request, generation, c⟩)
    (hatt : attachedIn b.history generation = true) :
    Brokered moving ((b.after [] (v, [.sent generation window (.commandRequest request)])).setCall
      c (.waiting request)) := by
  have hnone := hb.lookup_eq_none hcall
  have hcases : ∀ id q, v.pending.lookup id = some q →
      (id = request.id ∧ q = ⟨request, generation, c⟩) ∨
        b.workspace.pending.lookup id = some q ∧ q.reply ≠ c := by
    intro id q hq
    rw [hpending] at hq
    by_cases hid : id = request.id
    · subst hid
      exact Or.inl ⟨rfl, (Option.some.inj ((AList.lookup_insert _).symm.trans hq)).symm⟩
    · rw [AList.lookup_insert_ne hid] at hq
      refine Or.inr ⟨hq, fun hreply => ?_⟩
      obtain h | h := hb.caller id q hq
      · rw [hreply, hcall] at h
        cases h
      · rw [hreply, hcall] at h
        cases h
  have hsame : ∀ d, d ≠ c → ((b.after [] (v, [.sent generation window
      (.commandRequest request)])).setCall c (.waiting request)).calls d = b.calls d := by
    intro d hd
    rw [calls_setCall_of_ne _ _ hd]
    rfl
  have hrequest : ∀ d, (((b.after [] (v, [.sent generation window
      (.commandRequest request)])).setCall c (.waiting request)).calls d).request? =
        (b.calls d).request? := by
    intro d
    by_cases hd : d = c
    · rw [hd, calls_setCall_self, hcall]
      rfl
    · rw [hsame d hd]
  refine ⟨hmirrors, ?_, ?_, ?_, ?_, ?_, ?_, ?_, ?_⟩
  · intro id q hq
    obtain ⟨rfl, rfl⟩ | ⟨hq, -⟩ := hcases id q hq
    · rfl
    · exact hb.key id q hq
  · intro id q hq
    obtain ⟨rfl, rfl⟩ | ⟨hq, -⟩ := hcases id q hq
    · exact ⟨window, List.mem_append_right _ (List.mem_singleton_self _)⟩
    · obtain ⟨window, hsent⟩ := hb.sent id q hq
      exact ⟨window, List.mem_append_left _ hsent⟩
  · intro id q hq
    obtain ⟨rfl, rfl⟩ | ⟨hq, -⟩ := hcases id q hq
    · exact Or.inl hatt
    · exact hb.attached id q hq
  · intro id q hq
    obtain ⟨rfl, rfl⟩ | ⟨hq, hne⟩ := hcases id q hq
    · exact Or.inl (calls_setCall_self _ _ _)
    · rw [hsame _ hne]
      exact hb.caller id q hq
  · intro d r hd
    by_cases hdc : d = c
    · rw [hdc, calls_setCall_self] at hd
      cases hd
      refine ⟨⟨request, generation, c⟩, ?_, hdc.symm, rfl⟩
      change v.pending.lookup request.id = _
      rw [hpending, AList.lookup_insert]
    · rw [hsame d hdc] at hd
      obtain ⟨p, hp, hreply, rfl⟩ := hb.waiting d r hd
      refine ⟨p, ?_, hreply, rfl⟩
      change v.pending.lookup p.request.id = _
      rw [hpending, AList.lookup_insert_ne, hp]
      intro h
      rw [h, hnone] at hp
      cases hp
  · intro d r reply hd
    by_cases hdc : d = c
    · rw [hdc, calls_setCall_self] at hd
      cases hd
    · rw [hsame d hdc] at hd
      exact hb.replied d r reply hd
  · intro d r hd
    rw [hrequest d] at hd
    exact hb.ids d r hd
  · intro d e r r' hd he
    rw [hrequest d] at hd
    rw [hrequest e] at he
    exact hb.distinct d e r r' hd he

theorem enqueued (hb : Brokered moving b) {c now : ℕ} {request : CommandRequest}
    (hcall : b.calls c = .connecting request)
    (hfound : (b.workspace.enqueue now c request).2.1 = true) :
    Brokered moving ((b.after [] ((b.workspace.enqueue now c request).1,
      (b.workspace.enqueue now c request).2.2)).setCall c (.waiting request)) := by
  have hmirrors := hb.kept.enqueue now c request
  obtain ⟨rest, taker, hd, heq⟩ := Workspace.dispatch_spec b.workspace request
  simp only [Workspace.enqueue, heq] at hfound hmirrors ⊢
  cases taker with
  | none => cases hfound
  | some channel =>
      have hmem : channel ∈ rest := by
        obtain ⟨-, before, after, rfl, -⟩ := hd.taken channel rfl
        simp
      simp only [Option.map_some, hb.lookup_eq_none hcall, Option.toList_none, List.map_nil,
        List.append_nil] at hmirrors ⊢
      exact hb.file hcall hmirrors rfl (hmirrors.attached channel hmem)

theorem refused (hb : Brokered moving b) {c now : ℕ} {request : CommandRequest}
    (hfound : (b.workspace.enqueue now c request).2.1 = false) :
    Brokered moving (b.after [] ((b.workspace.enqueue now c request).1,
      (b.workspace.enqueue now c request).2.2)) := by
  have hmirrors := hb.kept.enqueue now c request
  obtain ⟨rest, taker, hd, heq⟩ := Workspace.dispatch_spec b.workspace request
  simp only [Workspace.enqueue, heq] at hfound hmirrors ⊢
  cases taker with
  | none => exact hb.after (hb.quiet hmirrors rfl (fun _ h => h) (by simp))
  | some channel => cases hfound

theorem cancelPending (hb : Brokered moving b) {c : ℕ} {request : CommandRequest}
    (hcall : b.calls c = .expired request) :
    Brokered moving ((b.after [] (b.workspace.cancelPending request.id)).setCall c
      (.timedOut request)) := by
  have hreq : (b.calls c).request? = some request := by
    rw [hcall]
    rfl
  have hmirrors : Mirrors b.history (b.workspace.cancelPending request.id).1 :=
    Mirrors.congr hb.kept rfl rfl rfl
  have hcancelled : Brokered moving (b.after [] (b.workspace.cancelPending request.id)) := by
    cases hp : b.workspace.pending.lookup request.id with
    | none =>
        have hsame : b.workspace.pending.erase request.id = b.workspace.pending := by
          apply AList.ext
          exact List.kerase_of_notMem_keys (AList.lookup_eq_none.mp hp)
        simp only [Workspace.cancelPending, hp] at hmirrors ⊢
        exact hb.after (hb.quiet hmirrors hsame (fun _ h => h) (by simp))
    | some p =>
        simp only [Workspace.cancelPending, hp] at hmirrors ⊢
        exact hb.after (hb.erase hp hmirrors rfl (fun _ h => Or.inr h) rfl (by simp))
  apply hcancelled.setCall_same
  · intro id p hp hreply
    have hrequest := hcancelled.request?_caller hp
    rw [hreply] at hrequest
    change ((b.calls c).hear c _).request? = _ at hrequest
    rw [CommandPhase.request?_hear, hreq] at hrequest
    have hid := hcancelled.key id p hp
    rw [← Option.some.inj hrequest] at hid
    change (b.workspace.pending.erase request.id).lookup id = some p at hp
    rw [← hid, AList.lookup_erase] at hp
    cases hp
  · simp
  · simp
  · change _ = ((b.calls c).hear c _).request?
    rw [CommandPhase.request?_hear, hreq]
    rfl

end Brokered

theorem brokered_new (displayName token : String) : Brokered [] (new displayName token) := by
  refine ⟨Mirrors.new displayName token, ?_, ?_, ?_, ?_, ?_, ?_, ?_, ?_⟩ <;>
    simp [new, Workspace.new, CommandPhase.request?]

theorem not_settles_greeting (w : Workspace) : ∀ e ∈ [greeting w], ∀ c, ¬e.Settles c := by
  simp [greeting, Effect.Settles]

theorem brokered_handleMessage {b : Broker} (hb : Brokered [] b) (generation : ℕ)
    (message : FrontendMessage) :
    Brokered [] (b.after (if message.focuses then [.focused generation] else [])
      (b.workspace.handleMessage generation message)) := by
  have hmirrors := hb.kept.handleMessage generation message
  cases message with
  | commandReply reply =>
      simp only [Workspace.handleMessage] at hmirrors ⊢
      cases hp : b.workspace.pending.lookup reply.id with
      | none =>
          simp only [hp] at hmirrors ⊢
          exact hb.after (hb.quiet hmirrors rfl (fun _ h => h) (by simp))
      | some p =>
          simp only [hp] at hmirrors ⊢
          refine hb.after (hb.erase hp hmirrors rfl (fun _ h => Or.inr h) rfl ?_)
          intro c reply' h
          cases h
          rfl
  | hello hello =>
      refine hb.after (hb.quiet hmirrors ?_ ?_ (by simp))
      · split <;> rfl
      · intro g hg
        split <;> exact hg
  | commandsChanged => exact hb.after (hb.quiet hmirrors rfl (fun _ h => h) (by simp))
  | foregroundChanged => exact hb.after (hb.quiet hmirrors rfl (fun _ h => h) (by simp))
  | sessionsChanged => exact hb.after (hb.quiet hmirrors rfl (fun _ h => h) (by simp))
  | focused => exact hb.after (hb.quiet hmirrors rfl (fun _ h => h) (by simp))

theorem brokered_of_step {b t : Broker} {a : Act} (hb : Brokered [] b)
    (h : machine.step b a = some t) : Brokered [] t := by
  cases change_of_step h with
  | attach =>
      refine hb.after (hb.quiet (Mirrors.attach hb.kept) rfl ?_ (not_settles_greeting _))
      intro g hg
      simp [attachedIn, hg]
  | dropReceiver generation =>
      exact hb.after (hb.quiet (Mirrors.dropReceivers hb.kept [generation]) rfl
        (fun _ hg => hg) (by simp))
  | message generation message => exact brokered_handleMessage hb generation message
  | detach horphans => exact (hb.detachChannel _ horphans).1
  | @call c request hcall hfresh =>
      refine hb.setCall (List.subset_cons_self _ _) ?_ (by simp) (by simp) ?_ ?_
      · intro id p hp hreply
        have := hb.request?_caller hp
        rw [hreply, hcall] at this
        cases this
      · intro r hr
        cases hr
        exact List.mem_cons_self
      · intro r d r' hr hd hr' heq
        cases hr
        rw [heq] at hfresh
        exact hfresh (hb.ids d r' hr')
  | enqueued hcall hfound => exact hb.enqueued hcall hfound
  | refused hcall hfound => exact hb.refused hfound
  | @giveUp c request hcall =>
      refine hb.setCall_same ?_ (by simp) (by simp) (by rw [hcall]; rfl)
      intro id p hp hreply
      obtain h | h := hb.caller id p hp
      · rw [hreply, hcall] at h
        cases h
      · rw [hreply, hcall] at h
        cases h
  | @expire c request hcall =>
      refine hb.setCall_same ?_ (by simp) (by simp) (by rw [hcall]; rfl)
      intro id p hp hreply
      have := hb.request?_caller hp
      rw [hreply, hcall] at this
      exact Or.inr (by rw [Option.some.inj this])
  | cancelPending hcall => exact hb.cancelPending hcall

theorem brokered_of_run {displayName token : String} {acts : List Act} {b : Broker}
    (hrun : machine.run (new displayName token) acts = some b) : Brokered [] b :=
  machine.run_of_step (fun _ _ _ => brokered_of_step) (brokered_new displayName token) hrun

theorem replied_notMem_redispatch (w : Workspace) (id : String) {c : ℕ} {reply : CommandReply} :
    .replied c reply ∉ (w.redispatch id).2 := by
  unfold Workspace.redispatch
  cases w.pending.lookup id with
  | none => simp
  | some p =>
      obtain ⟨rest, taker, -, heq⟩ := Workspace.dispatch_spec
        { w with pending := w.pending.erase id } p.request
      simp only [heq]
      cases taker <;> simp

theorem replied_notMem_redispatchAll (w : Workspace) (orphans : List (List ℕ × String)) {c : ℕ}
    {reply : CommandReply} : .replied c reply ∉ (w.redispatchAll orphans).2 := by
  induction orphans generalizing w with
  | nil => simp [Workspace.redispatchAll]
  | cons orphan orphans ih =>
      simp only [Workspace.redispatchAll, List.mem_append, not_or]
      exact ⟨replied_notMem_redispatch _ _, ih _⟩

theorem replied_notMem_detachChannel (w : Workspace) (now generation : ℕ)
    (orphans : List (List ℕ × String)) {c : ℕ} {reply : CommandReply} :
    .replied c reply ∉ (w.detachChannel now generation orphans).2 := by
  simp only [Workspace.detachChannel]
  split
  · exact replied_notMem_redispatchAll _ _
  · simp [replied_notMem_redispatchAll]

/-- What becomes of the requests that a departing window has not answered. -/
structure HandsOver (b : Broker) (generation : ℕ) (t : Broker) : Prop where
  /-- A request is sent to an attached window, or its caller learns that there is
  none. -/
  moved : ∀ id p, b.workspace.pending.lookup id = some p → p.servedBy = generation →
    (∃ served window sent, t.workspace.pending.lookup id = some { p with servedBy := served } ∧
      served ≠ generation ∧ attachedIn t.history served = true ∧ t.effects = b.effects ++ sent ∧
      .sent served window (.commandRequest p.request) ∈ sent) ∨
    t.workspace.pending.lookup id = none ∧
      (b.calls p.reply = .waiting p.request → t.calls p.reply = .disconnected p.request)
  none : t.workspace.channels = [] → t.workspace.pending = ∅
  last : (∀ g, attachedIn t.history g = false) → t.workspace.pending = ∅

theorem pending_of_detachChannel {w : Workspace} {now generation : ℕ}
    {orphans : List (List ℕ × String)}
    (h : (w.detachChannel now generation orphans).1.channels = []) :
    (w.detachChannel now generation orphans).1.pending = ∅ := by
  simp only [Workspace.detachChannel] at h ⊢
  split at h
  · rename_i hconnected
    rw [Workspace.connected, h] at hconnected
    cases hconnected
  · rw [if_neg ‹_›]

theorem handsOver_of_step {b t : Broker} (hb : Brokered [] b) {now generation : ℕ}
    {orphans : List (List ℕ × String)}
    (h : machine.step b (.detach now generation orphans) = some t) :
    HandsOver b generation t := by
  have ht := brokered_of_step hb h
  cases change_of_step h with
  | detach horphans =>
      obtain ⟨-, hcarried⟩ := hb.detachChannel now horphans
      constructor
      · intro id p hp hserved
        cases hq : (b.workspace.detachChannel now generation orphans).1.pending.lookup id with
        | none =>
            refine Or.inr ⟨hq, fun hwaiting => ?_⟩
            change (b.calls p.reply).hear p.reply _ = _
            rw [hwaiting]
            obtain ⟨hstill, -⟩ | ⟨hend, -⟩ | ⟨reply, -, hmem⟩ :=
              CommandPhase.hear_waiting_cases (c := p.reply) p.request
                (b.workspace.detachChannel now generation orphans).2
            · rw [← hwaiting] at hstill
              obtain ⟨q, hq', -⟩ := ht.waiting p.reply p.request (hstill.trans hwaiting)
              rw [hb.key id p hp, workspace_after, hq] at hq'
              cases hq'
            · exact hend
            · exact absurd hmem (replied_notMem_detachChannel _ _ _ _)
        | some q =>
            have hatt : attachedIn _ q.servedBy = true :=
              (ht.attached id q hq).resolve_right (by simp)
            have hne : q.servedBy ≠ generation := by
              intro heq
              rw [heq] at hatt
              simp [after, attachedIn_dropped, attachedIn] at hatt
            obtain hp' | ⟨p', window, hp', hqp, hsent⟩ := hcarried id q hq
            · obtain rfl : p = q := Option.some.inj (hp.symm.trans hp')
              exact absurd hserved hne
            · obtain rfl : p = p' := Option.some.inj (hp.symm.trans hp')
              refine Or.inl ⟨q.servedBy, window, _, hqp ▸ hq, hne, hatt, rfl, ?_⟩
              rwa [hqp] at hsent
      · exact pending_of_detachChannel
      · intro hnone
        apply pending_of_detachChannel
        apply List.eq_nil_iff_forall_not_mem.mpr
        intro c hc
        have := ht.kept.attached c hc
        rw [hnone] at this
        cases this

/-- The effects of a reply: it ends the wait of the call whose entry has its ID. -/
theorem mem_effects_of_reply {w : Workspace} {generation : ℕ} {reply : CommandReply} {e : Effect}
    (he : e ∈ (w.handleMessage generation (.commandReply reply)).2) :
    ∃ p, w.pending.lookup reply.id = some p ∧ e = .replied p.reply reply := by
  simp only [Workspace.handleMessage] at he
  cases hp : w.pending.lookup reply.id with
  | none =>
      rw [hp] at he
      cases he
  | some p =>
      rw [hp] at he
      exact ⟨p, rfl, List.mem_singleton.mp he⟩

theorem calls_of_reply {b t : Broker} (hb : Brokered [] b) {generation : ℕ}
    {reply : CommandReply}
    (h : machine.step b (.message generation (.commandReply reply)) = some t) (c : ℕ) :
    t.calls c = b.calls c ∨ ∃ request, b.calls c = .waiting request ∧ request.id = reply.id ∧
      t.calls c = .replied request reply := by
  cases change_of_step h with
  | message =>
      rw [calls_after]
      obtain hsame | ⟨request, hwaiting, ⟨-, hmem⟩ | ⟨reply', hend, hmem⟩⟩ :=
        CommandPhase.hear_cases (c := c) (b.calls c)
          (b.workspace.handleMessage generation (.commandReply reply)).2
      · exact Or.inl hsame
      · obtain ⟨_, _, he⟩ := mem_effects_of_reply hmem
        cases he
      · obtain ⟨p, hp, he⟩ := mem_effects_of_reply hmem
        cases he
        have hrequest := hb.request?_caller hp
        rw [hwaiting] at hrequest
        refine Or.inr ⟨request, hwaiting, ?_, hend⟩
        rw [← hb.key _ p hp, ← Option.some.inj hrequest]

/-- Over every history of a record: a pending request is filed under its own ID
and was sent to a window whose detach has not been processed; a call that waits
has such an entry; a reply reaches only the call that made the request with its
ID; and a detach hands the requests of the departing window over, or fails their
callers, and leaves none behind when no window is left. -/
theorem broker_strands_no_caller (displayName token : String) (acts : List Act) {b : Broker}
    (hrun : machine.run (new displayName token) acts = some b) :
    (∀ id p, b.workspace.pending.lookup id = some p → p.request.id = id ∧
      (∃ window, .sent p.servedBy window (.commandRequest p.request) ∈ b.effects) ∧
      attachedIn b.history p.servedBy = true) ∧
    (∀ c request, b.calls c = .waiting request →
      ∃ p, b.workspace.pending.lookup request.id = some p ∧ p.reply = c ∧ p.request = request) ∧
    (∀ c request reply, b.calls c = .replied request reply → reply.id = request.id) ∧
    (∀ generation reply t,
      machine.step b (.message generation (.commandReply reply)) = some t → ∀ c,
        t.calls c = b.calls c ∨ ∃ request, b.calls c = .waiting request ∧
          request.id = reply.id ∧ t.calls c = .replied request reply) ∧
    (∀ now generation orphans t,
      machine.step b (.detach now generation orphans) = some t → HandsOver b generation t) := by
  have hb := brokered_of_run hrun
  refine ⟨?_, hb.waiting, hb.replied, ?_, ?_⟩
  · intro id p hp
    exact ⟨hb.key id p hp, hb.sent id p hp, (hb.attached id p hp).resolve_right (by simp)⟩
  · intro generation reply t h c
    exact calls_of_reply hb h c
  · intro now generation orphans t h
    exact handsOver_of_step hb h

/-- Two windows, the first of them focused and serving a request; it closes, and
the request goes to the second. -/
theorem broker_strands_no_caller_sibling :
    ∃ b t, machine.run (new "folder" "token") [.attach, .attach, .message 1 .focused,
        .call 0 ⟨"r", "command", [], ⟨none, none⟩⟩, .enqueue 0 5] = some b ∧
      machine.step b (.detach 6 1 [([], "r")]) = some t ∧
      (b.workspace.pending.lookup "r").map Pending.servedBy = some 1 ∧
      (t.workspace.pending.lookup "r").map Pending.servedBy = some 2 ∧
      HandsOver b 1 t :=
  ⟨_, _, rfl, rfl, by decide, by decide,
    (broker_strands_no_caller "folder" "token" [.attach, .attach, .message 1 .focused,
      .call 0 ⟨"r", "command", [], ⟨none, none⟩⟩, .enqueue 0 5] rfl).2.2.2.2 6 1 [([], "r")] _ rfl⟩

end Broker

end Kallichore
