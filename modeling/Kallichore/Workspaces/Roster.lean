import Kallichore.Workspaces.Broker
import Kallichore.Workspaces.Identity
import Mathlib.Algebra.Order.Ring.Nat

/-!
# Who is connected

The agents connected to a workspace come and go on their own: one is listed when it
connects, and taken out by a task that the dropping of its lease starts. A window is told
of the clients when it attaches and whenever the list changes. `Roster` is the record with
its windows and calls, and with the leases of its clients. What a window was told last is
the list as it is, as long as no agent connects under the number of one that is still
listed; the numbers have 32 bits, and `informed_iff_freeNumbers` says that nothing else is
needed.
-/

namespace Kallichore

inductive LeasePhase
  | unused
  | held (client : Int32)
  /-- The lease is dropped, and the task that takes the client out has yet to do it. -/
  | dropped (client : Int32)
  | removed
  deriving DecidableEq

namespace LeasePhase

/-- The client that the lease stands for, as long as there is one. -/
def client? : LeasePhase → Option Int32
  | held client | dropped client => some client
  | unused | removed => none

end LeasePhase

structure Roster where
  broker : Broker
  leases : ℕ → LeasePhase
  /-- All clients that ever connected, in the order in which they did. -/
  arrivals : List Client

/-- What an effect tells the window of a channel about the clients. -/
def Effect.toldTo (generation : ℕ) : Effect → Option (List McpClient)
  | .sent g _ (.clientsChanged clients) => if g = generation then some clients else none
  | _ => none

def lastTold (generation : ℕ) (effects : List Effect) : Option (List McpClient) :=
  (effects.filterMap (Effect.toldTo generation)).getLast?

namespace Roster

def new (displayName token : String) : Roster where
  broker := .new displayName token
  leases := fun _ => .unused
  arrivals := []

inductive Act
  | broker (act : Broker.Act)
  | addClient (lease now : ℕ) (info : McpClient)
  | dropLease (lease : ℕ)
  /-- The task started by the dropping of a lease. -/
  | removeClient (lease : ℕ)

/-- A client connects, and gets its lease. -/
def addClient (r : Roster) (lease now : ℕ) (info : McpClient) : Roster :=
  let id := r.broker.workspace.nextClientId + 1
  { broker := r.broker.after [] (r.broker.workspace.addClient lease now info)
    leases := Function.update r.leases lease (.held id)
    arrivals := r.arrivals ++ [{ info := { info with id, connectedAt := now }, lease }] }

/-- The client of a dropped lease is taken out. -/
def removeClient (r : Roster) (lease : ℕ) (id : Int32) : Roster :=
  { r with
    broker := r.broker.after [] (r.broker.workspace.removeClient id)
    leases := Function.update r.leases lease .removed }

def step (r : Roster) : Act → Option Roster
  | .broker act => (r.broker.step act).map fun broker => { r with broker }
  | .addClient lease now info =>
      if r.leases lease = .unused then some (r.addClient lease now info) else none
  | .dropLease lease =>
      match r.leases lease with
      | .held id => some { r with leases := Function.update r.leases lease (.dropped id) }
      | _ => none
  | .removeClient lease =>
      match r.leases lease with
      | .dropped id => some (r.removeClient lease id)
      | _ => none

def machine : Machine Roster Act := ⟨step⟩

structure Informed (r : Roster) : Prop where
  /-- What a window was told last is the list as it is. -/
  told : ∀ c ∈ r.broker.workspace.channels, c.alive = true →
    lastTold c.generation r.broker.effects = some r.broker.workspace.clientList
  distinct : (r.broker.workspace.clientList.map McpClient.id).Nodup
  /-- The clients are listed in the order of their arrival. -/
  arrived : r.broker.workspace.clients.Sublist r.arrivals
  /-- A client whose lease is held is listed once. -/
  listed : ∀ lease id, r.leases lease = .held id →
    ∃ client, client.lease = lease ∧
      (r.broker.workspace.clients.filter fun c => c.info.id = id) = [client]

/-- The number that a connecting agent is given is not that of one still listed. -/
def FreeNumber (r : Roster) : Act → Prop
  | .addClient .. => ∀ client ∈ r.broker.workspace.clients,
      client.info.id ≠ r.broker.workspace.nextClientId + 1
  | _ => True

end Roster

/-! ## What a window hears -/

theorem lastTold_append_of_untold {generation : ℕ} {effects more : List Effect}
    (h : ∀ e ∈ more, e.toldTo generation = none) :
    lastTold generation (effects ++ more) = lastTold generation effects := by
  have hnone : more.filterMap (Effect.toldTo generation) = [] := List.filterMap_eq_nil_iff.mpr h
  rw [lastTold, List.filterMap_append, hnone, List.append_nil, lastTold]

theorem lastTold_append_of_told {generation : ℕ} {effects more : List Effect}
    {clients : List McpClient} {e : Effect} (he : e ∈ more)
    (htold : e.toldTo generation = some clients)
    (h : ∀ e ∈ more, ∀ l, e.toldTo generation = some l → l = clients) :
    lastTold generation (effects ++ more) = some clients := by
  have hmem : clients ∈ more.filterMap (Effect.toldTo generation) :=
    List.mem_filterMap.mpr ⟨e, he, htold⟩
  rw [lastTold, List.filterMap_append, List.getLast?_append]
  cases hlast : (more.filterMap (Effect.toldTo generation)).getLast? with
  | none =>
      rw [List.getLast?_eq_none_iff.mp hlast] at hmem
      cases hmem
  | some l =>
      obtain ⟨e', he', hl⟩ := List.mem_filterMap.mp (List.mem_of_getLast? hlast)
      rw [h e' he' l hl]
      rfl

theorem lastTold_broadcastClients (w : Workspace) (effects : List Effect) {c : FrontendChannel}
    (hc : c ∈ w.channels) (halive : c.alive = true) :
    lastTold c.generation (effects ++ w.broadcastClients) = some w.clientList := by
  have hmem : Effect.sent c.generation c.window (.clientsChanged w.clientList) ∈
      w.broadcastClients :=
    List.mem_map.mpr ⟨c, List.mem_filter.mpr ⟨hc, halive⟩, rfl⟩
  refine lastTold_append_of_told hmem (if_pos rfl) ?_
  intro e he l hl
  obtain ⟨d, -, rfl⟩ := List.mem_map.mp he
  exact (Option.some.inj (Option.ite_none_right_eq_some.mp hl).2).symm

/-! ## What leaves the clients alone -/

/-- An operation on a record that leaves the clients as they are, tells nobody of them and
opens no channel. -/
structure Quiet (w : Workspace) (result : Workspace × List Effect) : Prop where
  clients : result.1.clients = w.clients
  nextClientId : result.1.nextClientId = w.nextClientId
  untold : ∀ generation, ∀ e ∈ result.2, e.toldTo generation = none
  live : ∀ c ∈ result.1.channels, c.alive = true →
    ∃ d ∈ w.channels, d.alive = true ∧ d.generation = c.generation

namespace Quiet

variable {w : Workspace}

theorem of_sublist {v : Workspace} {effects : List Effect} (hclients : v.clients = w.clients)
    (hid : v.nextClientId = w.nextClientId) (hsub : v.channels.Sublist w.channels)
    (huntold : ∀ generation, ∀ e ∈ effects, e.toldTo generation = none) :
    Quiet w (v, effects) where
  clients := hclients
  nextClientId := hid
  untold := huntold
  live c hc halive := ⟨c, hsub.subset hc, halive, rfl⟩

theorem trans {v : Workspace} {effects : List Effect} {result : Workspace × List Effect}
    (h : Quiet w (v, effects)) (h' : Quiet v result) :
    Quiet w (result.1, effects ++ result.2) where
  clients := h'.clients.trans h.clients
  nextClientId := h'.nextClientId.trans h.nextClientId
  untold generation e he := by
    rcases List.mem_append.mp he with he | he
    · exact h.untold generation e he
    · exact h'.untold generation e he
  live c hc halive := by
    obtain ⟨d, hd, hdalive, hdgen⟩ := h'.live c hc halive
    obtain ⟨e, he, healive, hegen⟩ := h.live d hd hdalive
    exact ⟨e, he, healive, hegen.trans hdgen⟩

theorem after {v : Workspace} {result : Workspace × List Effect} (h : Quiet v result)
    (hclients : v.clients = w.clients) (hid : v.nextClientId = w.nextClientId)
    (hchannels : v.channels = w.channels) : Quiet w result where
  clients := h.clients.trans hclients
  nextClientId := h.nextClientId.trans hid
  untold := h.untold
  live := hchannels ▸ h.live

theorem before {v u : Workspace} {effects more : List Effect} (h : Quiet w (v, effects))
    (hclients : u.clients = v.clients) (hid : u.nextClientId = v.nextClientId)
    (hchannels : u.channels = v.channels)
    (huntold : ∀ generation, ∀ e ∈ more, e.toldTo generation = none) :
    Quiet w (u, effects ++ more) :=
  h.trans (of_sublist hclients hid (hchannels ▸ List.Sublist.refl _) huntold)

theorem dropReceivers (w : Workspace) (windows : List ℕ) :
    Quiet w (w.dropReceivers windows, []) where
  clients := rfl
  nextClientId := rfl
  untold _ _ he := by cases he
  live c hc halive := by
    obtain ⟨d, hd, rfl⟩ := Workspace.exists_of_mem_dropReceivers hc
    split at halive
    · cases halive
    next hkept =>
      rw [if_neg hkept]
      exact ⟨d, hd, halive, rfl⟩

theorem focus (hw : Numbered w) (generation : ℕ) : Quiet w (w.focus generation, []) where
  clients := rfl
  nextClientId := rfl
  untold _ _ he := by cases he
  live c hc halive := by
    obtain ⟨d, hd, rfl⟩ := Workspace.exists_of_mem_focus hw.sorted hc
    split at halive
    next hgen =>
      rw [if_pos hgen]
      exact ⟨d, hd, halive, rfl⟩
    next hgen =>
      rw [if_neg hgen]
      exact ⟨d, hd, halive, rfl⟩

theorem handleMessage (hw : Numbered w) (generation : ℕ) (message : FrontendMessage) :
    Quiet w (w.handleMessage generation message) := by
  have hsame : ∀ v : Workspace, v.clients = w.clients → v.nextClientId = w.nextClientId →
      v.channels = w.channels → Quiet w (v, []) := by
    intro v hclients hid hchannels
    exact of_sublist hclients hid (hchannels ▸ List.Sublist.refl _) (by simp)
  cases message with
  | hello hello =>
      simp only [Workspace.handleMessage]
      split
      · refine (focus ?_ generation).after rfl rfl rfl
        exact hw.of_sublist (List.Sublist.refl _) rfl rfl
      · exact hsame _ rfl rfl rfl
  | focused => exact focus hw generation
  | commandReply reply =>
      simp only [Workspace.handleMessage]
      split
      · exact hsame w rfl rfl rfl
      · refine of_sublist rfl rfl (List.Sublist.refl _) ?_
        rintro generation e he
        rw [List.mem_singleton.mp he]
        rfl
  | commandsChanged => exact hsame _ rfl rfl rfl
  | foregroundChanged => exact hsame _ rfl rfl rfl
  | sessionsChanged => exact hsame _ rfl rfl rfl

theorem untold_dispatched (taker : Option FrontendChannel) (request : CommandRequest)
    (generation : ℕ) {e : Effect}
    (he : e ∈ taker.toList.map fun channel : FrontendChannel =>
      Effect.sent channel.generation channel.window (.commandRequest request)) :
    e.toldTo generation = none := by
  obtain ⟨channel, -, rfl⟩ := List.mem_map.mp he
  rfl

theorem redispatch (w : Workspace) (id : String) : Quiet w (w.redispatch id) := by
  unfold Workspace.redispatch
  cases hpending : w.pending.lookup id with
  | none => exact of_sublist rfl rfl (List.Sublist.refl _) (by simp)
  | some pending =>
      obtain ⟨rest, taker, hd, heq⟩ :=
        Workspace.dispatch_spec { w with pending := w.pending.erase id } pending.request
      simp only [heq]
      cases taker with
      | none =>
          refine of_sublist rfl rfl hd.sublist ?_
          intro generation e he
          rw [List.mem_singleton.mp he]
          rfl
      | some channel =>
          exact of_sublist rfl rfl hd.sublist fun generation e he =>
            untold_dispatched (some channel) pending.request generation he

theorem redispatchAll (w : Workspace) (orphans : List (List ℕ × String)) :
    Quiet w (w.redispatchAll orphans) := by
  induction orphans generalizing w with
  | nil => exact of_sublist rfl rfl (List.Sublist.refl _) (by simp)
  | cons orphan orphans ih =>
      have hdrop := (dropReceivers w orphan.1).trans (redispatch _ orphan.2)
      exact hdrop.trans (ih _)

theorem detachChannel (w : Workspace) (now generation : ℕ) (orphans : List (List ℕ × String)) :
    Quiet w (w.detachChannel now generation orphans) := by
  have hleft : Quiet w ({ w with
      channels := w.channels.filter fun channel => channel.generation != generation }, []) :=
    of_sublist rfl rfl List.filter_sublist (by simp)
  have hall := hleft.trans (redispatchAll _ orphans)
  simp only [Workspace.detachChannel]
  split
  · exact hall
  · refine hall.before rfl rfl rfl ?_
    intro generation e he
    obtain ⟨entry, -, rfl⟩ := List.mem_map.mp he
    rfl

theorem enqueue (w : Workspace) (now call : ℕ) (request : CommandRequest) :
    Quiet w ((w.enqueue now call request).1, (w.enqueue now call request).2.2) := by
  obtain ⟨rest, taker, hd, heq⟩ := Workspace.dispatch_spec w request
  simp only [Workspace.enqueue, heq]
  cases taker with
  | none => exact of_sublist rfl rfl hd.sublist (by simp)
  | some channel =>
      refine of_sublist rfl rfl hd.sublist ?_
      intro generation e he
      rcases List.mem_append.mp he with he | he
      · exact untold_dispatched (some channel) request generation he
      · obtain ⟨replaced, -, rfl⟩ := List.mem_map.mp he
        rfl

theorem cancelPending (w : Workspace) (requestId : String) :
    Quiet w (w.cancelPending requestId) := by
  refine of_sublist rfl rfl (List.Sublist.refl _) ?_
  intro generation e he
  obtain ⟨pending, -, rfl⟩ := List.mem_map.mp he
  rfl

end Quiet

namespace Roster

/-- What holds as long as numbers are free: what the windows know, and whose the numbers
are. -/
structure Invariant (r : Roster) : Prop where
  numbered : Numbered r.broker.workspace
  told : ∀ c ∈ r.broker.workspace.channels, c.alive = true →
    lastTold c.generation r.broker.effects = some r.broker.workspace.clientList
  arrived : r.broker.workspace.clients.Sublist r.arrivals
  distinct : (r.broker.workspace.clients.map fun client => client.info.id).Nodup
  /-- A client is there until its lease's task has taken it out. -/
  listed : ∀ lease id, (r.leases lease).client? = some id →
    ∃ client ∈ r.broker.workspace.clients, client.info.id = id ∧ client.lease = lease

variable {r : Roster}

theorem invariant_new (displayName token : String) : Invariant (new displayName token) where
  numbered := Numbered.new displayName token
  told _ hc := by cases hc
  arrived := List.Sublist.refl _
  distinct := List.nodup_nil
  listed _ _ h := by cases h

theorem Invariant.quiet (h : Invariant r) {broker : Broker}
    {result : Workspace × List Effect} (hnumbered : Numbered result.1)
    (hquiet : Quiet r.broker.workspace result) (hworkspace : broker.workspace = result.1)
    (heffects : broker.effects = r.broker.effects ++ result.2) :
    Invariant { r with broker } := by
  have hclients : broker.workspace.clients = r.broker.workspace.clients := by
    rw [hworkspace, hquiet.clients]
  have hlist : broker.workspace.clientList = r.broker.workspace.clientList := by
    rw [Workspace.clientList, hclients, Workspace.clientList]
  refine ⟨?_, ?_, ?_, ?_, ?_⟩
  · rw [hworkspace]
    exact hnumbered
  · intro c hc halive
    rw [hworkspace] at hc
    obtain ⟨d, hd, hdalive, hgen⟩ := hquiet.live c hc halive
    rw [heffects, lastTold_append_of_untold (hquiet.untold _), hlist, ← hgen]
    exact h.told d hd hdalive
  · rw [hclients]
    exact h.arrived
  · rw [hclients]
    exact h.distinct
  · rw [hclients]
    exact h.listed

theorem Invariant.attach (h : Invariant r) {events : List WindowEvent} :
    Invariant { r with
      broker := (r.broker.after events
        (r.broker.workspace.attach (r.broker.workspace.nextGeneration + 1),
          [Broker.greeting r.broker.workspace])) } := by
  refine ⟨h.numbered.attach _, ?_, h.arrived, h.distinct, h.listed⟩
  intro c hc halive
  rcases Workspace.mem_channels_attach.mp hc with hc | rfl
  · have hissued := h.numbered.issued c hc
    have huntold : ∀ e ∈ [Broker.greeting r.broker.workspace],
        e.toldTo c.generation = none := by
      intro e he
      rw [List.mem_singleton.mp he]
      exact if_neg (by omega)
    exact (lastTold_append_of_untold huntold).trans (h.told c hc halive)
  · refine lastTold_append_of_told List.mem_cons_self (if_pos rfl) ?_
    intro e he l hl
    rw [List.mem_singleton.mp he] at hl
    exact (Option.some.inj (Option.ite_none_right_eq_some.mp hl).2).symm

theorem Invariant.broker (h : Invariant r) {act : Broker.Act} {b : Broker}
    (hstep : r.broker.step act = some b) : Invariant { r with broker := b } := by
  have hnone : Quiet r.broker.workspace (r.broker.workspace, []) :=
    .of_sublist rfl rfl (List.Sublist.refl _) (by simp)
  cases Broker.change_of_step hstep with
  | attach => exact h.attach
  | dropReceiver generation =>
      exact h.quiet (h.numbered.dropReceivers _) (.dropReceivers _ _) rfl rfl
  | message generation message =>
      exact h.quiet (h.numbered.handleMessage _ _) (.handleMessage h.numbered _ _) rfl rfl
  | detach horphans =>
      exact h.quiet (h.numbered.detachChannel _ _ _) (.detachChannel _ _ _ _) rfl rfl
  | call hcall hfresh => exact h.quiet h.numbered hnone rfl (List.append_nil _).symm
  | enqueued hcall hfound => exact h.quiet (h.numbered.enqueue _ _ _) (.enqueue _ _ _ _) rfl rfl
  | refused hcall hfound => exact h.quiet (h.numbered.enqueue _ _ _) (.enqueue _ _ _ _) rfl rfl
  | giveUp hcall => exact h.quiet h.numbered hnone rfl (List.append_nil _).symm
  | expire hcall => exact h.quiet h.numbered hnone rfl (List.append_nil _).symm
  | cancelPending hcall =>
      refine h.quiet ?_ (.cancelPending _ _) rfl rfl
      exact h.numbered.of_sublist (List.Sublist.refl _) rfl rfl

theorem addClient_leases (r : Roster) (lease now : ℕ) (info : McpClient) (lease' : ℕ) :
    (r.addClient lease now info).leases lease' =
      if lease' = lease then .held (r.broker.workspace.nextClientId + 1)
      else r.leases lease' := Function.update_apply _ _ _ _

theorem mem_clients_addClient (r : Roster) (lease now : ℕ) (info : McpClient) (client : Client) :
    client ∈ (r.addClient lease now info).broker.workspace.clients ↔
      client ∈ r.broker.workspace.clients ∨ client = ⟨{ info with
        id := r.broker.workspace.nextClientId + 1, connectedAt := now }, lease⟩ := by
  rw [← @List.mem_singleton _ client]
  exact List.mem_append

theorem nodup_addClient_iff (r : Roster) (lease now : ℕ) (info : McpClient) :
    ((r.addClient lease now info).broker.workspace.clients.map fun c => c.info.id).Nodup ↔
      (r.broker.workspace.clients.map fun c => c.info.id).Nodup ∧
        r.FreeNumber (.addClient lease now info) := by
  change ((r.broker.workspace.clients ++ [_]).map _).Nodup ↔ _
  rw [List.map_append, List.map_singleton, List.nodup_append]
  simp [FreeNumber]

theorem Invariant.addClient (h : Invariant r) {lease now : ℕ} {info : McpClient}
    (hfree : r.FreeNumber (.addClient lease now info)) :
    Invariant (r.addClient lease now info) := by
  refine ⟨h.numbered.addClient lease now info, ?_, h.arrived.append (List.Sublist.refl _),
    (nodup_addClient_iff r lease now info).mpr ⟨h.distinct, hfree⟩, ?_⟩
  · intro c hc halive
    exact lastTold_broadcastClients (r.broker.workspace.addClient lease now info).1 _ hc halive
  · intro lease' id hid
    rw [addClient_leases] at hid
    split at hid
    next hsame =>
      cases hid
      exact ⟨_, (mem_clients_addClient r lease now info _).mpr (.inr rfl), rfl, hsame.symm⟩
    next hother =>
      obtain ⟨client, hclient, hid, hlease⟩ := h.listed lease' id hid
      exact ⟨client, (mem_clients_addClient r lease now info _).mpr (.inl hclient), hid, hlease⟩

theorem Invariant.dropLease (h : Invariant r) {lease : ℕ} {id : Int32}
    (hheld : r.leases lease = .held id) :
    Invariant { r with leases := Function.update r.leases lease (.dropped id) } := by
  refine ⟨h.numbered, h.told, h.arrived, h.distinct, ?_⟩
  intro lease' id' hid
  simp only [Function.update_apply] at hid
  split at hid
  next hsame =>
    cases hid
    exact h.listed lease' id (by rw [hsame, hheld]; rfl)
  · exact h.listed lease' id' hid

/-- Taking a client out tells all windows, if there is a client to take out. -/
theorem lastTold_removeClient {w : Workspace} {id : Int32} {effects : List Effect}
    (h : ∀ c ∈ w.channels, c.alive = true → lastTold c.generation effects = some w.clientList)
    {c : FrontendChannel} (hc : c ∈ (w.removeClient id).1.channels) (halive : c.alive = true) :
    lastTold c.generation (effects ++ (w.removeClient id).2) =
      some (w.removeClient id).1.clientList := by
  rw [Workspace.removeClient] at hc ⊢
  split at hc
  next hnone =>
    simp only [List.append_nil]
    exact h c hc halive
  next index hindex =>
    exact lastTold_broadcastClients { w with clients := w.clients.eraseIdx index } effects hc halive

theorem removeClient_leases (r : Roster) (lease : ℕ) (id : Int32) (lease' : ℕ) :
    (r.removeClient lease id).leases lease' =
      if lease' = lease then .removed else r.leases lease' := Function.update_apply _ _ _ _

theorem mem_removeClient_of_ne {w : Workspace} {id : Int32} {client : Client}
    (hclient : client ∈ w.clients) (hne : client.info.id ≠ id) :
    client ∈ (w.removeClient id).1.clients := by
  obtain ⟨-, heq⟩ | ⟨index, hindex, hfirst, heq⟩ := w.removeClient_clients id
  · rw [heq]
    exact hclient
  · rw [heq, List.mem_eraseIdx_iff_getElem]
    obtain ⟨i, hi, rfl⟩ := List.getElem_of_mem hclient
    refine ⟨i, hi, ?_, rfl⟩
    rintro rfl
    have hfound := List.find?_some hfirst
    exact hne (beq_iff_eq.mp hfound)

theorem Invariant.removeClient (h : Invariant r) {lease : ℕ} {id : Int32}
    (hdropped : r.leases lease = .dropped id) : Invariant (r.removeClient lease id) := by
  have hsub := r.broker.workspace.sublist_removeClient id
  refine ⟨h.numbered.removeClient id, fun c hc halive => lastTold_removeClient h.told hc halive,
    hsub.trans h.arrived, h.distinct.sublist (hsub.map _), ?_⟩
  intro lease' id' hid
  rw [removeClient_leases] at hid
  split at hid
  · cases hid
  next hother =>
    obtain ⟨client, hclient, rfl, hlease⟩ := h.listed lease' id' hid
    obtain ⟨own, hown, hownid, hownlease⟩ := h.listed lease id (by rw [hdropped]; rfl)
    refine ⟨client, mem_removeClient_of_ne hclient ?_, rfl, hlease⟩
    intro hsame
    have heq : client = own :=
      List.inj_on_of_nodup_map h.distinct hclient hown (hsame.trans hownid.symm)
    exact hother (hlease.symm.trans (heq ▸ hownlease))

theorem invariant_of_step {s t : Roster} {a : Act} (h : Invariant s) (hfree : FreeNumber s a)
    (hstep : machine.step s a = some t) : Invariant t := by
  change step s a = some t at hstep
  cases a with
  | broker act =>
      obtain ⟨b, hb, rfl⟩ := Option.map_eq_some_iff.mp hstep
      exact h.broker hb
  | addClient lease now info =>
      obtain ⟨-, ht⟩ := Option.ite_none_right_eq_some.mp hstep
      cases ht
      exact h.addClient hfree
  | dropLease lease =>
      simp only [step] at hstep
      split at hstep
      next hheld =>
        cases hstep
        exact h.dropLease hheld
      · cases hstep
  | removeClient lease =>
      simp only [step] at hstep
      split at hstep
      next hdropped =>
        cases hstep
        exact h.removeClient hdropped
      · cases hstep

theorem filter_id_eq {clients : List Client} (h : (clients.map fun c => c.info.id).Nodup)
    {client : Client} (hclient : client ∈ clients) :
    (clients.filter fun c => c.info.id = client.info.id) = [client] := by
  obtain ⟨before, after, rfl⟩ := List.append_of_mem hclient
  rw [List.map_append, List.map_cons, List.nodup_append, List.nodup_cons] at h
  obtain ⟨-, ⟨hafter, -⟩, hbefore⟩ := h
  have hnone : (before.filter fun c => c.info.id = client.info.id) = [] := by
    refine List.filter_eq_nil_iff.mpr fun c hc => ?_
    rw [decide_eq_true_eq]
    exact hbefore _ (List.mem_map_of_mem hc) _ List.mem_cons_self
  have hnone' : (after.filter fun c => c.info.id = client.info.id) = [] := by
    refine List.filter_eq_nil_iff.mpr fun c hc => ?_
    rw [decide_eq_true_eq]
    intro hsame
    exact hafter (hsame ▸ List.mem_map_of_mem hc)
  rw [List.filter_append, List.filter_cons_of_pos (by simp), hnone, hnone']
  rfl

theorem Invariant.informed (h : Invariant r) : Informed r where
  told := h.told
  distinct := by
    rw [Workspace.clientList, List.map_map]
    exact h.distinct
  arrived := h.arrived
  listed lease id hheld := by
    obtain ⟨client, hclient, rfl, hlease⟩ := h.listed lease id (by rw [hheld]; rfl)
    exact ⟨client, hlease, filter_id_eq h.distinct hclient⟩

theorem freeNumber_of_informed {s t : Roster} {a : Act} (hstep : machine.step s a = some t)
    (ht : Informed t) : FreeNumber s a := by
  cases a with
  | addClient lease now info =>
      obtain ⟨-, heq⟩ := Option.ite_none_right_eq_some.mp hstep
      cases heq
      have hdistinct := ht.distinct
      rw [Workspace.clientList, List.map_map] at hdistinct
      exact ((nodup_addClient_iff s lease now info).mp hdistinct).2
  | broker => trivial
  | dropLease => trivial
  | removeClient => trivial

/-- Whatever windows, calls and clients do, the windows know who is connected, exactly if
every agent that connects gets a number that no listed one has. -/
theorem informed_iff_freeNumbers (displayName token : String) (acts : List Act) {r : Roster}
    (hrun : machine.run (new displayName token) acts = some r) :
    (∀ before after s, acts = before ++ after →
      machine.run (new displayName token) before = some s → Informed s) ↔
    machine.Meets FreeNumber (new displayName token) acts :=
  machine.forall_prefix_iff_meets_of (fun _ _ _ hs hfree h => invariant_of_step hs hfree h)
    (fun _ hs => hs.informed) (fun _ _ _ _ h ht => freeNumber_of_informed h ht)
    (invariant_new displayName token) hrun

/-- An agent as it introduces itself; its number and the time are the record's to give. -/
def sampleClient (name : String) : McpClient := ⟨0, some name, none, none, none, none, 0⟩

/-- Two windows, one of them attached in the middle, and two clients, one of which
leaves. -/
def sampleActs : List Act :=
  [.broker .attach, .addClient 7 1 (sampleClient "a"), .broker .attach,
    .addClient 8 2 (sampleClient "b"), .dropLease 7, .removeClient 7]

theorem informed_iff_freeNumbers_latecomer :
    ∃ r, machine.run (new "project" "t") sampleActs = some r ∧ Informed r ∧
      r.broker.workspace.channels.map FrontendChannel.alive = [true, true] ∧
      r.broker.workspace.clientList.map McpClient.name = [some "b"] := by
  obtain ⟨r, hr⟩ : ∃ r, machine.run (new "project" "t") sampleActs = some r := ⟨_, rfl⟩
  have hmeets : machine.Meets FreeNumber (new "project" "t") sampleActs := by
    refine ⟨trivial, fun r hr => ⟨?_, fun s hs => ⟨trivial, fun t ht => ⟨?_, fun u hu =>
      ⟨trivial, fun v hv => ⟨trivial, fun _ _ => trivial⟩⟩⟩⟩⟩⟩
    · cases hr
      intro client hclient
      cases hclient
    · cases hr
      cases hs
      cases ht
      intro client hclient
      rw [List.mem_singleton.mp hclient]
      decide
  refine ⟨r, hr, (informed_iff_freeNumbers "project" "t" sampleActs hr).mpr hmeets sampleActs []
    r (List.append_nil _).symm hr, ?_, ?_⟩
  · cases hr
    decide
  · cases hr
    decide

def visit (lease : ℕ) : List Act :=
  [.addClient lease 0 (sampleClient "b"), .dropLease lease, .removeClient lease]

/-- One agent stays while so many others come and go. -/
def visits : ℕ → List Act
  | 0 => [.addClient 0 0 (sampleClient "a")]
  | n + 1 => visits n ++ visit (n + 1)

structure Visited (n : ℕ) (r : Roster) : Prop where
  one : ∃ client, r.broker.workspace.clients = [client] ∧ client.info.id = 1
  counted : r.broker.workspace.nextClientId = Int32.ofNat (n + 1)
  unused : ∀ lease, n < lease → r.leases lease = .unused

/-- The number that the first agent has is given out again after all the others. -/
theorem ofNat_ne_one {n : ℕ} (hn : n + 1 < 2 ^ 32) : Int32.ofNat (n + 1 + 1) ≠ 1 := by
  intro h
  have hbits := congrArg (fun i => i.toBitVec.toNat) h
  simp only [Int32.toBitVec_ofNat', BitVec.toNat_ofNat] at hbits
  have hone : (1 : Int32).toBitVec.toNat = 1 := rfl
  omega

theorem nextClientId_removeClient (w : Workspace) (id : Int32) :
    (w.removeClient id).1.nextClientId = w.nextClientId := by
  rw [Workspace.removeClient]
  split <;> rfl

theorem clients_removeClient_last {w : Workspace} {client last : Client} {id : Int32}
    (hclients : w.clients = [client, last]) (hne : client.info.id ≠ id)
    (heq : last.info.id = id) : (w.removeClient id).1.clients = [client] := by
  have hindex : w.clients.findIdx? (fun c => c.info.id == id) = some 1 := by
    rw [hclients]
    simp [List.findIdx?_cons, hne, heq]
  simp only [Workspace.removeClient, hindex]
  rw [hclients]
  rfl

theorem Visited.succ {n : ℕ} (h : Visited n r) (hn : n + 1 < 2 ^ 32) :
    ∃ t, machine.run r (visit (n + 1)) = some t ∧ Visited (n + 1) t := by
  obtain ⟨client, hclients, hid⟩ := h.one
  have hnext : r.broker.workspace.nextClientId + 1 = Int32.ofNat (n + 1 + 1) := by
    rw [h.counted, Int32.ofNat_add (n + 1) 1]
    rfl
  let s := r.addClient (n + 1) 0 (sampleClient "b")
  let id := r.broker.workspace.nextClientId + 1
  let t := { s with leases := Function.update s.leases (n + 1) (.dropped id) }
  have hadd : machine.step r (.addClient (n + 1) 0 (sampleClient "b")) = some s :=
    if_pos (h.unused (n + 1) (Nat.lt_succ_self n))
  have hheld : s.leases (n + 1) = .held id := Function.update_self _ _ _
  have hdrop : machine.step s (.dropLease (n + 1)) = some t := by
    simp only [machine, step, hheld]
    rfl
  have hdropped : t.leases (n + 1) = .dropped id := Function.update_self _ _ _
  have hremove : machine.step t (.removeClient (n + 1)) = some (t.removeClient (n + 1) id) := by
    simp only [machine, step, hdropped]
  refine ⟨t.removeClient (n + 1) id, ?_, ⟨client, ?_, hid⟩, ?_, ?_⟩
  · rw [visit, Machine.run_cons, hadd, Option.bind_some, Machine.run_cons, hdrop,
      Option.bind_some, Machine.run_cons, hremove]
    rfl
  · have htwo : t.broker.workspace.clients =
        [client, ⟨{ sampleClient "b" with id, connectedAt := 0 }, n + 1⟩] := by
      change r.broker.workspace.clients ++ _ = _
      rw [hclients]
      rfl
    refine clients_removeClient_last htwo ?_ rfl
    rw [hid]
    exact fun h => ofNat_ne_one hn (hnext.symm.trans h.symm)
  · exact (nextClientId_removeClient _ id).trans hnext
  · intro lease hlease
    have hne : lease ≠ n + 1 := by omega
    rw [removeClient_leases, if_neg hne]
    exact (Function.update_of_ne hne _ _).trans ((addClient_leases r _ _ _ _).trans
      ((if_neg hne).trans (h.unused lease (by omega))))

theorem exists_run_visits {n : ℕ} (hn : n < 2 ^ 32) :
    ∃ r, machine.run (new "project" "t") (visits n) = some r ∧ Visited n r := by
  induction n with
  | zero =>
      refine ⟨_, rfl, ⟨_, rfl, rfl⟩, rfl, ?_⟩
      intro lease hlease
      exact Function.update_of_ne (by omega) _ _
  | succ n ih =>
      obtain ⟨r, hr, hvisited⟩ := ih (by omega)
      obtain ⟨t, ht, hvisited⟩ := hvisited.succ hn
      exact ⟨t, (machine.run_append_eq_some_iff _ _ _ _).mpr ⟨r, hr, ht⟩, hvisited⟩

/-- An agent stays connected while all other numbers are given out once, and the next one
to connect gets its number. -/
theorem not_informed_wrapped :
    ∃ r, machine.run (new "project" "t")
        (visits (2 ^ 32 - 1) ++ [.addClient (2 ^ 32) 0 (sampleClient "c")]) = some r ∧
      ¬Informed r := by
  obtain ⟨s, hs, hvisited⟩ := exists_run_visits (n := 2 ^ 32 - 1) (by omega)
  obtain ⟨client, hclients, hid⟩ := hvisited.one
  let t := s.addClient (2 ^ 32) 0 (sampleClient "c")
  have hadd : machine.step s (.addClient (2 ^ 32) 0 (sampleClient "c")) = some t :=
    if_pos (hvisited.unused (2 ^ 32) (by omega))
  refine ⟨t, (machine.run_append_eq_some_iff _ _ _ _).mpr ⟨s, hs, ?_⟩, fun h => ?_⟩
  · rw [Machine.run_cons, hadd]
    rfl
  · have hfree := freeNumber_of_informed hadd h client (hclients ▸ List.mem_singleton_self _)
    rw [hid, hvisited.counted] at hfree
    exact hfree rfl

end Roster

end Kallichore
