import Kallichore.Workspaces.Registry

/-!
# Whose number it is

The generation of a channel is unique in a record for as long as the record lasts, and
the ID of a client until its 32 bits wrap around. A workspace that is deregistered and
registered again gets a new record, which counts from one again, while the tasks that
joined the old one still hold its numbers. `OwnNumbers` says that a step finds nothing of
another task under the number it hands back; `undisturbed_iff_ownNumbers` that exactly
then it leaves the others alone.

A channel whose receiver is gone may be discarded at any time, so it is the
channels with a receiver that are looked at.
-/

namespace Kallichore

/-- Another window's channel, with a receiver that is not dropped meanwhile. -/
structure Foreign (window : ℕ) (dropped : List ℕ) (c : FrontendChannel) : Prop where
  other : c.window ≠ window
  alive : c.alive = true
  kept : c.window ∉ dropped

/-- The other windows' channels stay as they are, and so do the requests that they
serve. -/
structure Spares (window : ℕ) (dropped : List ℕ) (w v : Workspace) : Prop where
  channels : ∀ c ∈ w.channels, Foreign window dropped c → c ∈ v.channels
  pending : ∀ id p, w.pending.lookup id = some p →
    ∀ c ∈ w.channels, Foreign window dropped c → c.generation = p.servedBy →
      v.pending.lookup id = some p

/-- The generations a record has given out are different, and so are the ranks of
focus. -/
structure Numbered (w : Workspace) : Prop where
  sorted : w.channels.Pairwise fun c d => c.generation < d.generation
  issued : ∀ c ∈ w.channels, c.generation ≤ w.nextGeneration
  focusSeq : ∀ c ∈ w.channels, c.focusSeq ≤ w.nextFocusSeq

namespace Workspace

section Lookup

variable (w : Workspace) {id id' : String}

theorem lookup_redispatch_of_ne (h : id' ≠ id) :
    (w.redispatch id).1.pending.lookup id' = w.pending.lookup id' := by
  unfold redispatch
  cases w.pending.lookup id with
  | none => rfl
  | some pending =>
      obtain ⟨rest, taker, -, heq⟩ :=
        dispatch_spec { w with pending := w.pending.erase id } pending.request
      simp only [heq]
      cases taker with
      | none => exact AList.lookup_erase_ne h
      | some channel => exact (AList.lookup_insert_ne h).trans (AList.lookup_erase_ne h)

theorem lookup_redispatchAll_of_notMem {orphans : List (List ℕ × String)}
    (h : id ∉ orphans.map Prod.snd) :
    (w.redispatchAll orphans).1.pending.lookup id = w.pending.lookup id := by
  induction orphans generalizing w with
  | nil => rfl
  | cons orphan orphans ih =>
      rw [List.map_cons, List.mem_cons, not_or] at h
      exact (ih _ h.2).trans ((w.dropReceivers orphan.1).lookup_redispatch_of_ne h.1)

end Lookup

/-- What the channels of a record become when some of them are found dead. -/
theorem exists_dispatched_of_redispatch (w : Workspace) (id : String) :
    ∃ taker, Dispatched w.channels (w.redispatch id).1.channels taker ∨
      (w.redispatch id).1.channels = w.channels := by
  unfold redispatch
  cases w.pending.lookup id with
  | none => exact ⟨none, Or.inr rfl⟩
  | some pending =>
      obtain ⟨rest, taker, hd, heq⟩ :=
        dispatch_spec { w with pending := w.pending.erase id } pending.request
      simp only [heq]
      exact ⟨taker, Or.inl (by cases taker <;> exact hd)⟩

theorem sublist_redispatch (w : Workspace) (id : String) :
    (w.redispatch id).1.channels.Sublist w.channels := by
  obtain ⟨taker, hd | heq⟩ := w.exists_dispatched_of_redispatch id
  · exact hd.sublist
  · rw [heq]

theorem mem_redispatch (w : Workspace) (id : String) {c : FrontendChannel}
    (hc : c ∈ w.channels) (halive : c.alive = true) : c ∈ (w.redispatch id).1.channels := by
  obtain ⟨taker, hd | heq⟩ := w.exists_dispatched_of_redispatch id
  · exact hd.mem_of_alive hc halive
  · rw [heq]
    exact hc

theorem mem_dropReceivers (w : Workspace) {windows : List ℕ} {c : FrontendChannel}
    (hc : c ∈ w.channels) (h : c.window ∉ windows) : c ∈ (w.dropReceivers windows).channels :=
  List.mem_map.mpr ⟨c, hc, by rw [if_neg h]⟩

theorem mem_redispatchAll (w : Workspace) {orphans : List (List ℕ × String)}
    {c : FrontendChannel} (hc : c ∈ w.channels) (halive : c.alive = true)
    (h : c.window ∉ orphans.flatMap Prod.fst) : c ∈ (w.redispatchAll orphans).1.channels := by
  induction orphans generalizing w with
  | nil => exact hc
  | cons orphan orphans ih =>
      rw [List.flatMap_cons, List.mem_append, not_or] at h
      exact ih _ (mem_redispatch _ _ (w.mem_dropReceivers hc h.1) halive) h.2

theorem exists_of_mem_redispatchAll (w : Workspace) {orphans : List (List ℕ × String)}
    {c : FrontendChannel} (hc : c ∈ (w.redispatchAll orphans).1.channels) :
    ∃ d ∈ w.channels, c.generation = d.generation := by
  induction orphans generalizing w with
  | nil => exact ⟨c, hc, rfl⟩
  | cons orphan orphans ih =>
      obtain ⟨d, hd, hgen⟩ := ih _ hc
      obtain ⟨e, he, rfl⟩ := exists_of_mem_dropReceivers ((sublist_redispatch _ _).subset hd)
      refine ⟨e, he, hgen.trans ?_⟩
      split <;> rfl

theorem clients_redispatch (w : Workspace) (id : String) :
    (w.redispatch id).1.clients = w.clients := by
  unfold redispatch
  cases w.pending.lookup id with
  | none => rfl
  | some pending =>
      obtain ⟨rest, taker, -, heq⟩ :=
        dispatch_spec { w with pending := w.pending.erase id } pending.request
      simp only [heq]
      cases taker <;> rfl

theorem clients_redispatchAll (w : Workspace) (orphans : List (List ℕ × String)) :
    (w.redispatchAll orphans).1.clients = w.clients := by
  induction orphans generalizing w with
  | nil => rfl
  | cons orphan orphans ih => exact (ih _).trans (clients_redispatch _ _)

theorem clients_detachChannel (w : Workspace) (now generation : ℕ)
    (orphans : List (List ℕ × String)) :
    (w.detachChannel now generation orphans).1.clients = w.clients := by
  simp only [detachChannel]
  split <;> exact clients_redispatchAll _ _

theorem clients_handleMessage (w : Workspace) (generation : ℕ) (message : FrontendMessage) :
    (w.handleMessage generation message).1.clients = w.clients := by
  cases message with
  | hello hello =>
      simp only [handleMessage]
      split <;> rfl
  | commandReply reply =>
      simp only [handleMessage]
      split <;> rfl
  | focused => rfl
  | commandsChanged => rfl
  | foregroundChanged => rfl
  | sessionsChanged => rfl

theorem clients_enqueue (w : Workspace) (now call : ℕ) (request : CommandRequest) :
    (w.enqueue now call request).1.clients = w.clients := by
  obtain ⟨rest, taker, -, heq⟩ := dispatch_spec w request
  simp only [enqueue, heq]
  cases taker <;> rfl

theorem sublist_removeClient (w : Workspace) (id : Int32) :
    (w.removeClient id).1.clients.Sublist w.clients := by
  rw [removeClient]
  split
  · exact List.Sublist.refl _
  · exact List.eraseIdx_sublist _ _

end Workspace

namespace Numbered

variable {w : Workspace}

theorem of_sublist {v : Workspace} (h : Numbered w) (hsub : v.channels.Sublist w.channels)
    (hgen : v.nextGeneration = w.nextGeneration) (hseq : v.nextFocusSeq = w.nextFocusSeq) :
    Numbered v where
  sorted := h.sorted.sublist hsub
  issued c hc := hgen ▸ h.issued c (hsub.subset hc)
  focusSeq c hc := hseq ▸ h.focusSeq c (hsub.subset hc)

theorem new (displayName token : String) : Numbered (.new displayName token) := by
  constructor <;> simp [Workspace.new]

theorem attach (h : Numbered w) (window : ℕ) : Numbered (w.attach window) := by
  refine ⟨Workspace.sorted_attach window h.sorted h.issued, ?_, ?_⟩
  · intro c hc
    obtain hc | rfl := Workspace.mem_channels_attach.mp hc
    · exact Nat.le_succ_of_le (h.issued c hc)
    · exact Nat.le_refl _
  · intro c hc
    obtain hc | rfl := Workspace.mem_channels_attach.mp hc
    · exact h.focusSeq c hc
    · exact Nat.zero_le _

theorem focus (h : Numbered w) (generation : ℕ) : Numbered (w.focus generation) := by
  have hsorted := Workspace.sorted_of_map_eq h.sorted
    (Workspace.map_generation_setFocusSeq w.channels generation (w.nextFocusSeq + 1))
  refine ⟨hsorted, ?_, ?_⟩
  · intro c hc
    obtain ⟨d, hd, rfl⟩ := Workspace.exists_of_mem_focus h.sorted hc
    split <;> exact h.issued d hd
  · intro c hc
    obtain ⟨d, hd, rfl⟩ := Workspace.exists_of_mem_focus h.sorted hc
    split
    · exact Nat.le_refl _
    · exact Nat.le_succ_of_le (h.focusSeq d hd)

theorem dropReceivers (h : Numbered w) (windows : List ℕ) :
    Numbered (w.dropReceivers windows) := by
  have hsorted := Workspace.sorted_of_map_eq h.sorted (w.map_generation_dropReceivers windows)
  refine ⟨hsorted, ?_, ?_⟩
  · intro c hc
    obtain ⟨d, hd, rfl⟩ := Workspace.exists_of_mem_dropReceivers hc
    split <;> exact h.issued d hd
  · intro c hc
    obtain ⟨d, hd, rfl⟩ := Workspace.exists_of_mem_dropReceivers hc
    split <;> exact h.focusSeq d hd

theorem redispatch (h : Numbered w) (id : String) : Numbered (w.redispatch id).1 := by
  have hsub := w.sublist_redispatch id
  unfold Workspace.redispatch at hsub ⊢
  cases hp : w.pending.lookup id with
  | none => exact h
  | some pending =>
      obtain ⟨rest, taker, -, heq⟩ :=
        Workspace.dispatch_spec { w with pending := w.pending.erase id } pending.request
      simp only [hp, heq] at hsub ⊢
      cases taker with
      | none => exact h.of_sublist hsub rfl rfl
      | some channel => exact h.of_sublist hsub rfl rfl

theorem redispatchAll (h : Numbered w) (orphans : List (List ℕ × String)) :
    Numbered (w.redispatchAll orphans).1 := by
  induction orphans generalizing w with
  | nil => exact h
  | cons orphan orphans ih => exact ih ((h.dropReceivers orphan.1).redispatch orphan.2)

theorem detachChannel (h : Numbered w) (now generation : ℕ)
    (orphans : List (List ℕ × String)) :
    Numbered (w.detachChannel now generation orphans).1 := by
  have hleft : Numbered { w with
      channels := w.channels.filter fun c => c.generation != generation } :=
    h.of_sublist List.filter_sublist rfl rfl
  have hall := hleft.redispatchAll orphans
  simp only [Workspace.detachChannel]
  split
  · exact hall
  · exact hall.of_sublist (List.Sublist.refl _) rfl rfl

theorem handleMessage (h : Numbered w) (generation : ℕ) (message : FrontendMessage) :
    Numbered (w.handleMessage generation message).1 := by
  cases message with
  | hello hello =>
      simp only [Workspace.handleMessage]
      split
      · apply Numbered.focus
        exact h.of_sublist (List.Sublist.refl _) rfl rfl
      · exact h.of_sublist (List.Sublist.refl _) rfl rfl
  | focused => exact h.focus generation
  | commandReply reply =>
      simp only [Workspace.handleMessage]
      split
      · exact h
      · exact h.of_sublist (List.Sublist.refl _) rfl rfl
  | commandsChanged => exact h.of_sublist (List.Sublist.refl _) rfl rfl
  | foregroundChanged => exact h.of_sublist (List.Sublist.refl _) rfl rfl
  | sessionsChanged => exact h.of_sublist (List.Sublist.refl _) rfl rfl

theorem enqueue (h : Numbered w) (now call : ℕ) (request : CommandRequest) :
    Numbered (w.enqueue now call request).1 := by
  obtain ⟨rest, taker, hd, heq⟩ := Workspace.dispatch_spec w request
  simp only [Workspace.enqueue, heq]
  cases taker with
  | none => exact h.of_sublist hd.sublist rfl rfl
  | some channel => exact h.of_sublist hd.sublist rfl rfl

theorem addClient (h : Numbered w) (lease now : ℕ) (info : McpClient) :
    Numbered (w.addClient lease now info).1 :=
  h.of_sublist (List.Sublist.refl _) rfl rfl

theorem removeClient (h : Numbered w) (id : Int32) : Numbered (w.removeClient id).1 := by
  unfold Workspace.removeClient
  split
  · exact h
  · exact h.of_sublist (List.Sublist.refl _) rfl rfl

end Numbered

namespace Workspace

variable {w : Workspace} {window generation : ℕ}

/-- A window that takes focus touches no other, unless another has its number. -/
theorem spares_focus_iff (hw : Numbered w) (window generation : ℕ) :
    Spares window [] w (w.focus generation) ↔
      ∀ c ∈ w.channels, Foreign window [] c → c.generation ≠ generation := by
  constructor
  · intro h c hc hforeign hgen
    obtain ⟨d, hd, heq⟩ := exists_of_mem_focus hw.sorted (h.channels c hc hforeign)
    split at heq
    · have hseq := hw.focusSeq c hc
      rw [heq] at hseq
      exact absurd hseq (Nat.not_succ_le_self _)
    · exact absurd (heq ▸ hgen) ‹_›
  · intro h
    refine ⟨fun c hc hforeign => ?_, fun _ _ hp _ _ _ _ => hp⟩
    exact mem_setFocusSeq_of_ne hc (h c hc hforeign)

/-- A reply touches no other window, unless another serves the request it names. -/
theorem spares_reply_iff (reply : CommandReply) :
    Spares window [] w (w.handleMessage generation (.commandReply reply)).1 ↔
      ∀ p, w.pending.lookup reply.id = some p → ∀ c ∈ w.channels, Foreign window [] c →
        c.generation ≠ p.servedBy := by
  simp only [handleMessage]
  cases hp : w.pending.lookup reply.id with
  | none => simpa using ⟨fun _ h _ => h, fun _ _ hq _ _ _ _ => hq⟩
  | some p =>
      constructor
      · rintro h _ ⟨⟩ c hc hforeign hgen
        have hstill := h.pending reply.id p hp c hc hforeign hgen
        rw [show (w.pending.erase reply.id).lookup reply.id = none from AList.lookup_erase _ _]
          at hstill
        cases hstill
      · intro h
        refine ⟨fun _ hc _ => hc, ?_⟩
        intro id q hq c hc hforeign hgen
        by_cases hid : id = reply.id
        · subst hid
          obtain rfl : p = q := Option.some.inj (hp.symm.trans hq)
          exact absurd hgen (h p rfl c hc hforeign)
        · exact (AList.lookup_erase_ne hid).trans hq

theorem mem_detachChannel {now : ℕ} {orphans : List (List ℕ × String)} {c : FrontendChannel}
    (hc : c ∈ w.channels) (halive : c.alive = true) (hkept : c.window ∉ orphans.flatMap Prod.fst)
    (hgen : c.generation ≠ generation) :
    c ∈ (w.detachChannel now generation orphans).1.channels := by
  have hfilter : c ∈ w.channels.filter fun c => c.generation != generation :=
    List.mem_filter.mpr ⟨hc, bne_iff_ne.mpr hgen⟩
  simp only [detachChannel]
  split
  · exact mem_redispatchAll _ hfilter halive hkept
  · exact mem_redispatchAll _ hfilter halive hkept

theorem lookup_detachChannel {now : ℕ} {orphans : List (List ℕ × String)} {c : FrontendChannel}
    (hc : c ∈ (w.detachChannel now generation orphans).1.channels) {id : String}
    (hid : id ∉ orphans.map Prod.snd) :
    (w.detachChannel now generation orphans).1.pending.lookup id = w.pending.lookup id := by
  simp only [detachChannel] at hc ⊢
  split at hc
  · rw [if_pos ‹_›]
    exact lookup_redispatchAll_of_notMem _ hid
  · rename_i hempty
    rw [connected, Bool.not_eq_true, Bool.not_eq_false', List.isEmpty_iff] at hempty
    rw [hempty] at hc
    cases hc

theorem spares_detachChannel_iff {now : ℕ} {orphans : List (List ℕ × String)}
    (horphans : (orphans.map Prod.snd).Perm (w.orphaned generation)) :
    Spares window (orphans.flatMap Prod.fst) w (w.detachChannel now generation orphans).1 ↔
      ∀ c ∈ w.channels, Foreign window (orphans.flatMap Prod.fst) c →
        c.generation ≠ generation := by
  constructor
  · intro h c hc hforeign hgen
    have hstill := h.channels c hc hforeign
    have hfrom : ∃ d ∈ w.channels.filter fun c => c.generation != generation,
        c.generation = d.generation := by
      simp only [detachChannel] at hstill
      split at hstill <;> exact exists_of_mem_redispatchAll _ hstill
    obtain ⟨d, hd, heq⟩ := hfrom
    exact absurd (heq.symm.trans hgen) (bne_iff_ne.mp (List.mem_filter.mp hd).2)
  · intro h
    have hstay : ∀ c ∈ w.channels, Foreign window (orphans.flatMap Prod.fst) c →
        c ∈ (w.detachChannel now generation orphans).1.channels := by
      intro c hc hforeign
      exact mem_detachChannel hc hforeign.alive hforeign.kept (h c hc hforeign)
    refine ⟨hstay, ?_⟩
    intro id p hp c hc hforeign hgen
    rw [lookup_detachChannel (hstay c hc hforeign), hp]
    rw [horphans.mem_iff]
    intro hmem
    obtain ⟨⟨i, q⟩, hq, rfl⟩ := List.mem_map.mp hmem
    obtain ⟨hq, hserved⟩ := List.mem_filter.mp hq
    obtain rfl : p = q := Option.some.inj (hp.symm.trans (AList.mem_lookup_iff.mpr hq))
    exact h c hc hforeign (hgen.trans (beq_iff_eq.mp hserved))

/-- Every lease lists one client at most. -/
def LeasesApart (w : Workspace) : Prop := w.clients.Pairwise fun c d => c.lease ≠ d.lease

/-- Taking a client out either finds nobody, or takes the first one that has the number. -/
theorem removeClient_clients (w : Workspace) (id : Int32) :
    (w.clients.find? fun c => c.info.id == id) = none ∧ (w.removeClient id).1.clients = w.clients ∨
      ∃ index, ∃ h : index < w.clients.length,
        (w.clients.find? fun c => c.info.id == id) = some w.clients[index] ∧
          (w.removeClient id).1.clients = w.clients.eraseIdx index := by
  unfold removeClient
  cases hfind : w.clients.findIdx? fun c => c.info.id == id with
  | none =>
      refine .inl ⟨?_, rfl⟩
      simpa [List.find?_eq_none] using List.findIdx?_eq_none_iff.mp hfind
  | some index =>
      obtain ⟨hindex, hfound, hfirst⟩ := List.findIdx?_eq_some_iff_getElem.mp hfind
      refine .inr ⟨index, hindex, ?_, rfl⟩
      refine List.find?_eq_some_iff_getElem.mpr ⟨hfound, index, hindex, rfl, ?_⟩
      intro j hj
      simpa using hfirst j hj

/-- A dropped lease takes no other client out, unless another is the first to have its
number. -/
theorem clients_removeClient_iff (hw : w.LeasesApart) {lease : ℕ} {client : Int32} :
    (∀ c ∈ w.clients, c.lease ≠ lease → c ∈ (w.removeClient client).1.clients) ↔
      ∀ c, (w.clients.find? fun c => c.info.id == client) = some c → c.lease = lease := by
  obtain ⟨hnone, heq⟩ | ⟨index, hindex, hfirst, heq⟩ := w.removeClient_clients client
  · rw [heq, hnone]
    refine iff_of_true (fun c hc _ => hc) ?_
    intro c hc
    cases hc
  · rw [heq, hfirst]
    simp only [List.mem_eraseIdx_iff_getElem]
    constructor
    · rintro h c ⟨⟩
      by_contra hlease
      obtain ⟨i, hi, hne, hsame⟩ := h _ (List.getElem_mem hindex) hlease
      obtain hlt | hlt := Nat.lt_or_gt_of_ne hne
      · exact List.pairwise_iff_getElem.mp hw i index hi hindex hlt (congrArg Client.lease hsame)
      · exact List.pairwise_iff_getElem.mp hw index i hindex hi hlt
          (congrArg Client.lease hsame.symm)
    · intro h c hc hlease
      obtain ⟨i, hi, rfl⟩ := List.getElem_of_mem hc
      refine ⟨i, hi, ?_, rfl⟩
      rintro rfl
      exact hlease (h _ rfl)

end Workspace

namespace Registry

/-- What the task behind a step hands back affects no other task of the registry:
a message or the detach of a window no other window's channel, focus or pending
requests, a dropped lease no other client. -/
def Undisturbed (r : Registry) (a : Act) (t : Registry) : Prop :=
  match a with
  | .handleMessage window _ => ∀ id w, r.workspaces.lookup id = some w →
      ∃ v, t.workspaces.lookup id = some v ∧ Spares window [] w v
  | .detachChannel window _ orphans => ∀ id w, r.workspaces.lookup id = some w →
      ∃ v, t.workspaces.lookup id = some v ∧ Spares window (orphans.flatMap Prod.fst) w v
  | .removeClient lease => ∀ id w, r.workspaces.lookup id = some w →
      ∃ v, t.workspaces.lookup id = some v ∧ ∀ c ∈ w.clients, c.lease ≠ lease → c ∈ v.clients
  | _ => True

/-- The record found under the workspace ID of a task has not given the number that
the task hands back to another one (the first client that has the ID of a dropped lease is
the lease's), and a reply names no request that another window serves. -/
def OwnNumbers (r : Registry) : Act → Prop
  | .handleMessage window message => ∀ id generation w,
      r.windows window = .joined id generation → r.workspaces.lookup id = some w →
        (message.focuses = true → ∀ c ∈ w.channels, Foreign window [] c →
          c.generation ≠ generation) ∧
        ∀ reply, message = .commandReply reply → ∀ p, w.pending.lookup reply.id = some p →
          ∀ c ∈ w.channels, Foreign window [] c → c.generation ≠ p.servedBy
  | .detachChannel window _ orphans => ∀ id generation w,
      r.windows window = .joined id generation → r.workspaces.lookup id = some w →
        ∀ c ∈ w.channels, Foreign window (orphans.flatMap Prod.fst) c →
          c.generation ≠ generation
  | .removeClient lease => ∀ id client w,
      r.leases lease = .joined id client → r.workspaces.lookup id = some w →
        ∀ c, (w.clients.find? fun c => c.info.id == client) = some c → c.lease = lease
  | _ => True

/-- Every record gives out different generations. -/
def AllNumbered (r : Registry) : Prop :=
  ∀ id w, r.workspaces.lookup id = some w → Numbered w

/-- Every lease lists one client at most, in one record. -/
structure AllApart (r : Registry) : Prop where
  apart : ∀ id w, r.workspaces.lookup id = some w → w.LeasesApart
  begun : ∀ id w, r.workspaces.lookup id = some w → ∀ c ∈ w.clients, r.leases c.lease ≠ .fresh

theorem numbered_modify {r : Registry} (hr : AllNumbered r) {id : String}
    {f : Workspace → Workspace} (hf : ∀ w, Numbered w → Numbered (f w)) :
    AllNumbered (r.modify id f) := by
  intro id' w hw
  change (r.workspaces.modify id f).lookup id' = some w at hw
  rw [Workspaces.lookup_modify] at hw
  split at hw
  · obtain ⟨v, hv, rfl⟩ := Option.map_eq_some_iff.mp hw
    exact hf v (hr id v hv)
  · exact hr id' w hw

theorem eq_or_lookup_of_insert {workspaces : Workspaces} {id id' : String} {w v : Workspace}
    (hv : (workspaces.insert id w).lookup id' = some v) :
    v = w ∨ workspaces.lookup id' = some v := by
  by_cases hid : id' = id
  · subst hid
    rw [AList.lookup_insert] at hv
    exact .inl (Option.some.inj hv).symm
  · rw [AList.lookup_insert_ne hid] at hv
    exact .inr hv

theorem numbered_register {r : Registry} (hr : AllNumbered r)
    {registration : McpWorkspaceRegistration} {draws : List String} {bytes : List UInt8}
    {result : Workspaces × String × String}
    (h : r.workspaces.register registration draws bytes = some result) {id : String}
    {w : Workspace} (hw : result.1.lookup id = some w) : Numbered w := by
  unfold Workspaces.register at h
  split at h
  · rename_i id' v hexisting
    cases h
    obtain ⟨i, hi, hmap⟩ := Option.bind_eq_some_iff.mp hexisting
    obtain ⟨u, hu, heq⟩ := Option.map_eq_some_iff.mp hmap
    cases heq
    obtain rfl | hw := eq_or_lookup_of_insert hw
    · exact (hr _ _ hu).of_sublist (List.Sublist.refl _) rfl rfl
    · exact hr _ _ hw
  · obtain ⟨id', -, rfl⟩ := Option.map_eq_some_iff.mp h
    obtain rfl | hw := eq_or_lookup_of_insert hw
    · exact Numbered.new _ _
    · exact hr _ _ hw

theorem numbered_of_step {r t : Registry} {a : Act} (hr : AllNumbered r)
    (h : machine.step r a = some t) : AllNumbered t := by
  cases change_of_step h with
  | register hresult => exact fun id w hw => numbered_register hr hresult hw
  | deregister id =>
      intro id' w hw
      simp only [Workspaces.deregister] at hw
      split at hw
      · exact hr id' w hw
      · by_cases hid : id' = id
        · rw [hid, AList.lookup_erase] at hw
          cases hw
        · rw [AList.lookup_erase_ne hid] at hw
          exact hr id' w hw
  | attached => exact numbered_modify hr fun w hw => hw.attach _
  | unknown => exact hr
  | handleMessage => exact numbered_modify hr fun w hw => hw.handleMessage _ _
  | detachChannel => exact numbered_modify hr fun w hw => hw.detachChannel _ _ _
  | dropReceiver => exact numbered_modify hr fun w hw => hw.dropReceivers _
  | added => exact numbered_modify hr fun w hw => hw.addClient _ _ _
  | unlisted => exact hr
  | removeClient => exact numbered_modify hr fun w hw => hw.removeClient _
  | enqueue => exact numbered_modify hr fun w hw => hw.enqueue _ _ _
  | cancelPending =>
      exact numbered_modify hr fun w hw =>
        hw.of_sublist (List.Sublist.refl _) rfl rfl

theorem numbered_of_run {acts : List Act} {r : Registry}
    (hrun : machine.run new acts = some r) : AllNumbered r := by
  have hnew : AllNumbered new := by
    intro id w hw
    cases hw
  exact machine.run_of_step (fun _ _ _ => numbered_of_step) hnew hrun

theorem AllApart.of_sublist {r t : Registry} (hr : AllApart r)
    (hclients : ∀ id w, t.workspaces.lookup id = some w → w.clients = [] ∨
      ∃ id' v, r.workspaces.lookup id' = some v ∧ w.clients.Sublist v.clients)
    (hleases : ∀ lease, t.leases lease = .fresh → r.leases lease = .fresh) : AllApart t where
  apart id w hw := by
    obtain hempty | ⟨id', v, hv, hsub⟩ := hclients id w hw
    · rw [Workspace.LeasesApart, hempty]
      exact List.Pairwise.nil
    · exact (hr.apart id' v hv).sublist hsub
  begun id w hw c hc hfresh := by
    obtain hempty | ⟨id', v, hv, hsub⟩ := hclients id w hw
    · rw [hempty] at hc
      cases hc
    · exact hr.begun id' v hv c (hsub.subset hc) (hleases _ hfresh)

theorem exists_sublist_of_modify {r : Registry} {id : String} {f : Workspace → Workspace}
    (hf : ∀ w, (f w).clients.Sublist w.clients) {id' : String} {w : Workspace}
    (hw : (r.modify id f).workspaces.lookup id' = some w) :
    ∃ id' v, r.workspaces.lookup id' = some v ∧ w.clients.Sublist v.clients := by
  change (r.workspaces.modify id f).lookup id' = some w at hw
  rw [Workspaces.lookup_modify] at hw
  split at hw
  · obtain ⟨v, hv, rfl⟩ := Option.map_eq_some_iff.mp hw
    exact ⟨id, v, hv, hf v⟩
  · exact ⟨id', w, hw, List.Sublist.refl _⟩

theorem AllApart.modify {r : Registry} (hr : AllApart r) (id : String)
    {f : Workspace → Workspace} (hf : ∀ w, (f w).clients.Sublist w.clients) :
    AllApart (r.modify id f) :=
  hr.of_sublist (fun _ _ hw => .inr (exists_sublist_of_modify hf hw)) fun _ h => h

theorem AllApart.windows {r : Registry} (hr : AllApart r) (windows : ℕ → Enrolment ℕ) :
    AllApart { r with windows } := ⟨hr.apart, hr.begun⟩

theorem AllApart.lease {r : Registry} (hr : AllApart r) (lease : ℕ) {phase : Enrolment Int32}
    (hphase : phase ≠ .fresh) :
    AllApart { r with leases := Function.update r.leases lease phase } := by
  refine hr.of_sublist (fun id w hw => .inr ⟨id, w, hw, List.Sublist.refl _⟩) ?_
  intro lease' hfresh
  simp only [Function.update_apply] at hfresh
  split at hfresh
  · exact absurd hfresh hphase
  · exact hfresh

theorem AllApart.register {r : Registry} (hr : AllApart r)
    {registration : McpWorkspaceRegistration} {draws : List String} {bytes : List UInt8}
    {result : Workspaces × String × String}
    (h : r.workspaces.register registration draws bytes = some result) :
    AllApart { r with workspaces := result.1 } := by
  refine hr.of_sublist ?_ fun _ hfresh => hfresh
  intro id w hw
  unfold Workspaces.register at h
  split at h
  · rename_i id' v hexisting
    cases h
    obtain ⟨i, hi, hmap⟩ := Option.bind_eq_some_iff.mp hexisting
    obtain ⟨u, hu, heq⟩ := Option.map_eq_some_iff.mp hmap
    cases heq
    obtain rfl | hw := eq_or_lookup_of_insert hw
    · exact .inr ⟨id', v, hu, List.Sublist.refl _⟩
    · exact .inr ⟨id, w, hw, List.Sublist.refl _⟩
  · obtain ⟨id', -, rfl⟩ := Option.map_eq_some_iff.mp h
    obtain rfl | hw := eq_or_lookup_of_insert hw
    · exact .inl rfl
    · exact .inr ⟨id, w, hw, List.Sublist.refl _⟩

theorem AllApart.addClient {r : Registry} (hr : AllApart r) {lease : ℕ} {id : String}
    {now : ℕ} {info : McpClient} {number : Int32} (hlease : r.leases lease = .fresh) :
    AllApart { r.modify id fun w => (w.addClient lease now info).1 with
      leases := Function.update r.leases lease (.joined id number) } := by
  have hcases : ∀ id' w, (r.modify id fun w => (w.addClient lease now info).1).workspaces.lookup
      id' = some w → ∃ id' v, r.workspaces.lookup id' = some v ∧
        (w = v ∨ w = (v.addClient lease now info).1) := by
    intro id' w hw
    change (r.workspaces.modify id _).lookup id' = some w at hw
    rw [Workspaces.lookup_modify] at hw
    split at hw
    · obtain ⟨v, hv, rfl⟩ := Option.map_eq_some_iff.mp hw
      exact ⟨id, v, hv, .inr rfl⟩
    · exact ⟨id', w, hw, .inl rfl⟩
  constructor
  · intro id' w hw
    obtain ⟨id', v, hv, rfl | rfl⟩ := hcases id' w hw
    · exact hr.apart id' _ hv
    · refine List.pairwise_append.mpr ⟨hr.apart id' v hv, List.pairwise_singleton _ _, ?_⟩
      intro c hc d hd heq
      rw [List.mem_singleton.mp hd] at heq
      exact hr.begun id' v hv c hc (heq ▸ hlease)
  · intro id' w hw c hc hfresh
    simp only [Function.update_apply] at hfresh
    split at hfresh
    · cases hfresh
    next hother =>
      obtain ⟨id', v, hv, rfl | rfl⟩ := hcases id' w hw
      · exact hr.begun id' _ hv c hc hfresh
      · obtain hc | hc := List.mem_append.mp hc
        · exact hr.begun id' v hv c hc hfresh
        · rw [List.mem_singleton.mp hc] at hother
          exact hother rfl

theorem apart_of_step {r t : Registry} {a : Act} (hr : AllApart r)
    (h : machine.step r a = some t) : AllApart t := by
  have hsame : ∀ {w v : Workspace}, v.clients = w.clients → v.clients.Sublist w.clients :=
    fun heq => heq ▸ List.Sublist.refl _
  cases change_of_step h with
  | register hresult => exact hr.register hresult
  | deregister id =>
      refine hr.of_sublist (fun id' w hw => .inr ⟨id', w, ?_, List.Sublist.refl _⟩) fun _ h => h
      simp only [Workspaces.deregister] at hw
      split at hw
      · exact hw
      · by_cases hid : id' = id
        · rw [hid, AList.lookup_erase] at hw
          cases hw
        · rwa [AList.lookup_erase_ne hid] at hw
  | attached => exact (hr.modify _ fun w => hsame (v := w.attach _) rfl).windows _
  | unknown => exact hr.windows _
  | handleMessage => exact hr.modify _ fun w => hsame (w.clients_handleMessage _ _)
  | detachChannel =>
      exact (hr.modify _ fun w => hsame (w.clients_detachChannel _ _ _)).windows _
  | dropReceiver => exact hr.modify _ fun w => List.Sublist.refl _
  | added hlease => exact hr.addClient hlease
  | unlisted => exact hr.lease _ (by simp)
  | removeClient =>
      exact (hr.modify _ fun w => w.sublist_removeClient _).lease _ (by simp)
  | enqueue => exact hr.modify _ fun w => hsame (w.clients_enqueue _ _ _)
  | cancelPending => exact hr.modify _ fun w => List.Sublist.refl _

theorem apart_of_run {acts : List Act} {r : Registry}
    (hrun : machine.run new acts = some r) : AllApart r := by
  have hnew : AllApart new := by
    constructor
    · intro id w hw
      cases hw
    · intro id w hw
      cases hw
  exact machine.run_of_step (fun _ _ _ => apart_of_step) hnew hrun

theorem forall_modify_iff {r : Registry} {id : String} {f : Workspace → Workspace}
    {P : Workspace → Workspace → Prop} (hrefl : ∀ w, P w w) :
    (∀ id' w, r.workspaces.lookup id' = some w →
      ∃ v, (r.workspaces.modify id f).lookup id' = some v ∧ P w v) ↔
    ∀ w, r.workspaces.lookup id = some w → P w (f w) := by
  constructor
  · intro h w hw
    obtain ⟨v, hv, hP⟩ := h id w hw
    rw [Workspaces.lookup_modify, if_pos rfl, hw] at hv
    cases hv
    exact hP
  · intro h id' w hw
    rw [Workspaces.lookup_modify]
    by_cases hid : id' = id
    · subst hid
      exact ⟨f w, by rw [if_pos rfl, hw]; rfl, h w hw⟩
    · exact ⟨w, by rw [if_neg hid, hw], hrefl w⟩

theorem spares_refl (window : ℕ) (dropped : List ℕ) (w : Workspace) : Spares window dropped w w :=
  ⟨fun _ hc _ => hc, fun _ _ hp _ _ _ _ => hp⟩

theorem spares_handleMessage_iff {w : Workspace} (hw : Numbered w) {window generation : ℕ}
    {message : FrontendMessage} :
    Spares window [] w (w.handleMessage generation message).1 ↔
      (message.focuses = true → ∀ c ∈ w.channels, Foreign window [] c →
        c.generation ≠ generation) ∧
      ∀ reply, message = .commandReply reply → ∀ p, w.pending.lookup reply.id = some p →
        ∀ c ∈ w.channels, Foreign window [] c → c.generation ≠ p.servedBy := by
  -- a message that neither takes focus nor answers leaves channels and requests alone
  have hquiet : ∀ v, v.channels = w.channels → v.pending = w.pending → Spares window [] w v := by
    intro v hchannels hpending
    exact ⟨fun c hc _ => hchannels ▸ hc, fun id p hp _ _ _ _ => hpending ▸ hp⟩
  cases message with
  | hello hello =>
      cases hfocused : hello.focused with
      | false =>
          simp only [Workspace.handleMessage, FrontendMessage.focuses, hfocused,
            Bool.false_eq_true, reduceIte]
          exact ⟨fun _ => by simp, fun _ => hquiet _ rfl rfl⟩
      | true =>
          simp only [Workspace.handleMessage, FrontendMessage.focuses, hfocused, reduceIte]
          have hiff := Workspace.spares_focus_iff hw window generation
          constructor
          · intro h
            exact ⟨fun _ => hiff.mp ⟨h.channels, h.pending⟩, by simp⟩
          · intro h
            have hspares := hiff.mpr (h.1 trivial)
            exact ⟨hspares.channels, hspares.pending⟩
  | focused =>
      have hiff := Workspace.spares_focus_iff hw window generation
      constructor
      · intro h
        exact ⟨fun _ => hiff.mp h, by simp⟩
      · intro h
        exact hiff.mpr (h.1 rfl)
  | commandReply reply =>
      constructor
      · intro h
        refine ⟨by simp [FrontendMessage.focuses], ?_⟩
        rintro _ ⟨⟩
        exact (Workspace.spares_reply_iff reply).mp h
      · intro h
        exact (Workspace.spares_reply_iff reply).mpr (h.2 reply rfl)
  | commandsChanged =>
      exact ⟨fun _ => by simp [FrontendMessage.focuses], fun _ => hquiet _ rfl rfl⟩
  | foregroundChanged =>
      exact ⟨fun _ => by simp [FrontendMessage.focuses], fun _ => hquiet _ rfl rfl⟩
  | sessionsChanged =>
      exact ⟨fun _ => by simp [FrontendMessage.focuses], fun _ => hquiet _ rfl rfl⟩

theorem undisturbed_iff_of_step {r t : Registry} {a : Act} (hr : AllNumbered r)
    (hapart : AllApart r) (h : machine.step r a = some t) : Undisturbed r a t ↔ OwnNumbers r a := by
  cases change_of_step h with
  | @handleMessage window message id generation hwindow =>
      refine (forall_modify_iff fun w => spares_refl window [] w).trans ?_
      constructor
      · intro h id' generation' w hwindow' hw
        cases hwindow.symm.trans hwindow'
        exact (spares_handleMessage_iff (hr id w hw)).mp (h w hw)
      · intro h w hw
        exact (spares_handleMessage_iff (hr id w hw)).mpr (h id generation w hwindow hw)
  | @detachChannel window now orphans id generation hwindow horphans =>
      have hperm : ∀ w, r.workspaces.lookup id = some w →
          (orphans.map Prod.snd).Perm (w.orphaned generation) := by
        intro w hw
        simpa [detachable, hw] using horphans
      refine (forall_modify_iff fun w => spares_refl window _ w).trans ?_
      constructor
      · intro h id' generation' w hwindow' hw
        cases hwindow.symm.trans hwindow'
        exact (Workspace.spares_detachChannel_iff (hperm w hw)).mp (h w hw)
      · intro h w hw
        exact (Workspace.spares_detachChannel_iff (hperm w hw)).mpr (h id generation w hwindow hw)
  | @removeClient lease id client hlease =>
      refine (forall_modify_iff (P := fun w v => ∀ c ∈ w.clients, c.lease ≠ lease →
        c ∈ v.clients) fun w c hc _ => hc).trans ?_
      constructor
      · intro h id' client' w hlease' hw
        cases hlease.symm.trans hlease'
        exact (Workspace.clients_removeClient_iff (hapart.apart id w hw)).mp (h w hw)
      · intro h w hw
        exact (Workspace.clients_removeClient_iff (hapart.apart id w hw)).mpr
          (h id client w hlease hw)
  | _ => exact Iff.rfl

/-- Along a run, no step disturbs another task exactly if every step finds nothing
of another task under the numbers it hands back. -/
theorem undisturbed_iff_ownNumbers (acts : List Act) {r : Registry}
    (hrun : machine.run new acts = some r) :
    (∀ before a after u v, acts = before ++ a :: after → machine.run new before = some u →
      machine.step u a = some v → Undisturbed u a v) ↔ machine.Meets OwnNumbers new acts := by
  rw [Machine.meets_iff_forall_append]
  constructor
  · intro h before a after u heq hu
    rw [heq] at hrun
    obtain ⟨u', hu', hrest⟩ := (machine.run_append_eq_some_iff new r before (a :: after)).mp hrun
    obtain rfl : u = u' := Option.some.inj (hu.symm.trans hu')
    obtain ⟨v, hv, -⟩ := (machine.run_cons_eq_some_iff u r a after).mp hrest
    have hiff := undisturbed_iff_of_step (numbered_of_run hu) (apart_of_run hu) hv
    exact hiff.mp (h before a after u v heq hu hv)
  · intro h before a after u v heq hu hv
    have hiff := undisturbed_iff_of_step (numbered_of_run hu) (apart_of_run hu) hv
    exact hiff.mpr (h before a after u heq hu)

/-- Two windows of one record, the first of which closes. -/
theorem undisturbed_iff_ownNumbers_siblings :
    ∃ u v, machine.run new
        [.register ⟨some "w", "W", none⟩ [] (List.replicate 32 0), .attachChannel 0 "w",
        .attachChannel 1 "w"] = some u ∧
      machine.step u (.detachChannel 0 6 []) = some v ∧
      Undisturbed u (.detachChannel 0 6 []) v := by
  refine ⟨_, _, rfl, rfl, (undisturbed_iff_ownNumbers
    [.register ⟨some "w", "W", none⟩ [] (List.replicate 32 0), .attachChannel 0 "w",
    .attachChannel 1 "w", .detachChannel 0 6 []] rfl).mpr ?_
    [.register ⟨some "w", "W", none⟩ [] (List.replicate 32 0), .attachChannel 0 "w",
    .attachChannel 1 "w"] _ [] _ _ rfl rfl rfl⟩
  refine ⟨trivial, fun r hr => ⟨trivial, fun s hs => ⟨trivial, fun t ht => ⟨?_, ?_⟩⟩⟩⟩
  · cases hr
    cases hs
    cases ht
    intro id generation w hwindow hw c hc hforeign
    cases hwindow
    cases hw
    change c ∈ [⟨1, 0, 0, true⟩, ⟨2, 0, 1, true⟩] at hc
    have hchannels : c = ⟨1, 0, 0, true⟩ ∨ c = ⟨2, 0, 1, true⟩ := by simpa using hc
    obtain rfl | rfl := hchannels
    · exact absurd rfl hforeign.other
    · decide
  · exact fun _ _ => trivial

/-- The workspace is registered again while the connection of a window of the old
record is ending; the late detach takes the new window's channel out, and with it
the request that the new window serves. -/
theorem not_undisturbed_successor :
    ∃ u v, machine.run new
        [.register ⟨some "w", "W", none⟩ [] (List.replicate 32 0), .attachChannel 0 "w",
        .deregister "w", .register ⟨some "w", "W", none⟩ [] (List.replicate 32 1),
        .attachChannel 1 "w", .enqueue "w" 5 0 ⟨"r", "command", [], ⟨none, none⟩⟩] = some u ∧
      machine.step u (.detachChannel 0 6 [([], "r")]) = some v ∧
      ¬Undisturbed u (.detachChannel 0 6 [([], "r")]) v := by
  refine ⟨_, _, rfl, rfl, fun h => ?_⟩
  obtain ⟨w, hw, hspares⟩ := h "w" _ rfl
  cases hw
  have hstill := hspares.channels ⟨1, 0, 1, true⟩ (by decide) ⟨by decide, rfl, by decide⟩
  exact absurd hstill (by decide)

end Registry

end Kallichore
