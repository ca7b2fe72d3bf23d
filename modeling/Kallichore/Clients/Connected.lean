import Kallichore.Clients.Basic
import Mathlib.Logic.Function.Basic

/-!
# One client, and whether the session is connected

What a session promises of its clients: one loop reads the channel, a client that is
replaced gets to know, and the session is marked as connected as long as a client is
attached. None of it is enforced. The client that is replaced may be outside of `select!`
when it is notified, or prefer something else that is ready; two connections may find the
list empty before either of them enters it; and a client that leaves marks the session as
disconnected even if the next one has attached.

`Orderly` rules these out step by step, and nothing else: `sound_step_iff` is an
equivalence.
-/

namespace Kallichore

namespace SessionClients

open ClientSession

/-- At most one client's loop reads the channel, apart from clients that were replaced. -/
def OneReader (s : SessionClients) : Prop :=
  ∀ i j c d, s.client i = some c → s.client j = some d → c.Current → d.Current → i = j

/-- No notification of a replaced client is lost: it has woken the client, or the client's
loop has ended. -/
def NoneLost (s : SessionClients) : Prop :=
  ∀ n c, s.client n = some c → c.replaced = true → c.Told

/-- The session is marked as connected, with the socket path of an attached client, if
there is one, and as disconnected if there is none. -/
def Truthful (s : SessionClients) : Prop :=
  if s.connected then ∃ n c, s.client n = some c ∧ c.Attached ∧ c.socketPath = s.clientSocketPath
  else s.clientSocketPath = none ∧ ∀ n c, s.client n = some c → ¬ c.Attached

structure Sound (s : SessionClients) : Prop where
  oneReader : s.OneReader
  noneLost : s.NoneLost
  truthful : s.Truthful

/-- Once every replaced client has processed its notification, at most one loop reads. -/
theorem Sound.eq_of_reading {s : SessionClients} (hs : s.Sound)
    (hprocessed : ∀ n c, s.client n = some c → c.replaced = true → ¬ c.Reading)
    {i j : ℕ} {c d : ClientSession} (hc : s.client i = some c) (hd : s.client j = some d)
    (hreadsc : c.Reading) (hreadsd : d.Reading) : i = j := by
  have hcurrent : ∀ n e, s.client n = some e → e.Reading → e.Current := by
    intro n e he hreads
    refine ⟨hreads, ?_⟩
    cases hreplaced : e.replaced with
    | false => rfl
    | true => exact absurd hreads (hprocessed n e he hreplaced)
  exact hs.oneReader i j c d hc hd (hcurrent i c hc hreadsc) (hcurrent j d hd hreadsd)

theorem Sound.connected_iff {s : SessionClients} (hs : s.Sound) :
    s.connected = true ↔ ∃ n c, s.client n = some c ∧ c.Attached := by
  have htruthful := hs.truthful
  simp only [Truthful] at htruthful
  split at htruthful
  next hconnected =>
    obtain ⟨n, c, hc, hattached, -⟩ := htruthful
    exact iff_of_true hconnected ⟨n, c, hc, hattached⟩
  next hconnected =>
    refine iff_of_false hconnected ?_
    rintro ⟨n, c, hc, hattached⟩
    exact htruthful.2 n c hc hattached

/-- The step keeps the clients in order: a connection finds the client that it replaces in
`select!` or out of its loop, a client that was replaced goes round its loop no more, a
client attaches when no other that was not replaced reads the channel and detaches when no
other is attached, and one that cannot be told of its replacement leaves another behind
that the session is marked with. -/
def Orderly (s : SessionClients) : Act → Prop
  | .upgrade | .accept _ => ∀ n c, s.existing = some n → s.client n = some c → c.Hears
  | .attach _ => ∀ m c, s.client m = some c → ¬ c.Current
  | .turn n t => ∀ c, s.client n = some c → c.Heeds t
  | .recv n => ∀ c, s.client n = some c → c.replaced = false
  | .sendClose n sent => sent = false →
      ∃ m c, m ≠ n ∧ s.client m = some c ∧ c.Attached ∧ c.socketPath = s.clientSocketPath
  | .detach n => ∀ m c, s.client m = some c → c.Attached → m = n
  | _ => True

/-! ## One client at a time -/

variable {s t : SessionClients} {n : ℕ} {c d : ClientSession}

theorem client_of_set (hc : s.client n = some c) (ht : t.clients = s.clients.set n d) :
    t.client = Function.update s.client n (some d) := by
  obtain ⟨hn, -⟩ := List.getElem?_eq_some_iff.mp hc
  funext m
  simp only [client, ht]
  by_cases hm : m = n
  · rw [hm, Function.update_self]
    exact List.getElem?_set_self hn
  · rw [Function.update_of_ne hm]
    exact List.getElem?_set_ne (Ne.symm hm)

theorem oneReader_of_update (hs : s.OneReader) (ht : t.client = Function.update s.client n (some d))
    (hcurrent : d.Current → ∃ c, s.client n = some c ∧ c.Current) : t.OneReader := by
  have hbefore : ∀ m e, t.client m = some e → e.Current →
      ∃ c, s.client m = some c ∧ c.Current := by
    intro m e he hcurrente
    rw [ht] at he
    by_cases hm : m = n
    · rw [hm, Function.update_self] at he
      cases he
      rw [hm]
      exact hcurrent hcurrente
    · rw [Function.update_of_ne hm] at he
      exact ⟨e, he, hcurrente⟩
  intro i j e f he hf hcurrente hcurrentf
  obtain ⟨e', he', hcurrente'⟩ := hbefore i e he hcurrente
  obtain ⟨f', hf', hcurrentf'⟩ := hbefore j f hf hcurrentf
  exact hs i j e' f' he' hf' hcurrente' hcurrentf'

theorem noneLost_iff_of_update (hs : s.NoneLost)
    (ht : t.client = Function.update s.client n (some d)) :
    t.NoneLost ↔ (d.replaced = true → d.Told) := by
  constructor
  · intro h
    apply h n d
    rw [ht, Function.update_self]
  · intro htold m e he
    rw [ht] at he
    by_cases hm : m = n
    · rw [hm, Function.update_self] at he
      cases he
      exact htold
    · rw [Function.update_of_ne hm] at he
      exact hs m e he

theorem truthful_of_update (hs : s.Truthful)
    (ht : t.client = Function.update s.client n (some d))
    (hconnected : t.connected = s.connected) (hpath : t.clientSocketPath = s.clientSocketPath)
    (hnew : d.Attached → ∃ c, s.client n = some c ∧ c.Attached)
    (hold : ∀ c, s.client n = some c → c.Attached → d.Attached ∧ d.socketPath = c.socketPath) :
    t.Truthful := by
  simp only [Truthful, hconnected, hpath, ht] at hs ⊢
  split at hs
  next hyes =>
    rw [if_pos hyes]
    obtain ⟨m, e, he, hattached, hsame⟩ := hs
    by_cases hm : m = n
    · rw [hm] at he
      obtain ⟨hd, hdpath⟩ := hold e he hattached
      exact ⟨n, d, Function.update_self _ _ _, hd, hdpath.trans hsame⟩
    · exact ⟨m, e, (Function.update_of_ne hm _ _).trans he, hattached, hsame⟩
  next hno =>
    rw [if_neg hno]
    refine ⟨hs.1, ?_⟩
    intro m e he hattached
    by_cases hm : m = n
    · rw [hm, Function.update_self] at he
      cases he
      obtain ⟨c, hc, hattached⟩ := hnew hattached
      exact hs.2 n c hc hattached
    · rw [Function.update_of_ne hm] at he
      exact hs.2 m e he hattached

theorem sound_iff_of_update (hs : s.Sound) (ht : t.client = Function.update s.client n (some d))
    (hconnected : t.connected = s.connected) (hpath : t.clientSocketPath = s.clientSocketPath)
    (hcurrent : d.Current → ∃ c, s.client n = some c ∧ c.Current)
    (hnew : d.Attached → ∃ c, s.client n = some c ∧ c.Attached)
    (hold : ∀ c, s.client n = some c → c.Attached → d.Attached ∧ d.socketPath = c.socketPath) :
    t.Sound ↔ (d.replaced = true → d.Told) := by
  rw [← noneLost_iff_of_update hs.noneLost ht]
  constructor
  · intro h
    exact h.noneLost
  · intro hlost
    exact ⟨oneReader_of_update hs.oneReader ht hcurrent, hlost,
      truthful_of_update hs.truthful ht hconnected hpath hnew hold⟩

theorem sound_iff_of_stays (hs : s.Sound) (hc : s.client n = some c)
    (ht : t.client = Function.update s.client n (some d))
    (hconnected : t.connected = s.connected) (hpath : t.clientSocketPath = s.clientSocketPath)
    (hstays : Stays c d) : t.Sound ↔ (d.replaced = true → d.Told) := by
  apply sound_iff_of_update hs ht hconnected hpath
  · rintro ⟨hreading, hreplaced⟩
    exact ⟨c, hc, hstays.reading hreading, hstays.replaced ▸ hreplaced⟩
  · intro hattached
    exact ⟨c, hc, hstays.attached.mp hattached⟩
  · intro e he hattached
    cases hc.symm.trans he
    exact ⟨hstays.attached.mpr hattached, hstays.socketPath⟩

/-! ## Connections -/

theorem client_disconnectExisting (hn : s.existing = some n) (hc : s.client n = some c) :
    s.disconnectExisting.client = Function.update s.client n (some c.notify) := by
  simp only [disconnectExisting, hn]
  funext m
  by_cases hm : m = n
  · rw [hm, Function.update_self]
    simp only [client] at hc ⊢
    rw [List.getElem?_modify_eq, hc]
    rfl
  · rw [Function.update_of_ne hm]
    exact List.getElem?_modify_ne _ _ (Ne.symm hm)

theorem client_disconnectExisting_of_none
    (h : ∀ n c, s.existing = some n → s.client n ≠ some c) :
    s.disconnectExisting.client = s.client := by
  simp only [disconnectExisting]
  split
  next n hn =>
    funext m
    by_cases hm : n = m
    · have hnone : s.client m = none := by
        cases hc : s.client m with
        | none => rfl
        | some c => exact absurd hc (h m c (hm ▸ hn))
      simp only [client] at hnone ⊢
      rw [hm, List.getElem?_modify_eq, hnone]
      rfl
    · exact List.getElem?_modify_ne _ _ hm
  · rfl

@[simp] theorem disconnectExisting_connected (s : SessionClients) :
    s.disconnectExisting.connected = s.connected := by
  simp only [disconnectExisting]
  split
  · rfl
  · rfl

@[simp] theorem disconnectExisting_clientSocketPath (s : SessionClients) :
    s.disconnectExisting.clientSocketPath = s.clientSocketPath := by
  simp only [disconnectExisting]
  split
  · rfl
  · rfl

theorem sound_of_same (hs : s.Sound) (hclient : t.client = s.client)
    (hconnected : t.connected = s.connected) (hpath : t.clientSocketPath = s.clientSocketPath) :
    t.Sound := by
  obtain ⟨hone, hlost, htruthful⟩ := hs
  refine ⟨?_, ?_, ?_⟩
  · simpa only [OneReader, hclient] using hone
  · simpa only [NoneLost, hclient] using hlost
  · simpa only [Truthful, hclient, hconnected, hpath] using htruthful

theorem sound_disconnectExisting (hs : s.Sound)
    (hhears : ∀ n c, s.existing = some n → s.client n = some c → c.Hears) :
    s.disconnectExisting.Sound := by
  by_cases hfound : ∃ n c, s.existing = some n ∧ s.client n = some c
  · obtain ⟨n, c, hn, hc⟩ := hfound
    refine (sound_iff_of_update hs (client_disconnectExisting hn hc) (by simp) (by simp)
      ?_ ?_ ?_).mpr ?_
    · rintro ⟨-, hreplaced⟩
      cases hreplaced
    · intro hattached
      exact ⟨c, hc, (notify_attached_iff c).mp hattached⟩
    · intro e he hattached
      cases hc.symm.trans he
      exact ⟨(notify_attached_iff c).mpr hattached, rfl⟩
    · intro _
      exact (notify_told_iff c).mpr (hhears n c hn hc)
  · have hnone : ∀ n c, s.existing = some n → s.client n ≠ some c :=
      fun n c hn hc => hfound ⟨n, c, hn, hc⟩
    exact sound_of_same hs (client_disconnectExisting_of_none hnone) (by simp) (by simp)

theorem client_arrive (s : SessionClients) (path : Option String) :
    (s.arrive path).client = Function.update s.disconnectExisting.client
      s.disconnectExisting.clients.length (some (ClientSession.new path)) := by
  funext m
  rcases Nat.lt_trichotomy m s.disconnectExisting.clients.length with hm | hm | hm
  · rw [Function.update_of_ne (Nat.ne_of_lt hm)]
    exact List.getElem?_append_left hm
  · rw [hm, Function.update_self]
    exact List.getElem?_concat_length
  · rw [Function.update_of_ne (Nat.ne_of_gt hm)]
    simp only [client, arrive]
    rw [List.getElem?_eq_none (Nat.le_of_lt hm), List.getElem?_eq_none]
    rw [List.length_append]
    exact hm

/-- A client that was replaced is to hear of it, and the one that has connected changes
nothing for the others. -/
theorem sound_arrive_iff {path : Option String} (hs : s.Sound) :
    (s.arrive path).Sound ↔ ∀ n c, s.existing = some n → s.client n = some c → c.Hears := by
  have hfree : s.disconnectExisting.client s.disconnectExisting.clients.length = none :=
    List.getElem?_eq_none (Nat.le_refl _)
  constructor
  · intro h n c hn hc
    have hnotified : s.disconnectExisting.client n = some c.notify := by
      rw [client_disconnectExisting hn hc, Function.update_self]
    have hne : n ≠ s.disconnectExisting.clients.length := by
      rintro rfl
      cases hfree.symm.trans hnotified
    rw [← notify_told_iff]
    apply h.noneLost n c.notify _ rfl
    rw [client_arrive, Function.update_of_ne hne, hnotified]
  · intro hhears
    have hsound := sound_disconnectExisting hs hhears
    refine (sound_iff_of_update hsound (client_arrive s path) rfl rfl ?_ ?_ ?_).mpr ?_
    · rintro ⟨⟨listener, hpc⟩, -⟩
      cases hpc
    · rintro (⟨listener, hpc⟩ | hpc | hpc)
      · cases hpc
      · cases hpc
      · cases hpc
    · intro c hc
      cases hfree.symm.trans hc
    · intro hreplaced
      cases hreplaced

/-! ## Attaching and detaching -/

theorem sound_attach_iff (hs : s.Sound) (hc : s.client n = some c) (hpc : c.pc = .listed)
    (ht : t.client = Function.update s.client n (some { c with pc := .looping .unregistered }))
    (hconnected : t.connected = true) (hpath : t.clientSocketPath = c.socketPath) :
    t.Sound ↔ ∀ m e, s.client m = some e → ¬ e.Current := by
  have hreplaced : c.replaced = false := by
    cases hreplaced : c.replaced with
    | false => rfl
    | true =>
        have htold := hs.noneLost n c hc hreplaced
        simp [Told, hpc] at htold
  have hself : t.client n = some { c with pc := .looping .unregistered } := by
    rw [ht, Function.update_self]
  have hother : ∀ {m}, m ≠ n → t.client m = s.client m := by
    intro m hm
    rw [ht, Function.update_of_ne hm]
  constructor
  · intro h m e he hcurrent
    have hm : m ≠ n := by
      rintro rfl
      cases hc.symm.trans he
      obtain ⟨⟨listener, hlooping⟩, -⟩ := hcurrent
      cases hpc.symm.trans hlooping
    apply hm
    exact h.oneReader m n e _ ((hother hm).trans he) hself hcurrent ⟨⟨_, rfl⟩, hreplaced⟩
  · intro hnone
    have honly : ∀ m e, t.client m = some e → e.Current → m = n := by
      intro m e he hcurrent
      by_contra hm
      rw [hother hm] at he
      exact hnone m e he hcurrent
    refine ⟨?_, ?_, ?_⟩
    · intro i j e f he hf hcurrente hcurrentf
      rw [honly i e he hcurrente, honly j f hf hcurrentf]
    · refine (noneLost_iff_of_update hs.noneLost ht).mpr fun h => ?_
      cases hreplaced.symm.trans h
    · simp only [Truthful, hconnected, if_true]
      exact ⟨n, _, hself, Or.inl ⟨_, rfl⟩, hpath.symm⟩

/-- The task of a client that cannot be told of its replacement ends without a word. -/
theorem sound_sendClose_iff (hs : s.Sound) (hc : s.client n = some c)
    (hpc : c.pc = .disconnecting)
    (ht : t.client = Function.update s.client n (some { c with pc := .gone }))
    (hconnected : t.connected = s.connected) (hpath : t.clientSocketPath = s.clientSocketPath) :
    t.Sound ↔ ∃ m e, m ≠ n ∧ s.client m = some e ∧ e.Attached ∧
      e.socketPath = s.clientSocketPath := by
  have hyes : s.connected = true :=
    hs.connected_iff.mpr ⟨n, c, hc, Or.inr (Or.inl hpc)⟩
  have htruthful : t.Truthful ↔ ∃ m e, m ≠ n ∧ s.client m = some e ∧ e.Attached ∧
      e.socketPath = s.clientSocketPath := by
    simp only [Truthful, hconnected, hyes, if_true, hpath, ht]
    constructor
    · rintro ⟨m, e, he, hattached, hsame⟩
      by_cases hm : m = n
      · rw [hm, Function.update_self] at he
        cases he
        simp [Attached, Reading] at hattached
      · rw [Function.update_of_ne hm] at he
        exact ⟨m, e, hm, he, hattached, hsame⟩
    · rintro ⟨m, e, hm, he, hattached, hsame⟩
      exact ⟨m, e, (Function.update_of_ne hm _ _).trans he, hattached, hsame⟩
  rw [← htruthful]
  constructor
  · intro h
    exact h.truthful
  · intro h
    refine ⟨oneReader_of_update hs.oneReader ht ?_, ?_, h⟩
    · rintro ⟨⟨listener, hlooping⟩, -⟩
      cases hlooping
    · exact (noneLost_iff_of_update hs.noneLost ht).mpr fun _ => by simp [Told]

theorem sound_detach_iff (hs : s.Sound)
    (ht : t.client = Function.update s.client n (some { c with pc := .gone }))
    (hconnected : t.connected = false) (hpath : t.clientSocketPath = none) :
    t.Sound ↔ ∀ m e, s.client m = some e → e.Attached → m = n := by
  constructor
  · intro h m e he hattached
    by_contra hm
    have htruthful := h.truthful
    simp only [Truthful, hconnected, Bool.false_eq_true, if_false, ht] at htruthful
    exact htruthful.2 m e ((Function.update_of_ne hm _ _).trans he) hattached
  · intro honly
    refine ⟨oneReader_of_update hs.oneReader ht ?_, ?_, ?_⟩
    · rintro ⟨⟨listener, hlooping⟩, -⟩
      cases hlooping
    · exact (noneLost_iff_of_update hs.noneLost ht).mpr fun _ => by simp [Told]
    · simp only [Truthful, hconnected, Bool.false_eq_true, if_false, ht]
      refine ⟨hpath, ?_⟩
      intro m e he hattached
      by_cases hm : m = n
      · rw [hm, Function.update_self] at he
        cases he
        simp [Attached, Reading] at hattached
      · rw [Function.update_of_ne hm] at he
        exact hm (honly m e he hattached)

/-! ## Runs -/

theorem sound_step_iff (hs : s.Sound) {a : Act} (h : s.step a = some t) :
    t.Sound ↔ s.Orderly a := by
  cases change_of_step h with
  | upgrade => exact sound_arrive_iff hs
  | accept path => exact sound_arrive_iff hs
  | @enlist n c hc hpc =>
      have hstays : Stays c { c with pc := .listed } :=
        ⟨rfl, rfl, by simp [Reading], by simp [Attached, Reading, hpc]⟩
      refine Iff.trans (sound_iff_of_stays hs hc (client_of_set hc rfl) rfl rfl hstays) ?_
      refine iff_of_true (fun hreplaced => ?_) trivial
      have htold := hs.noneLost _ c hc hreplaced
      simp [Told, hpc] at htold
  | attach hc hpc => exact sound_attach_iff hs hc hpc (client_of_set hc rfl) rfl rfl
  | turn hc hd =>
      have hstays := turn_stays hd
      refine Iff.trans (sound_iff_of_stays hs hc (client_of_set hc rfl) rfl rfl hstays) ?_
      rw [turn_told_iff (hs.noneLost _ _ hc) hd]
      simp only [Orderly, hc, Option.some.injEq, forall_eq']
  | @recv n c message rest hc hchannel hselecting =>
      have hstays : Stays c { c with pc := .looping .unregistered } :=
        @stays_of_round _ _ false (reading_of_selecting hselecting) rfl rfl rfl
      refine Iff.trans (sound_iff_of_stays hs hc (client_of_set hc rfl) rfl rfl hstays) ?_
      simp [Told, Orderly, hc]
  | @sendClose n c sent hc hpc =>
      cases sent with
      | true =>
          have hstays : Stays c { c with pc := .closing } :=
            ⟨rfl, rfl, by simp [Reading], by simp [Attached, hpc]⟩
          refine Iff.trans (sound_iff_of_stays hs hc (client_of_set hc rfl) rfl rfl hstays) ?_
          simp [Told, Orderly]
      | false =>
          refine Iff.trans (sound_sendClose_iff hs hc hpc (client_of_set hc rfl) rfl rfl) ?_
          simp only [Orderly, forall_true_left]
  | detach hc hpc => exact sound_detach_iff hs (client_of_set hc rfl) rfl rfl
  | put message => exact iff_of_true (sound_of_same hs rfl rfl rfl) trivial
  | otherArrives hne => exact iff_of_true (sound_of_same hs rfl rfl rfl) trivial
  | otherEnlists hne => exact iff_of_true (sound_of_same hs rfl rfl rfl) trivial

theorem sound_init (sessionId : String) : (init sessionId).Sound := by
  refine ⟨?_, ?_, ?_⟩
  · intro i j c d hc
    cases hc
  · intro n c hc
    cases hc
  · refine ⟨rfl, ?_⟩
    intro n c hc
    cases hc

/-- All along a run at most one client's loop reads the channel, apart from clients that
were replaced, no notification of a replaced client is lost, and the session is marked as
connected as long as a client is attached, exactly if every step is an orderly one. -/
theorem sound_iff_orderly (sessionId : String) (acts : List Act)
    (hrun : machine.run (init sessionId) acts = some s) :
    (∀ before after u, acts = before ++ after →
      machine.run (init sessionId) before = some u → u.Sound) ↔
    machine.Meets Orderly (init sessionId) acts := by
  refine machine.forall_prefix_iff_meets ?_ ?_ (sound_init sessionId) hrun
  · intro u a v hu horderly h
    exact (sound_step_iff hu h).mpr horderly
  · intro u a v hu h hv
    exact (sound_step_iff hu h).mp hv

/-- A client connects and waits for what it is to be sent. -/
def joining : List Act :=
  [.upgrade, .enlist 0, .attach 0, .turn 0 .listen]

/-- The client leaves when it is notified. -/
def leaving : List Act :=
  [.turn 0 .disconnect, .sendClose 0 true, .detach 0]

/-- The next client comes over a domain socket. -/
def following : List Act :=
  [.enlist 1, .attach 1, .turn 1 .listen]

theorem sound_iff_orderly_handover :
    ∃ s, machine.run (init "a") (joining ++ (.accept "/a.sock" :: leaving) ++ following) = some s ∧
      s.connected = true ∧ s.clientSocketPath = some "/a.sock" ∧ s.Sound := by
  have hjoining : machine.Meets Orderly (init "a") joining := by
    refine ⟨fun n c hn => ?_, fun t ht => ⟨trivial, fun u hu => ⟨fun m c hc => ?_, fun _ _ => ?_⟩⟩⟩
    · cases hn
    · cases ht
      cases hu
      cases List.mem_singleton.mp (List.mem_of_getElem? hc)
      rintro ⟨⟨listener, hpc⟩, -⟩
      cases hpc
    · exact ⟨fun _ _ => trivial, fun _ _ => trivial⟩
  have hleaving : ∀ u, machine.run (init "a") joining = some u →
      machine.Meets Orderly u (.accept "/a.sock" :: leaving) := by
    intro u hu
    cases hu
    refine ⟨fun n c hn hc => ?_, fun t ht => ⟨fun _ _ => trivial, fun u hu => ?_⟩⟩
    · cases hn
      cases hc
      exact Or.inl rfl
    · cases ht
      cases hu
      refine ⟨fun hsent => ?_, fun t ht => ⟨fun m c hc hattached => ?_, fun _ _ => trivial⟩⟩
      · cases hsent
      · cases ht
        rcases m with _ | _ | m
        · rfl
        · cases hc
          rcases hattached with ⟨listener, hpc⟩ | hpc | hpc
          · cases hpc
          · cases hpc
          · cases hpc
        · cases hc
  have hfollowing : ∀ u, machine.run (init "a") (joining ++ (.accept "/a.sock" :: leaving)) =
      some u → machine.Meets Orderly u following := by
    intro u hu
    cases hu
    refine ⟨trivial, fun t ht => ⟨fun m c hc => ?_, fun _ _ => ?_⟩⟩
    · cases ht
      rintro ⟨⟨listener, hpc⟩, -⟩
      rcases m with _ | _ | m
      · cases hc
        cases hpc
      · cases hc
        cases hpc
      · cases hc
    · exact ⟨fun _ _ => trivial, fun _ _ => trivial⟩
  have hmeets := machine.meets_append rfl (machine.meets_append rfl hjoining (hleaving _ rfl))
    (hfollowing _ rfl)
  exact ⟨_, rfl, rfl, rfl, (sound_iff_orderly "a" _ rfl).mpr hmeets _ [] _
    (List.append_nil _).symm rfl⟩

/-- The client that is replaced leaves after the next one has attached, and takes the mark
with it. -/
theorem not_sound_overlap :
    ∃ s, machine.run (init "a") (joining ++ [.accept "/a.sock"] ++ following ++ leaving) = some s ∧
      s.connected = false ∧ s.clientSocketPath = none ∧
      (∃ c, s.client 1 = some c ∧ c.Reading) ∧ ¬ s.Sound := by
  refine ⟨_, rfl, rfl, rfl, ⟨_, rfl, ⟨_, rfl⟩⟩, fun h => ?_⟩
  exact h.truthful.2 1 _ rfl (Or.inl ⟨_, rfl⟩)

end SessionClients

end Kallichore
