import Kallichore.Clients.Connected
import Mathlib.Data.List.Induction

/-!
# Pings and pongs

The loop of a client counts the pings that it sends and keeps the number of the last pong.
Every ten seconds it takes the difference, and a client that is more than three pings
behind is given up. The number of a pong is whatever the client sends: with a pong ahead of
the pings the difference wraps around, and the client is given up although it is not behind
at all. The number that is expected next wraps around after the greatest one.

The pings and pongs of a client are read off the steps of a run here, so that what goes well
depends on nothing that the loop computes.
-/

namespace Kallichore

namespace ClientSession

def Turn.isTick : Turn → Bool
  | .tick _ => true
  | _ => false

/-- The number of the pong that is received, if it has one. -/
def Turn.pong : Turn → Option UInt64
  | .fromSocket (.message (.pong data)) =>
      if data.length = 8 then some (fromBeBytes data) else none
  | _ => none

def pingsSent (turns : List Turn) : ℕ := turns.countP Turn.isTick

def lastPong (turns : List Turn) : UInt64 := ((turns.filterMap Turn.pong).getLast?).getD 0

/-- What the loop computes for pings is right: the difference of the counters and the number
that is expected next are not wrapped around, and the client is only given up if it is more
than three pings behind. -/
structure CountsRight (c : ClientSession) (turns : List Turn) (t : Turn) : Prop where
  diff : t.isTick = true →
    (c.pingOutbound - c.pongInbound).toNat + c.pongInbound.toNat = c.pingOutbound.toNat
  next : t.pong.isSome = true → (c.pongInbound + 1).toNat = c.pongInbound.toNat + 1
  behind : t.isTick = true → c.lost = true → (lastPong turns).toNat + 3 < pingsSent turns

/-- When the timer fires the last pong is not ahead of the pings, and no pong comes after
the one with the greatest number. -/
structure Timely (turns : List Turn) (t : Turn) : Prop where
  tick : t.isTick = true → lastPong turns ≤ UInt64.ofNat (pingsSent turns)
  pong : t.pong.isSome = true → lastPong turns ≠ 18446744073709551615

/-- The counters of a client whose loop has not ended. -/
def Counts (c : ClientSession) (turns : List Turn) : Prop :=
  c.pingOutbound = UInt64.ofNat (pingsSent turns) ∧ c.pongInbound = lastPong turns

def Over (c : ClientSession) : Prop :=
  c.pc = .disconnecting ∨ c.pc = .closing ∨ c.pc = .gone

theorem pingsSent_concat (turns : List Turn) (t : Turn) :
    pingsSent (turns ++ [t]) = pingsSent turns + if t.isTick then 1 else 0 := by
  rw [pingsSent, List.countP_append, List.countP_singleton, pingsSent]

theorem lastPong_concat (turns : List Turn) (t : Turn) :
    lastPong (turns ++ [t]) = t.pong.getD (lastPong turns) := by
  rw [lastPong, List.filterMap_append]
  cases hpong : t.pong with
  | none => simp [hpong, lastPong]
  | some number => simp [hpong]

theorem not_over_of_selecting {c : ClientSession} (h : c.selecting = true) : ¬ c.Over := by
  simp only [selecting, decide_eq_true_eq] at h
  rcases h with h | h
  · simp [Over, h]
  · simp [Over, h]

theorem not_over_of_turn {c d : ClientSession} {t : Turn} (h : c.turn t = some d) :
    ¬ c.Over := by
  cases t with
  | fail => simp [Over, (Option.ite_none_right_eq_some.mp h).1]
  | abandon => simp [Over, (Option.ite_none_right_eq_some.mp h).1.1]
  | listen => simp [Over, (Option.ite_none_right_eq_some.mp h).1]
  | fromSocket out => exact not_over_of_selecting (Option.ite_none_right_eq_some.mp h).1
  | tick sent => exact not_over_of_selecting (Option.ite_none_right_eq_some.mp h).1
  | disconnect => simp [Over, (Option.ite_none_right_eq_some.mp h).1]

theorem notify_over_iff (c : ClientSession) : c.notify.Over ↔ c.Over := by
  simp only [Over, notify]
  cases c.pc with
  | looping listener => simp
  | _ => exact Iff.rfl

theorem toNat_sub_add_eq_iff (a b : UInt64) : (a - b).toNat + b.toNat = a.toNat ↔ b ≤ a := by
  rw [UInt64.le_iff_toNat_le]
  constructor
  · intro h
    omega
  · intro h
    rw [UInt64.toNat_sub_of_le a b (UInt64.le_iff_toNat_le.mpr h)]
    omega

theorem toNat_add_one_eq_iff (a : UInt64) :
    (a + 1).toNat = a.toNat + 1 ↔ a ≠ 18446744073709551615 := by
  have hlt := a.toNat_lt
  rw [UInt64.toNat_add, Ne, ← UInt64.toNat_inj]
  have hone : (1 : UInt64).toNat = 1 := rfl
  have hmax : (18446744073709551615 : UInt64).toNat = 18446744073709551615 := rfl
  rw [hone, hmax]
  omega

@[simp] theorem handleSocket_pingOutbound (c : ClientSession) (out : FromSocket) :
    (c.handleSocket out).pingOutbound = c.pingOutbound := by
  simp only [handleSocket]
  repeat' split
  all_goals rfl

theorem handleSocket_pongInbound (c : ClientSession) {out : FromSocket}
    (hbreaks : out.breaks = false) :
    (c.handleSocket out).pongInbound = (Turn.fromSocket out).pong.getD c.pongInbound := by
  simp only [handleSocket, hbreaks, Bool.false_eq_true, if_false]
  split
  next data =>
    rw [Turn.pong]
    split
    · rfl
    · rfl
  next hother =>
    rw [Turn.pong]
    · rfl
    · intro data hdata
      exact hother data (Turn.fromSocket.inj hdata)

theorem counts_turn {c d : ClientSession} {turns : List Turn} {t : Turn}
    (hcounts : c.Counts turns) (h : c.turn t = some d) (hd : ¬ d.Over) :
    d.Counts (turns ++ [t]) := by
  obtain ⟨hping, hpong⟩ := hcounts
  rw [Counts, pingsSent_concat, lastPong_concat]
  cases t with
  | fail =>
      obtain ⟨-, h⟩ := Option.ite_none_right_eq_some.mp h
      cases h
      exact absurd (Or.inr (Or.inr rfl)) hd
  | abandon =>
      obtain ⟨-, h⟩ := Option.ite_none_right_eq_some.mp h
      cases h
      exact absurd (Or.inr (Or.inr rfl)) hd
  | listen =>
      obtain ⟨-, h⟩ := Option.ite_none_right_eq_some.mp h
      cases h
      exact ⟨hping, hpong⟩
  | fromSocket out =>
      obtain ⟨-, h⟩ := Option.ite_none_right_eq_some.mp h
      cases h
      cases hbreaks : out.breaks with
      | true =>
          apply absurd _ hd
          exact Or.inr (Or.inl (by rw [handleSocket_pc, hbreaks, if_pos rfl]))
      | false =>
          rw [handleSocket_pingOutbound, handleSocket_pongInbound c hbreaks, hpong]
          exact ⟨hping, rfl⟩
  | tick sent =>
      obtain ⟨-, h⟩ := Option.ite_none_right_eq_some.mp h
      cases h
      simp only [handleTick] at hd ⊢
      split at hd
      · exact absurd (Or.inr (Or.inl rfl)) hd
      next hlost =>
        rw [if_neg hlost]
        refine ⟨?_, hpong⟩
        rw [hping, Turn.isTick, if_pos rfl, UInt64.ofNat_add]
        rfl
  | disconnect =>
      obtain ⟨-, h⟩ := Option.ite_none_right_eq_some.mp h
      cases h
      exact absurd (Or.inl rfl) hd

theorem countsRight_iff_timely {c : ClientSession} {turns : List Turn} (hcounts : c.Counts turns)
    (t : Turn) : c.CountsRight turns t ↔ Timely turns t := by
  obtain ⟨hping, hpong⟩ := hcounts
  constructor
  · intro hright
    constructor
    · intro htick
      rw [← hping, ← hpong]
      exact (toNat_sub_add_eq_iff _ _).mp (hright.diff htick)
    · intro hsome
      rw [← hpong]
      exact (toNat_add_one_eq_iff _).mp (hright.next hsome)
  · intro htimely
    constructor
    · intro htick
      rw [toNat_sub_add_eq_iff, hping, hpong]
      exact htimely.tick htick
    · intro hsome
      rw [toNat_add_one_eq_iff, hpong]
      exact htimely.pong hsome
    · intro htick hlost
      have hle := htimely.tick htick
      simp only [lost, decide_eq_true_eq] at hlost
      rw [hping, hpong, UInt64.lt_iff_toNat_lt, UInt64.toNat_sub_of_le _ _ hle,
        UInt64.toNat_ofNat'] at hlost
      have hthree : (3 : UInt64).toNat = 3 := rfl
      have hcounted := Nat.mod_le (pingsSent turns) (2 ^ 64)
      omega

end ClientSession

namespace SessionClients

open ClientSession

/-- The step of its own that the client with this number takes. -/
def Act.turnOf (n : ℕ) : Act → Option Turn
  | .turn m t => if m = n then some t else none
  | _ => none

/-- The steps of its own that the client with this number takes. -/
def turnsOf (n : ℕ) (acts : List Act) : List Turn := acts.filterMap (Act.turnOf n)

/-- The counters of all clients are those of the steps taken so far. -/
structure Tracks (s : SessionClients) (acts : List Act) : Prop where
  counts : ∀ n c, s.client n = some c → ¬ c.Over → c.Counts (turnsOf n acts)
  none : ∀ n, s.client n = none → turnsOf n acts = []

variable {s t : SessionClients} {n : ℕ} {c d : ClientSession} {acts more : List Act}

theorem turnsOf_concat (n : ℕ) (acts : List Act) (a : Act) :
    turnsOf n (acts ++ [a]) = turnsOf n acts ++ (a.turnOf n).toList := by
  rw [turnsOf, List.filterMap_append, turnsOf]
  cases h : a.turnOf n with
  | none => simp [h]
  | some t => simp [h]

theorem tracks_of_update (hs : s.Tracks acts)
    (ht : t.client = Function.update s.client n (some d))
    (hmore : ∀ m, m ≠ n → turnsOf m more = turnsOf m acts)
    (hd : ¬ d.Over → d.Counts (turnsOf n more)) : t.Tracks more := by
  constructor
  · intro m e he hover
    rw [ht] at he
    by_cases hm : m = n
    · rw [hm, Function.update_self] at he
      cases he
      rw [hm]
      exact hd hover
    · rw [Function.update_of_ne hm] at he
      rw [hmore m hm]
      exact hs.counts m e he hover
  · intro m he
    rw [ht] at he
    by_cases hm : m = n
    · rw [hm, Function.update_self] at he
      cases he
    · rw [Function.update_of_ne hm] at he
      rw [hmore m hm]
      exact hs.none m he

theorem tracks_of_same (hs : s.Tracks acts) (hc : s.client n = some c)
    (ht : t.client = Function.update s.client n (some d)) (hover : c.Over → d.Over)
    (hping : d.pingOutbound = c.pingOutbound) (hpong : d.pongInbound = c.pongInbound) :
    t.Tracks acts := by
  apply tracks_of_update hs ht (fun _ _ => rfl)
  intro hd
  obtain ⟨hcping, hcpong⟩ := hs.counts n c hc (fun h => hd (hover h))
  exact ⟨hping.trans hcping, hpong.trans hcpong⟩

theorem tracks_arrive (hs : s.Tracks acts) (path : Option String) :
    (s.arrive path).Tracks acts := by
  have hexisting : s.disconnectExisting.Tracks acts := by
    by_cases hfound : ∃ n c, s.existing = some n ∧ s.client n = some c
    · obtain ⟨n, c, hn, hc⟩ := hfound
      exact tracks_of_same hs hc (client_disconnectExisting hn hc) (notify_over_iff c).mpr rfl rfl
    · have hsame := client_disconnectExisting_of_none
        fun n c hn hc => hfound ⟨n, c, hn, hc⟩
      constructor
      · rw [hsame]
        exact hs.counts
      · rw [hsame]
        exact hs.none
  apply tracks_of_update hexisting (client_arrive s path) (fun _ _ => rfl)
  intro _
  rw [hexisting.none _ (List.getElem?_eq_none (Nat.le_refl _))]
  exact ⟨rfl, rfl⟩

theorem tracks_step (hs : s.Tracks acts) {a : Act} (h : s.step a = some t) :
    t.Tracks (acts ++ [a]) := by
  have hsame : (∀ m, a.turnOf m = none) → t.Tracks acts → t.Tracks (acts ++ [a]) := by
    intro hnone ht
    have hacts : ∀ m, turnsOf m (acts ++ [a]) = turnsOf m acts := by
      intro m
      rw [turnsOf_concat, hnone m, Option.toList_none, List.append_nil]
    constructor
    · intro m e he hover
      rw [hacts]
      exact ht.counts m e he hover
    · intro m he
      rw [hacts]
      exact ht.none m he
  cases change_of_step h with
  | upgrade => exact hsame (fun _ => rfl) (tracks_arrive hs none)
  | accept path => exact hsame (fun _ => rfl) (tracks_arrive hs (some path))
  | enlist hc hpc =>
      apply hsame (fun _ => rfl)
      exact tracks_of_same hs hc (client_of_set hc rfl) (by simp [Over, hpc]) rfl rfl
  | attach hc hpc =>
      apply hsame (fun _ => rfl)
      exact tracks_of_same hs hc (client_of_set hc rfl) (by simp [Over, hpc]) rfl rfl
  | turn hc hd =>
      apply tracks_of_update hs (client_of_set hc rfl)
      · intro m hm
        rw [turnsOf_concat, Act.turnOf, if_neg (Ne.symm hm), Option.toList_none, List.append_nil]
      · intro hover
        rw [turnsOf_concat, Act.turnOf, if_pos rfl, Option.toList_some]
        exact counts_turn (hs.counts _ _ hc (not_over_of_turn hd)) hd hover
  | recv hc hchannel hselecting =>
      apply hsame (fun _ => rfl)
      exact tracks_of_same hs hc (client_of_set hc rfl)
        (fun hover => absurd hover (not_over_of_selecting hselecting)) rfl rfl
  | @sendClose n c sent hc hpc =>
      apply hsame (fun _ => rfl)
      refine tracks_of_same hs hc (client_of_set hc rfl) (fun _ => ?_) rfl rfl
      cases sent with
      | true => exact Or.inr (Or.inl rfl)
      | false => exact Or.inr (Or.inr rfl)
  | detach hc hpc =>
      apply hsame (fun _ => rfl)
      exact tracks_of_same hs hc (client_of_set hc rfl) (fun _ => Or.inr (Or.inr rfl)) rfl rfl
  | put message => exact hsame (fun _ => rfl) ⟨hs.counts, hs.none⟩
  | otherArrives hne => exact hsame (fun _ => rfl) ⟨hs.counts, hs.none⟩
  | otherEnlists hne => exact hsame (fun _ => rfl) ⟨hs.counts, hs.none⟩

/-- The counters of a client in its loop are the pings that it was sent and the number of
its last pong. -/
theorem tracks_run {sessionId : String} (hrun : machine.run (init sessionId) acts = some s) :
    s.Tracks acts := by
  induction acts using List.reverseRecOn generalizing s with
  | nil =>
      cases hrun
      constructor
      · intro n c hc
        cases hc
      · intro n _
        rfl
  | append_singleton acts a ih =>
      obtain ⟨u, hu, hrun⟩ := (machine.run_append_eq_some_iff _ _ acts [a]).mp hrun
      obtain ⟨v, hv, hrun⟩ := (machine.run_cons_eq_some_iff _ _ a []).mp hrun
      cases hrun
      exact tracks_step (ih hu) hv

/-- Whatever is computed for pings along the steps is right, for every client. -/
def PingsRight (sessionId : String) (acts : List Act) : Prop :=
  ∀ before n t after s c, acts = before ++ .turn n t :: after →
    machine.run (init sessionId) before = some s → s.client n = some c →
    c.CountsRight (turnsOf n before) t

/-- The pongs of every client are timely along the steps. -/
def PongsTimely (acts : List Act) : Prop :=
  ∀ before n t after, acts = before ++ .turn n t :: after → Timely (turnsOf n before) t

/-- Along every run, nothing that is computed for pings is wrapped around and no client is
given up that is not more than three pings behind, if and only if no client's last pong is
ahead of its pings when the timer fires and none sends a pong after the one with the
greatest number. -/
theorem pingsRight_iff_pongsTimely (sessionId : String) (acts : List Act)
    (hrun : machine.run (init sessionId) acts = some s) :
    PingsRight sessionId acts ↔ PongsTimely acts := by
  have hcounts : ∀ before n t after, acts = before ++ .turn n t :: after →
      ∃ u c, machine.run (init sessionId) before = some u ∧ u.client n = some c ∧
        c.Counts (turnsOf n before) := by
    intro before n t after heq
    rw [heq] at hrun
    obtain ⟨u, hu, hrest⟩ := (machine.run_append_eq_some_iff _ _ before _).mp hrun
    obtain ⟨v, hv, -⟩ := (machine.run_cons_eq_some_iff _ _ _ after).mp hrest
    have hstep : u.step (.turn n t) = some v := hv
    cases change_of_step hstep with
    | turn hc hd => exact ⟨u, _, hu, hc, (tracks_run hu).counts n _ hc (not_over_of_turn hd)⟩
  constructor
  · intro hright before n t after heq
    obtain ⟨u, c, hu, hc, hcount⟩ := hcounts before n t after heq
    exact (countsRight_iff_timely hcount t).mp (hright before n t after u c heq hu hc)
  · intro htimely before n t after u c heq hu hc
    obtain ⟨v, d, hv, hd, hcount⟩ := hcounts before n t after heq
    obtain rfl : u = v := Option.some.inj (hu.symm.trans hv)
    obtain rfl : c = d := Option.some.inj (hc.symm.trans hd)
    exact (countsRight_iff_timely hcount t).mpr (htimely before n t after heq)

def answering : List Act :=
  joining ++
    ([.turn 0 (.tick true), .turn 0 .listen,
    .turn 0 (.fromSocket (.message (.pong [0, 0, 0, 0, 0, 0, 0, 1]))), .turn 0 .listen,
    .turn 0 (.tick true)] : List Act)

theorem pingsRight_iff_pongsTimely_answering : PingsRight "a" answering := by
  refine (pingsRight_iff_pongsTimely "a" answering rfl).mpr ?_
  intro before n t after heq
  simp only [answering, joining, List.cons_append, List.nil_append, List.cons_eq_append_iff,
    List.nil_eq_append_iff, List.cons.injEq, Act.turn.injEq, reduceCtorEq, false_and,
    and_false, false_or] at heq
  obtain ⟨_, rfl, _, rfl, _, rfl, heq⟩ := heq
  rcases heq with ⟨rfl, ⟨rfl, rfl⟩, -⟩ | ⟨_, rfl, heq⟩
  · exact ⟨by decide, by decide⟩
  rcases heq with ⟨rfl, ⟨rfl, rfl⟩, -⟩ | ⟨_, rfl, heq⟩
  · exact ⟨by decide, by decide⟩
  rcases heq with ⟨rfl, ⟨rfl, rfl⟩, -⟩ | ⟨_, rfl, heq⟩
  · exact ⟨by decide, by decide⟩
  rcases heq with ⟨rfl, ⟨rfl, rfl⟩, -⟩ | ⟨_, rfl, heq⟩
  · exact ⟨by decide, by decide⟩
  rcases heq with ⟨rfl, ⟨rfl, rfl⟩, -⟩ | ⟨_, rfl, heq⟩
  · exact ⟨by decide, by decide⟩
  rcases heq with ⟨rfl, ⟨rfl, rfl⟩, -⟩ | ⟨_, ⟨⟩⟩
  exact ⟨by decide, by decide⟩

/-- The client sends the greatest number, and then answers the ninth ping before there
was one. -/
def rushing : List Act :=
  joining ++
    ([.turn 0 (.fromSocket (.message (.pong [255, 255, 255, 255, 255, 255, 255, 255]))),
    .turn 0 .listen,
    .turn 0 (.fromSocket (.message (.pong [0, 0, 0, 0, 0, 0, 0, 9]))),
    .turn 0 .listen] : List Act)

/-- It is given up when the timer fires, although no ping was sent. -/
theorem not_pingsRight_rushing :
    ∃ s t c, machine.run (init "a") rushing = some s ∧ s.client 0 = some c ∧
      s.step (.turn 0 (.tick true)) = some t ∧ c.lost = true ∧
      pingsSent (turnsOf 0 rushing) = 0 ∧
      ¬ PingsRight "a" (rushing ++ [.turn 0 (.tick true)]) := by
  refine ⟨_, _, _, rfl, rfl, rfl, rfl, rfl, ?_⟩
  intro h
  have hbehind := (h rushing 0 (.tick true) [] _ _ rfl rfl rfl).behind rfl rfl
  exact absurd hbehind (Nat.not_lt_zero _)

end SessionClients

end Kallichore
