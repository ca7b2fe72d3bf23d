import Kallichore.Lifetime.Process
import Kallichore.Session.Abandon

/-!
# The channel and the proxies that read it

The channel to the kernel belongs to the session: it is made once, every proxy
reads it in turn, and nobody empties it between two kernels. So a message goes
to whichever proxy comes to take it, which need not be that of the kernel it was
meant for. A proxy that misses the notification of its kernel's exit, because it
was not registered for it, goes on taking messages that are meant for the next
one; and a control request that finds no proxy waits for the next one.
-/

namespace Kallichore

namespace Incarnation

/-- There is no proxy, or there will be none again. -/
def Gone (k : Incarnation) : Prop :=
  k.proxy = .absent ∨ k.proxy = .ended ∨
    k.proxy = .listening ∧ (k.pc = .ended ∨ k.pc = .panicked)

/-- The proxy was woken in its `select!`, where nothing else is left for it. -/
def Leaving (k : Incarnation) (channel : List (ℕ × Posted)) : Prop :=
  k.selecting = true ∧ k.exitListener = .notified ∧ channel = []

theorem selecting_iff {k : Incarnation} :
    k.selecting = true ↔ k.proxy = .connecting ∨
      k.proxy = .listening ∧ k.pc = .listening ∧ k.pendingIopubMessages = [] := by
  unfold selecting
  split <;> simp_all

theorem isOver_gone {k : Incarnation} (h : k.isOver = true) : k.Gone := by
  unfold isOver at h
  split at h
  · cases h
  · rename_i hproxy hpc
    exact Or.inr (Or.inl hproxy)
  · rename_i hproxy hpc
    exact Or.inr (Or.inr ⟨hproxy, Or.inl hpc⟩)
  · cases h

theorem not_selecting_of_gone {k : Incarnation} (h : k.Gone) : k.selecting ≠ true := by
  intro hselecting
  rcases selecting_iff.mp hselecting with hproxy | ⟨hproxy, hpc, -⟩
  · rcases h with h | h | ⟨h, -⟩ <;> simp [hproxy] at h
  · rcases h with h | h | ⟨-, h | h⟩
    · simp [hproxy] at h
    · simp [hproxy] at h
    · simp [hpc] at h
    · simp [hpc] at h

theorem gone_or_leaving_congr {k k' : Incarnation} {channel : List (ℕ × Posted)}
    (hproxy : k'.proxy = k.proxy) (hpc : k'.pc = k.pc)
    (hpending : k'.pendingIopubMessages = k.pendingIopubMessages)
    (hlistener : k.exitListener = .notified → k'.exitListener = .notified)
    (h : k.Gone ∨ k.Leaving channel) : k'.Gone ∨ k'.Leaving channel := by
  rcases h with h | ⟨hselecting, hnotified, hchannel⟩
  · exact Or.inl (by rw [Gone, hproxy, hpc]; exact h)
  · refine Or.inr ⟨?_, hlistener hnotified, hchannel⟩
    rw [selecting_iff] at hselecting ⊢
    rw [hproxy, hpc, hpending]
    exact hselecting

end Incarnation

namespace Lifetime

open ProxyLoop

variable {D : Codecs}

/-- The proxies of kernels whose exit was notified are gone or about to go. -/
def Attentive (s : Lifetime) : Prop :=
  ∀ i k, s.incarnation i = some k → k.exitNotified = true → k.Gone ∨ k.Leaving s.channel

/-- When an exit is notified, the kernel's proxy is gone, or registered for it with
nothing on the channel; and until it is gone nothing is posted, and it neither
starts nor connects nor takes another message of the kernel. -/
structure Prompt (s : Lifetime) (a : Act) : Prop where
  posts : ∀ posted, s.Posts posted a → ∀ i k, s.incarnation i = some k →
    k.exitNotified = true → k.Gone
  notifies : ∀ i k, a = .notifyExit i → s.incarnation i = some k →
    k.Gone ∨ k.selecting = true ∧ k.exitListener ≠ .unregistered ∧ s.channel = []
  arrives : ∀ i k channel frames, a = .proxy i (.arrive channel frames) →
    s.incarnation i = some k → k.exitNotified = false
  connects : ∀ i k, a = .launch i .connect ∨ a = .launch i .proxyConnected →
    s.incarnation i = some k → k.exitNotified = false

/-- The proxy of a kernel whose exit was notified takes a message off the
channel. -/
def TakesAfterExit (s : Lifetime) : Act → Prop
  | .proxy i .receive => ∃ k, s.incarnation i = some k ∧ k.exitNotified = true
  | _ => False

theorem step_channel_nil {s t : Lifetime} {a : Act} (h : s.step D a = some t)
    (hC : s.Prompt a) {i : ℕ} {k : Incarnation} (hk : s.incarnation i = some k)
    (hnotified : k.exitNotified = true) (hleaving : k.Leaving s.channel) :
    t.channel = [] := by
  cases step_channel h with
  | same a heq => rw [heq, hleaving.2.2]
  | posted a posted hposted heq =>
      exact absurd hleaving.1 (Incarnation.not_selecting_of_gone
        (hC.posts posted hposted i k hk hnotified))
  | taken j mark posted heq =>
      rw [hleaving.2.2] at heq
      cases heq

theorem not_step_of_gone {s : Lifetime} {k : Incarnation} {a : ProxyLoop.Act} {w : ProxyLoop}
    (hgone : k.Gone) (hproxy : k.proxy = .listening)
    (hw : (s.loop k).step D k.connection a = some w) : False := by
  have hpc : k.pc = .ended ∨ k.pc = .panicked := by
    rcases hgone with h | h | ⟨-, h⟩
    · simp [hproxy] at h
    · simp [hproxy] at h
    · exact h
  rcases hpc with hpc | hpc
  all_goals cases a <;> simp [ProxyLoop.step, loop, hpc] at hw

theorem step_of_leaving {s : Lifetime} {k : Incarnation} {a : ProxyLoop.Act} {w : ProxyLoop}
    (hleaving : k.Leaving s.channel) (hproxy : k.proxy = .listening)
    (harrive : ∀ channel frames, a ≠ .arrive channel frames)
    (hw : (s.loop k).step D k.connection a = some w) : w.pc = .ended := by
  obtain ⟨hselecting, -, hchannel⟩ := hleaving
  have hpc : k.pc = .listening ∧ k.pendingIopubMessages = [] := by
    rcases Incarnation.selecting_iff.mp hselecting with hconnecting | ⟨-, hpc⟩
    · simp [hproxy] at hconnecting
    · exact hpc
  cases a with
  | stop =>
      simp only [ProxyLoop.step, loop, hpc] at hw
      cases hw
      rfl
  | arrive channel frames => exact absurd rfl (harrive channel frames)
  | _ => simp [ProxyLoop.step, loop, hpc, hchannel] at hw

/-- A step of `start` or its tasks leaves a proxy gone or leaving. -/
theorem gone_or_leaving_of_launch {s : Lifetime} {j : ℕ} {a : Launch.Act} {k : Incarnation}
    {l : Launch} (hs : k.exitNotified = true → k.Gone ∨ k.Leaving s.channel)
    (hC : s.Prompt (.launch j a)) (hk : s.incarnation j = some k)
    (htakes : k.takes a = true) (hl : (s.launch k).step a = some l)
    (hnotified : l.exitNotified = true) :
    (k.ofLaunch l).Gone ∨ (k.ofLaunch l).Leaving s.channel := by
  have hsame : l.proxy = k.proxy → k.exitNotified = true →
      (k.ofLaunch l).Gone ∨ (k.ofLaunch l).Leaving s.channel := by
    intro hproxy hk'
    refine Incarnation.gone_or_leaving_congr hproxy rfl rfl ?_ (hs hk')
    simp [Incarnation.ofLaunch, hproxy]
  cases Launch.step_move (plain_of_takes htakes) hl with
  | start a hact hcalled hearly hspawned hlater hproxy hchild hrunChild hexit =>
      exact hsame hproxy (hexit.symm.trans hnotified)
  | drop hcalled hstart hproxy hchild hrunChild hexit =>
      exact hsame hproxy (hexit.symm.trans hnotified)
  | connect hstart hstart' hproxy hchild hrunChild hexit =>
      have hfalse := hC.connects j k (Or.inl rfl) hk
      have htrue : k.exitNotified = true := hexit.symm.trans hnotified
      simp [hfalse] at htrue
  | proxy a hact hproxy hstart hchild hrunChild hexit =>
      have htrue : k.exitNotified = true := hexit.symm.trans hnotified
      rcases hproxy with ⟨-, -, rfl⟩ | ⟨-, hended⟩
      · have hfalse := hC.connects j k (Or.inr rfl) hk
        simp [hfalse] at htrue
      · exact Or.inl (Or.inr (Or.inl hended))
  | childExits code hrunning hchild hstart hproxy hrunChild hexit =>
      exact hsame hproxy (hexit.symm.trans hnotified)
  | runChild host hstep hstart hproxy hchild =>
      apply hsame hproxy
      rcases Launch.stepRunChild_cases hstep with ⟨code, -, -, rfl⟩ | ⟨code, startup, -, rfl⟩ |
        ⟨code, -, -, rfl⟩ | ⟨code, -, rfl⟩ | ⟨code, hpc, rfl⟩ | ⟨code, -, rfl⟩
      · exact hnotified
      · exact hnotified
      · exact hnotified
      · exact hnotified
      · -- This step is not among those it takes.
        have hnotifying : k.runChild = .notifying code := hpc
        simp [Incarnation.takes, Incarnation.notifying, hnotifying] at htakes
      · exact hnotified

theorem step_attentive {s t : Lifetime} {a : Act} (hs : s.Attentive) (hC : s.Prompt a)
    (h : s.step D a = some t) : t.Attentive := by
  intro j k' hk' hnotified
  obtain ⟨before, hk, hchange⟩ := step_incarnation_to h hk'
  cases hchange with
  | same a k hact =>
      rcases hs j k' hk hnotified with hgone | hleaving
      · exact Or.inl hgone
      · exact Or.inr ⟨hleaving.1, hleaving.2.1, step_channel_nil h hC hk hnotified hleaving⟩
  | woken a i k hother hact =>
      have hchannel : t.channel = s.channel := by
        rcases hact with rfl | ⟨host, rfl⟩
        all_goals exact step_channel_eq h (fun _ => id) (by simp)
      rw [hchannel]
      refine Incarnation.gone_or_leaving_congr (k := k) rfl rfl rfl ?_ (hs j k hk hnotified)
      simp +contextual [Incarnation.wake]
  | begun a hact =>
      cases hnotified
  | adopted key =>
      cases hnotified
  | launched a k l htakes hl hkernel =>
      rw [step_channel_eq h (fun _ => id) (by simp)]
      exact gone_or_leaving_of_launch (hs j k hk) hC hk htakes hl hnotified
  | spawned pid k hpreparing | identified jep66 k start hspawned hstart =>
      rw [step_channel_eq h (fun _ => id) (by simp)]
      exact Incarnation.gone_or_leaving_congr (k := k) rfl rfl rfl id (hs j k hk hnotified)
  | notifies k code hpc =>
      rw [step_channel_eq h (fun _ => id) (by simp)]
      rcases hC.notifies j k rfl hk with hgone | ⟨hselecting, hregistered, hnil⟩
      · exact Or.inl hgone
      · refine Or.inr ⟨hselecting, ?_, hnil⟩
        cases hlistener : k.exitListener with
        | unregistered => exact absurd hlistener hregistered
        | registered => simp [Incarnation.wake, hlistener]
        | notified => simp [Incarnation.wake, hlistener]
  | listens pendingIopubMessages k startup hproxy =>
      rcases hs j k hk hnotified with hgone | ⟨hselecting, -, -⟩
      · rcases hgone with hp | hp | ⟨hp, -⟩ <;> simp [hproxy] at hp
      · rcases Incarnation.selecting_iff.mp hselecting with hp | ⟨hp, -⟩ <;> simp [hproxy] at hp
  | selects k hselecting hlistener =>
      rcases hs j k hk hnotified with hgone | ⟨-, hwoken, -⟩
      · exact absurd hselecting (Incarnation.not_selecting_of_gone hgone)
      · simp [hlistener] at hwoken
  | leaves k hproxy hlistener =>
      exact Or.inl (Or.inr (Or.inl rfl))
  | panics k hproxy =>
      exact Or.inl (Or.inr (Or.inl rfl))
  | loops a k w hproxy hselect hw hkernel =>
      rcases hs j k hk hnotified with hgone | hleaving
      · exact (not_step_of_gone hgone hproxy hw).elim
      · have harrive : ∀ channel frames, a ≠ .arrive channel frames := by
          rintro channel frames rfl
          have hfalse := hC.arrives j k channel frames rfl hk
          have htrue : k.exitNotified = true := hnotified
          simp [hfalse] at htrue
        exact Or.inl (Or.inr (Or.inr
          ⟨hproxy, Or.inl (step_of_leaving hleaving hproxy harrive hw)⟩))
  | stores k hadopted =>
      rw [step_channel_eq h (fun _ => id) (by simp)]
      exact Incarnation.gone_or_leaving_congr (k := k) rfl rfl rfl id (hs j k hk hnotified)
  | ends host k hadopted hover hopen =>
      exact Or.inl (Incarnation.isOver_gone hover)

/-- No message is taken by the proxy of a kernel whose exit was notified. -/
theorem not_takesAfterExit {s t : Lifetime} {a : Act} (hs : s.Attentive)
    (h : s.step D a = some t) : ¬ s.TakesAfterExit a := by
  cases step_took h with
  | proxy i a k w hk hproxy hselect hw =>
      cases a with
      | receive =>
          rintro ⟨k', hk', hnotified⟩
          obtain rfl : k = k' := Option.some.inj (hk.symm.trans hk')
          rcases hs i k hk hnotified with hgone | ⟨-, -, hnil⟩
          · exact not_step_of_gone hgone hproxy hw
          · simp [ProxyLoop.step, loop, hnil] at hw
      | _ => exact id
  | _ => exact id

/-- In every run whose steps are prompt, a proxy takes no message once the exit of
its kernel has been notified. -/
theorem run_not_takesAfterExit {sessionId workingDirectory : String} {host : Host}
    {mode : InterruptMode} {connection : KernelConnection} {acts : List Act} {t : Lifetime}
    (hmeets : (machine D).Meets Prompt
      (init sessionId workingDirectory host mode connection) acts)
    (hrun : (machine D).run (init sessionId workingDirectory host mode connection) acts =
      some t) :
    ∀ as a bs u, acts = as ++ a :: bs →
      (machine D).run (init sessionId workingDirectory host mode connection) as = some u →
      ¬ u.TakesAfterExit a := by
  intro as a bs u heq hu
  have hinit : (init sessionId workingDirectory host mode connection).Attentive :=
    fun i k hk => by cases hk
  subst heq
  obtain ⟨hattentive, -, v, hv⟩ := (machine D).invariant_of_run
    (fun _ _ _ hs hC h => step_attentive hs hC h) hinit hmeets hrun hu
  exact not_takesAfterExit hattentive hv

/-- A step that the condition says nothing about. -/
def Indifferent : Act → Prop
  | .task _ | .restartSend _ _ | .notifyExit _ | .proxy _ (.arrive _ _) | .launch _ .connect
  | .launch _ .proxyConnected => False
  | _ => True

theorem prompt_of_indifferent (s : Lifetime) {a : Act} (h : Indifferent a) : s.Prompt a := by
  refine ⟨?_, ?_, ?_, ?_⟩
  · intro posted hposted
    cases a with
    | task a | restartSend j msgId => exact h.elim
    | _ => exact hposted.elim
  · rintro i k rfl
    exact h.elim
  · rintro i k channel frames rfl
    exact h.elim
  · rintro i k (rfl | rfl)
    all_goals exact h.elim

/-- The proxy hears of its kernel's exit in its `select!` and ends. -/
def endedByExit : List Act :=
  spawning 0 7 ++ ([Act.launch 0 .connect, .launch 0 .proxyConnected] ++
    ([Act.listen 0 [], .launch 0 .recv, .launch 0 (.handleKernelInfo sampleHost), .select 0] ++
      exiting 0 ++ [Act.notifyExit 0, .proxy 0 .stop]))

theorem meets_endedByExit :
    (machine WireMessage.sampleCodecs).Meets Prompt (sampleLifetime .signal) endedByExit := by
  have hspawning : ∀ a ∈ spawning 0 7, ∀ u : Lifetime, u.Prompt a := by
    intro a ha u
    apply prompt_of_indifferent u
    simp only [spawning, List.mem_cons, List.not_mem_nil, or_false] at ha
    rcases ha with rfl | rfl | rfl | rfl
    all_goals trivial
  have hlistening : ∀ a ∈ [Act.listen 0 [], .launch 0 .recv,
      .launch 0 (.handleKernelInfo sampleHost), .select 0] ++ exiting 0,
      ∀ u : Lifetime, u.Prompt a := by
    intro a ha u
    apply prompt_of_indifferent u
    simp only [exiting, List.cons_append, List.nil_append, List.mem_cons, List.not_mem_nil,
      or_false] at ha
    rcases ha with rfl | rfl | rfl | rfl | rfl | rfl | rfl | rfl
    all_goals trivial
  have hlaunch : ∀ (u : Lifetime) k a, u.incarnation 0 = some k → k.exitNotified = false →
      a = .connect ∨ a = .proxyConnected → u.Prompt (.launch 0 a) := by
    intro u k a hk hopen ha
    refine ⟨fun _ => False.elim, by simp, by simp, ?_⟩
    intro i k' heq hk'
    have hi : i = 0 := by
      rcases heq with heq | heq
      all_goals
        cases heq
        rfl
    rw [hi, hk] at hk'
    cases hk'
    exact hopen
  apply Machine.meets_append _ rfl (Machine.meets_of_forall _ _ hspawning)
  refine Machine.meets_append _ rfl ⟨hlaunch _ _ _ rfl rfl (Or.inl rfl), fun t ht =>
    ⟨?_, fun _ _ => trivial⟩⟩ ?_
  · cases ht
    exact hlaunch _ _ _ rfl rfl (Or.inr rfl)
  apply Machine.meets_append _ rfl (Machine.meets_of_forall _ _ hlistening)
  refine ⟨⟨fun _ => False.elim, ?_, by simp, by simp⟩, fun t _ =>
    ⟨prompt_of_indifferent t trivial, fun _ _ => trivial⟩⟩
  rintro i k heq hk
  cases heq
  cases hk
  exact Or.inr ⟨rfl, by decide, rfl⟩

theorem run_not_takesAfterExit_endedByExit :
    ∃ t, (machine WireMessage.sampleCodecs).run (sampleLifetime .signal) endedByExit = some t ∧
      ∀ as a bs u, endedByExit = as ++ a :: bs →
        (machine WireMessage.sampleCodecs).run (sampleLifetime .signal) as = some u →
        ¬ u.TakesAfterExit a :=
  ⟨_, rfl, run_not_takesAfterExit meets_endedByExit rfl⟩

/-- The proxy has a request in hand when the exit is notified, and takes the next
one afterwards. -/
def missedExit : List Act :=
  startingUp 0 7 ++
    [Act.task (.post (ExecutionQueue.sampleRequest "r")), .proxy 0 .receive] ++ exiting 0 ++
    [Act.notifyExit 0, .proxy 0 (.queue sampleHost), .proxy 0 (.send sampleHost true), .select 0,
      .task (.post (ExecutionQueue.sampleRequest "q"))]

theorem takesAfterExit_missedExit :
    ¬ ∀ (D : Codecs) (sessionId workingDirectory : String) (host : Host)
      (mode : InterruptMode) (connection : KernelConnection) (acts : List Act) (a : Act)
      (u v : Lifetime),
      (machine D).run (init sessionId workingDirectory host mode connection) acts = some u →
        u.step D a = some v → ¬ u.TakesAfterExit a := by
  intro h
  have hnot := h WireMessage.sampleCodecs "s" "/" sampleHost .signal
    WireMessage.sampleConnection missedExit (.proxy 0 .receive) _ _ rfl rfl
  exact hnot ⟨_, rfl, rfl⟩

/-! ## Control requests -/

/-- The step hands to the control socket of a kernel an interrupt or a shutdown
request that was posted before that kernel was started. -/
def Crosses (s t : Lifetime) : Prop :=
  ∃ i k k' msg frames, s.incarnation i = some k ∧ t.incarnation i = some k' ∧
    k'.log = k.log ++ [ProxyEvent.out (.socket .control msg frames)] ∧ Clears msg ∧
    k.inHand ≤ k.birth

/-- No kernel is started while an interrupt or a shutdown request is on the
channel. -/
def Drained (s : Lifetime) (a : Act) : Prop :=
  Adds a → ∀ mark posted, (mark, posted) ∈ s.channel → ¬ Clears posted.msg

end Lifetime

namespace Incarnation

open ProxyLoop

/-- The kernel is counted once it is there to be connected to, and a control
request in its proxy's hand was posted since. -/
structure Dated (k : Incarnation) (kernels : ℕ) : Prop where
  born : k.proxy ≠ .absent ∨ k.start = .spawned ∨ k.start = .handshaking ∨
    k.start = .connecting → k.birth < kernels
  recent : ∀ posted, Session.inHand k.pc = some posted → Clears posted.msg →
    k.birth < k.inHand

theorem Dated.mono {k : Incarnation} {kernels kernels' : ℕ} (h : k.Dated kernels)
    (hle : kernels ≤ kernels') : k.Dated kernels' :=
  ⟨fun hthere => Nat.lt_of_lt_of_le (h.born hthere) hle, h.recent⟩

theorem Dated.congr {k k' : Incarnation} {kernels : ℕ} (h : k.Dated kernels)
    (hstart : k'.start = k.start) (hproxy : k'.proxy = k.proxy) (hpc : k'.pc = k.pc)
    (hinHand : k'.inHand = k.inHand) (hbirth : k'.birth = k.birth) : k'.Dated kernels := by
  constructor
  · rw [hstart, hproxy, hbirth]
    exact h.born
  · rw [hpc, hinHand, hbirth]
    exact h.recent

theorem Dated.of_proxy {k k' : Incarnation} {kernels : ℕ} (h : k.Dated kernels)
    (hproxy : k.proxy ≠ .absent) (hbirth : k'.birth = k.birth)
    (hrecent : ∀ posted, Session.inHand k'.pc = some posted → Clears posted.msg →
      k.birth < k'.inHand) : k'.Dated kernels := by
  refine ⟨fun _ => ?_, ?_⟩
  · rw [hbirth]
    exact h.born (Or.inl hproxy)
  · rw [hbirth]
    exact hrecent

end Incarnation

namespace Lifetime

open ProxyLoop

variable {D : Codecs}

/-- The control requests on the channel were posted since the last kernel was
started, and the incarnations are dated. -/
structure Current (s : Lifetime) : Prop where
  channel : ∀ mark posted, (mark, posted) ∈ s.channel → Clears posted.msg → s.kernels ≤ mark
  orderly : ∀ i k, s.incarnation i = some k → Orderly k
  dated : ∀ i k, s.incarnation i = some k → k.Dated s.kernels

theorem dated_of_launch {s : Lifetime} {a : Launch.Act} {k : Incarnation} {l : Launch}
    {kernels : ℕ} (h : k.Dated kernels) (htakes : k.takes a = true)
    (hl : (s.launch k).step a = some l) : (k.ofLaunch l).Dated kernels := by
  cases Launch.step_move (plain_of_takes htakes) hl with
  | start a hact hcalled hearly hspawned hlater hproxy hchild hrunChild hexit =>
      refine ⟨?_, h.recent⟩
      rintro (hthere | hthere | hthere)
      · exact h.born (Or.inl (fun habsent => hthere (hproxy.trans habsent)))
      · exact absurd hthere hspawned
      · exact h.born (Or.inr (Or.inr (Or.inl (hlater hthere))))
  | connect hstart hstart' hproxy hchild hrunChild hexit =>
      exact ⟨fun _ => h.born (Or.inr (Or.inr (Or.inr hstart))), h.recent⟩
  | drop hcalled hstart hproxy hchild hrunChild hexit =>
      refine ⟨?_, h.recent⟩
      rintro (hthere | hthere | hthere | hthere)
      · exact h.born (Or.inl (fun habsent => hthere (hproxy.trans habsent)))
      all_goals cases hstart.symm.trans hthere
  | proxy a hact hproxy hstart hchild hrunChild hexit =>
      refine h.of_proxy ?_ rfl h.recent
      intro habsent
      rcases hproxy with ⟨hconnecting, -⟩ | ⟨hconnecting | hinfo, -⟩
      · cases hconnecting.symm.trans habsent
      · cases hconnecting.symm.trans habsent
      · cases hinfo.symm.trans habsent
  | childExits code hrunning hchild hstart hproxy hrunChild hexit =>
      exact h.congr hstart hproxy rfl rfl rfl
  | runChild host hstep hstart hproxy hchild => exact h.congr hstart hproxy rfl rfl rfl

/-- What the proxy takes in hand was posted since its kernel was started. -/
theorem dated_of_loop {s : Lifetime} {i : ℕ} {a : ProxyLoop.Act} {k : Incarnation}
    {w : ProxyLoop} (hs : s.Current) (hk : s.incarnation i = some k)
    (hproxy : k.proxy = .listening) (hw : (s.loop k).step D k.connection a = some w) :
    (k.ofLoop a w (s.markInHand k a)).Dated s.kernels := by
  have hdated := hs.dated i k hk
  have hthere : k.proxy ≠ .absent := by simp [hproxy]
  refine hdated.of_proxy hthere rfl ?_
  intro posted hposted hclears
  rcases Session.inHand_change (ProxyLoop.step_change hw) hposted with hheld | ⟨rfl, rest, heq⟩
  · have hnot : a ≠ .receive := by
      rintro rfl
      cases ProxyLoop.step_change hw with
      | received posted' rest hpc hchannel hchannel' hqueue hpc' hlog =>
          rw [hpc] at hheld
          cases hheld
      | decoded a message hpc hmessage hqueue hchannel hpc' hlog => cases hmessage
      | discarded a hpc hqueue hchannel hpc' hlog =>
          rw [hpc] at hheld
          cases hheld
      | moved a hpc hqueue hchannel hpc' hlog =>
          rw [Session.inHand_of_free hpc] at hheld
          cases hheld
    have hmark : s.markInHand k a = k.inHand := by
      cases a with
      | receive => exact absurd rfl hnot
      | _ => rfl
    change k.birth < s.markInHand k a
    rw [hmark]
    exact hdated.recent posted hheld hclears
  · obtain ⟨⟨mark, posted'⟩, rest', hcons, rfl, -⟩ := List.map_eq_cons_iff.mp heq
    have hmark : s.markInHand k .receive = mark := by simp [markInHand, hcons]
    change k.birth < s.markInHand k .receive
    rw [hmark]
    exact Nat.lt_of_lt_of_le (hdated.born (Or.inl hthere))
      (hs.channel mark posted' (by simp [hcons]) hclears)

/-- A step keeps every incarnation dated by the kernels counted after it. -/
theorem step_dated {s t : Lifetime} {a : Act} (hs : s.Current) (h : s.step D a = some t)
    {j : ℕ} {k' : Incarnation} (hk' : t.incarnation j = some k') : k'.Dated t.kernels := by
  have hle : s.kernels ≤ t.kernels := by
    rcases step_kernels h with ⟨-, heq⟩ | ⟨-, heq⟩
    · omega
    · omega
  obtain ⟨before, hk, hchange⟩ := step_incarnation_to h hk'
  cases hchange with
  | same a k hact => exact (hs.dated j k' hk).mono hle
  | woken a i k hother hact =>
      have hdated := (hs.dated j k hk).mono hle
      exact hdated.congr rfl rfl rfl rfl rfl
  | begun a hact =>
      constructor
      · simp [Incarnation.new]
      · simp [Incarnation.new, Session.inHand]
  | adopted key =>
      have hadds : t.kernels = s.kernels + 1 := by
        rcases step_kernels h with ⟨hadds, -⟩ | ⟨-, heq⟩
        · exact absurd trivial hadds
        · exact heq
      constructor
      · intro _
        rw [hadds]
        exact Nat.lt_succ_self _
      · simp [Incarnation.adopt, Incarnation.new, Session.inHand]
  | launched a k l htakes hl hkernel =>
      exact (dated_of_launch (hs.dated j k hk) htakes hl).mono hle
  | spawned pid k hpreparing =>
      have hadds : t.kernels = s.kernels + 1 := by
        rcases step_kernels h with ⟨hadds, -⟩ | ⟨-, heq⟩
        · exact absurd trivial hadds
        · exact heq
      have habsent := (hs.orderly j k hk).early (Or.inr (Or.inl hpreparing))
      have hquiet := (hs.orderly j k hk).quiet (by simp [habsent])
      constructor
      · intro _
        rw [hadds]
        exact Nat.lt_succ_self _
      · rcases hquiet with hpc | hpc <;> simp [hpc, Session.inHand]
  | identified jep66 k start hspawned hstart =>
      have hdated := (hs.dated j k hk).mono hle
      exact ⟨fun _ => hdated.born (Or.inr (Or.inl hspawned)), hdated.recent⟩
  | notifies k code hpc =>
      have hdated := (hs.dated j k hk).mono hle
      exact hdated.congr rfl rfl rfl rfl rfl
  | listens pendingIopubMessages k startup hproxy =>
      have hdated := (hs.dated j k hk).mono hle
      refine hdated.of_proxy (by simp [hproxy]) rfl ?_
      simp [Session.inHand]
  | selects k hselecting hlistener =>
      have hdated := (hs.dated j k hk).mono hle
      exact hdated.congr rfl rfl rfl rfl rfl
  | leaves k hproxy hlistener =>
      have hdated := (hs.dated j k hk).mono hle
      exact hdated.of_proxy (by simp [hproxy]) rfl hdated.recent
  | panics k hproxy =>
      have hdated := (hs.dated j k hk).mono hle
      refine hdated.of_proxy (by simp [hproxy]) rfl ?_
      simp [Session.inHand]
  | loops a k w hproxy hselect hw hkernel =>
      exact (dated_of_loop hs hk hproxy hw).mono hle
  | stores k hadopted =>
      have hdated := (hs.dated j k hk).mono hle
      refine ⟨?_, hdated.recent⟩
      rintro (hthere | hreturned | hreturned | hreturned)
      · exact hdated.born (Or.inl hthere)
      all_goals cases hreturned
  | ends host k hadopted hover hopen =>
      have hdated := (hs.dated j k hk).mono hle
      exact hdated.congr rfl rfl rfl rfl rfl

theorem step_current {s t : Lifetime} {a : Act} (hs : s.Current) (hC : s.Drained a)
    (h : s.step D a = some t) : t.Current := by
  refine ⟨?_, fun j k' hk' => step_orderly h (hs.orderly j) hk',
    fun j k' hk' => step_dated hs h hk'⟩
  intro mark posted hmem hclears
  rcases step_kernels h with ⟨hadds, hkernels⟩ | ⟨hadds, hkernels⟩
  · rw [hkernels]
    cases step_channel h with
    | same a heq => exact hs.channel mark posted (heq ▸ hmem) hclears
    | posted a posted' hposted heq =>
        rw [heq] at hmem
        rcases List.mem_append.mp hmem with hold | hnew
        · exact hs.channel mark posted hold hclears
        · cases List.mem_singleton.mp hnew
          exact Nat.le_refl _
    | taken i mark' posted' heq =>
        exact hs.channel mark posted (by rw [heq]; exact List.mem_cons_of_mem _ hmem) hclears
  · -- The channel holds no control request when a kernel is added.
    have hold : (mark, posted) ∈ s.channel := by
      cases step_channel h with
      | same a heq => exact heq ▸ hmem
      | posted a posted' hposted heq =>
          cases a with
          | spawn i pid => exact hposted.elim
          | adopt i key => exact hposted.elim
          | _ => exact hadds.elim
      | taken i mark' posted' heq => exact hadds.elim
    exact absurd hclears (hC hadds mark posted hold)

theorem inHand_of_control {connection : KernelConnection} {w t : ProxyLoop}
    {a : ProxyLoop.Act} (h : ProxyLoop.Change D connection w t a) {msg : JupyterMessage}
    {frames : List Bytes} (hlog : t.log = w.log ++ [ProxyEvent.out (.socket .control msg frames)]) :
    ∃ posted, Session.inHand w.pc = some posted ∧ posted.msg = msg := by
  have hsame : t.log ≠ w.log := by simp [hlog]
  have hquiet : ¬ ∃ events, t.log = w.log ++ events ∧ ∀ event ∈ events, Quiet event := by
    rintro ⟨events, heq, hevents⟩
    rw [hlog, List.append_cancel_left_eq] at heq
    exact hevents _ (by rw [← heq]; exact List.mem_singleton_self _)
  have hone : ∀ event, t.log = w.log ++ [event] →
      event = .out (.socket .control msg frames) := by
    intro event heq
    rw [hlog, List.append_cancel_left_eq] at heq
    exact (List.cons.inj heq).1.symm
  cases h with
  | received posted rest hpc hchannel hchannel' hqueue hpc' heq => exact absurd heq hsame
  | admitted host posted hpc hmsg hactive hqueue hchannel hpc' heq => exact absurd heq hsame
  | queued host posted active hpc hmsg hactive hqueue hchannel hpc' heq =>
      exact absurd heq hquiet
  | cleared host posted hpc hmsg hqueue hchannel hpc' heq => exact absurd heq hsame
  | passed host posted hpc hmsg hqueue hchannel hpc' heq => exact absurd heq hsame
  | sent host accepted posted frames' hpc hqueue hchannel hpc' heq =>
      refine ⟨posted, by rw [hpc]; rfl, ?_⟩
      have hevent := hone _ heq
      simp only [ProxyEvent.out.injEq, Output.socket.injEq] at hevent
      exact hevent.2.1
  | unsent host accepted posted hpc hqueue hchannel hpc' heq => exact absurd heq hsame
  | decoded a message hpc hmessage hqueue hchannel hpc' heq => cases hone _ heq
  | discarded a hpc hqueue hchannel hpc' heq => exact absurd heq hsame
  | updated host message executionState hpc hqueue hchannel hpc' heq => exact absurd heq hquiet
  | drained host accepted message hpc hnil hqueue hchannel hpc' heq => exact absurd heq hsame
  | released host accepted message request rest frames' hpc hcons hqueue hchannel hpc' heq =>
      cases hone _ heq
  | lost host accepted message request rest hpc hcons hqueue hchannel hpc' heq =>
      exact absurd heq hsame
  | moved a hpc hqueue hchannel hpc' heq => exact absurd heq hquiet

theorem step_log {s t : Lifetime} {a : Act} (h : s.step D a = some t) {i : ℕ}
    {k k' : Incarnation} (hk : s.incarnation i = some k) (hk' : t.incarnation i = some k') :
    k'.log = k.log ∨ ∃ b w, a = .proxy i b ∧ k'.log = w.log ∧
      (s.loop k).step D k.connection b = some w := by
  have hchange := step_incarnation h i
  rw [hk, hk'] at hchange
  cases hchange with
  | loops b k w hproxy hselect hw hkernel => exact Or.inr ⟨b, w, rfl, rfl, hw⟩
  | same | woken | launched | spawned | identified | notifies | listens | selects | leaves
  | panics | stores | ends => exact Or.inl rfl

/-- A control request that a step hands on was posted since the kernel was
started. -/
theorem not_crosses {s t : Lifetime} {a : Act} (hs : s.Current) (h : s.step D a = some t) :
    ¬ s.Crosses t := by
  rintro ⟨i, k, k', msg, frames, hk, hk', hlog, hclears, hle⟩
  rcases step_log h hk hk' with hsame | ⟨b, w, -, hlog', hw⟩
  · simp [hsame] at hlog
  · obtain ⟨posted, hheld, rfl⟩ :=
      inHand_of_control (ProxyLoop.step_change hw) (hlog'.symm.trans hlog)
    have hlt := (hs.dated i k hk).recent posted hheld hclears
    omega

/-- In every run that starts no kernel with an interrupt or a shutdown request on
the channel, none of these is handed to a kernel started after it was posted. -/
theorem run_not_crosses {sessionId workingDirectory : String} {host : Host}
    {mode : InterruptMode} {connection : KernelConnection} {acts : List Act} {t : Lifetime}
    (hmeets : (machine D).Meets Drained
      (init sessionId workingDirectory host mode connection) acts)
    (hrun : (machine D).run (init sessionId workingDirectory host mode connection) acts =
      some t) :
    ∀ as a bs u v, acts = as ++ a :: bs →
      (machine D).run (init sessionId workingDirectory host mode connection) as = some u →
      u.step D a = some v → ¬ u.Crosses v := by
  rintro as a bs u v rfl hu hv
  have hinit : (init sessionId workingDirectory host mode connection).Current := by
    refine ⟨?_, ?_, ?_⟩
    · intro mark posted hmem
      cases hmem
    all_goals
      intro i k hk
      cases hk
  obtain ⟨hcurrent, -, -⟩ := (machine D).invariant_of_run
    (fun _ _ _ hs hC h => step_current hs hC h) hinit hmeets hrun hu
  exact not_crosses hcurrent hv

/-- A client interrupts the kernel that runs. -/
def interruptedOnce : List Act :=
  startingUp 0 7 ++
    [Act.task (.post (interruptRequest "i")), .proxy 0 .receive, .proxy 0 (.queue sampleHost),
      .proxy 0 (.send sampleHost true)]

theorem run_not_crosses_interruptedOnce :
    ∃ t, (machine WireMessage.sampleCodecs).run (sampleLifetime .message) interruptedOnce =
      some t ∧
      ∀ as a bs u v, interruptedOnce = as ++ a :: bs →
        (machine WireMessage.sampleCodecs).run (sampleLifetime .message) as = some u →
        u.step WireMessage.sampleCodecs a = some v → ¬ u.Crosses v := by
  have hspawning : (machine WireMessage.sampleCodecs).Meets Drained
      (sampleLifetime .message) (spawning 0 7) := by
    refine ⟨False.elim, fun t ht => ⟨False.elim, fun u hu => ⟨?_, fun v hv =>
      ⟨False.elim, fun _ _ => trivial⟩⟩⟩⟩
    cases ht
    cases hu
    exact fun _ _ _ hmem => by cases hmem
  have hrest : ∀ a ∈ connecting 0 ++
      [Act.task (.post (interruptRequest "i")), .proxy 0 .receive, .proxy 0 (.queue sampleHost),
        .proxy 0 (.send sampleHost true)], ∀ u : Lifetime, u.Drained a := by
    simp [connecting, Drained, Adds]
  have hmeets : (machine WireMessage.sampleCodecs).Meets Drained (sampleLifetime .message)
      interruptedOnce := by
    rw [interruptedOnce, startingUp, List.append_assoc]
    exact Machine.meets_append _ rfl hspawning (Machine.meets_of_forall _ _ hrest)
  exact ⟨_, rfl, run_not_crosses hmeets rfl⟩

/-- A client interrupts a kernel that has yet to be started. -/
def interruptedEarly : List Act :=
  Act.task (.post (interruptRequest "i")) :: startingUp 0 7 ++
    [Act.proxy 0 .receive, .proxy 0 (.queue sampleHost)]

theorem crosses_interruptedEarly :
    ¬ ∀ (D : Codecs) (sessionId workingDirectory : String) (host : Host)
      (mode : InterruptMode) (connection : KernelConnection) (acts : List Act) (a : Act)
      (u v : Lifetime),
      (machine D).run (init sessionId workingDirectory host mode connection) acts = some u →
        u.step D a = some v → ¬ u.Crosses v := by
  intro h
  have hnot := h WireMessage.sampleCodecs "s" "/" sampleHost .message
    WireMessage.sampleConnection interruptedEarly (.proxy 0 (.send sampleHost true)) _ _ rfl rfl
  exact hnot ⟨0, _, _, interruptRequest "i", _, rfl, rfl, rfl, Or.inl rfl, Nat.le_refl _⟩

end Lifetime

end Kallichore
