import Kallichore.Lifetime.Channel

/-!
# The exits that are still to come

A restart marks the session, asks the kernel to shut down and waits for the exit
event; only its own waking clears the mark, and as long as the mark is set every
other restart is refused. Nothing makes sure that the event will be notified
again: the session may have no kernel, or the kernel may exit before the restart
has come to register for it. And the restart belongs to the request it serves: when the
client goes, it is dropped with the mark still set.

A kernel has an exit to come from the moment its child is spawned, or its proxy
started if it was adopted, until the exit is notified. The task that is to notify
it may also panic before, or never be put in place, and then it never is.
-/

namespace Kallichore

namespace Incarnation

/-- The exit of the kernel is yet to be notified. -/
def CanExit (k : Incarnation) : Prop :=
  k.adopted = true ∧ k.exitNotified = false ∧ k.pc ≠ .panicked ∨
    k.process.Unrecorded ∨ ∃ code, k.runChild = .notifying code

end Incarnation

namespace Lifetime

variable {D : Codecs}

/-- Some kernel of the session has an exit to come. -/
def CanExit (s : Lifetime) : Prop :=
  ∃ i k, s.incarnation i = some k ∧ k.CanExit

def OtherCanExit (s : Lifetime) (i : ℕ) : Prop :=
  ∃ j k, j ≠ i ∧ s.incarnation j = some k ∧ k.CanExit

/-- The step notifies the exit of the kernel. -/
def Notifies (i : ℕ) : Act → Prop
  | .notifyExit j | .adoptedEnds j _ => j = i
  | _ => False

/-- The task that is to notify the exit of the kernel panics, or its start is dropped before
it has put that task in place. -/
def Silences (D : Codecs) (s : Lifetime) (i : ℕ) : Act → Prop
  | .launch j .drop => j = i ∧ ∃ k, s.incarnation i = some k ∧ k.runChild = .pending
  | .launch j (.runChild _) => j = i ∧ ∃ k code, s.incarnation i = some k ∧
      k.runChild = .checking code ∧ ¬ (s.launch k).Heard
  | .kernelInfoPanics j => j = i ∧ ∃ k, s.incarnation i = some k ∧ k.adopted = true
  | .proxy j a => j = i ∧ ∃ k, s.incarnation i = some k ∧ k.adopted = true ∧
      ProxyLoop.Panics D k.connection (s.loop k) a
  | _ => False

theorem actor_of_notifies {i : ℕ} {a : Act} (h : Notifies i a) : a.actor = some i := by
  cases a with
  | notifyExit j | adoptedEnds j host =>
      cases h
      rfl
  | _ => exact h.elim

theorem actor_of_silences {s : Lifetime} {i : ℕ} {a : Act} (h : s.Silences D i a) :
    a.actor = some i := by
  cases a with
  | launch j b =>
      cases b with
      | runChild host =>
          obtain ⟨rfl, -⟩ := h
          rfl
      | drop =>
          obtain ⟨rfl, -⟩ := h
          rfl
      | _ => exact h.elim
  | kernelInfoPanics j | proxy j b =>
      obtain ⟨rfl, -⟩ := h
      rfl
  | _ => exact h.elim

/-- The exit stays to come while `run_child` goes on towards it. -/
theorem canExit_of_launch {s : Lifetime} {i : ℕ} {a : Launch.Act} {k : Incarnation}
    {l : Launch} (hk : s.incarnation i = some k) (hcan : k.CanExit)
    (htakes : k.takes a = true) (hl : (s.launch k).step a = some l)
    (hloud : ¬ s.Silences D i (.launch i a)) : (k.ofLaunch l).CanExit := by
  have hsame : l.runChild = k.runChild → l.exitNotified = k.exitNotified →
      (k.ofLaunch l).CanExit := by
    intro hrunChild hnotified
    rw [Incarnation.CanExit, Process.Unrecorded, Process.Named]
    simp only [Incarnation.ofLaunch, Incarnation.process, hrunChild, hnotified]
    exact hcan
  cases Launch.step_move (plain_of_takes htakes) hl with
  | start a hact hcalled hearly hspawned hlater hproxy hchild hrunChild hexit =>
      exact hsame hrunChild hexit
  | drop hcalled hstart hproxy hchild hrunChild hexit =>
      rcases hrunChild with ⟨hpending, -⟩ | ⟨-, hkept⟩
      · exact absurd ⟨rfl, k, hk, hpending⟩ hloud
      · exact hsame hkept hexit
  | connect hstart hstart' hproxy hchild hrunChild hexit => exact hsame hrunChild hexit
  | proxy a hact hproxy hstart hchild hrunChild hexit => exact hsame hrunChild hexit
  | childExits code hrunning hchild hstart hproxy hrunChild hexit => exact hsame hrunChild hexit
  | runChild host hstep hstart hproxy hchild =>
      rcases Launch.stepRunChild_cases hstep with ⟨code, hpc, -, rfl⟩ |
        ⟨code, startup, hpc, rfl⟩ | ⟨code, hpc, hheard, rfl⟩ | ⟨code, hpc, rfl⟩ |
        ⟨code, hpc, rfl⟩ | ⟨code, hpc, rfl⟩
      · exact Or.inr (Or.inl (Or.inr (Or.inr ⟨code, Or.inl rfl⟩)))
      · exact Or.inr (Or.inl (Or.inr (Or.inr ⟨code, Or.inr rfl⟩)))
      · exact absurd ⟨rfl, k, code, hk, hpc, hheard⟩ hloud
      · exact Or.inr (Or.inr ⟨code, rfl⟩)
      · have hnotifying : k.runChild = .notifying code := hpc
        simp [Incarnation.takes, Incarnation.notifying, hnotifying] at htakes
      · -- `run_child` has notified the exit, so this kernel was adopted.
        have hannouncing : k.runChild = .announcing code := hpc
        rcases hcan with hadopted | (hpending | hwaiting | ⟨code', hlater | hlater⟩) |
          ⟨code', hlater⟩
        · exact Or.inl hadopted
        · cases hpending.symm.trans hannouncing
        · cases hwaiting.symm.trans hannouncing
        · cases hlater.symm.trans hannouncing
        · cases hlater.symm.trans hannouncing
        · cases hlater.symm.trans hannouncing

theorem step_canExit {s t : Lifetime} {a : Act} (h : s.step D a = some t) {i : ℕ}
    {k : Incarnation} (hk : s.incarnation i = some k) (hcan : k.CanExit)
    (hopen : ¬ Notifies i a) (hloud : ¬ s.Silences D i a) :
    ∃ k', t.incarnation i = some k' ∧ k'.CanExit := by
  obtain ⟨k', hk', hchange⟩ := step_incarnation_of_some h hk
  refine ⟨k', hk', ?_⟩
  cases hchange with
  | launched a k l htakes hl hkernel => exact canExit_of_launch hk hcan htakes hl hloud
  | spawned pid k hpreparing => exact Or.inr (Or.inl (Or.inl rfl))
  | identified jep66 k start hspawned hstart => exact Or.inr (Or.inl (Or.inr (Or.inl rfl)))
  | notifies k code hpc => exact absurd rfl hopen
  | ends host k hadopted hover hopen' => exact absurd rfl hopen
  | listens pendingIopubMessages k startup hproxy =>
      rcases hcan with ⟨hadopted, hnotified, -⟩ | hlater
      · exact Or.inl ⟨hadopted, hnotified, by simp⟩
      · exact Or.inr hlater
  | panics k hproxy =>
      rcases hcan with ⟨hadopted, -⟩ | hlater
      · exact absurd ⟨rfl, k, hk, hadopted⟩ hloud
      · exact Or.inr hlater
  | loops b k w hproxy hselect hw hkernel =>
      rcases hcan with ⟨hadopted, hnotified, -⟩ | hlater
      · refine Or.inl ⟨hadopted, hnotified, fun hpanicked => hloud ?_⟩
        exact ⟨rfl, k, hk, hadopted, ProxyLoop.step_panicked hw hpanicked⟩
      · exact Or.inr hlater
  | same | woken | selects | leaves | stores => exact hcan

/-- The step uses up the exit of the kernel. -/
def EndsExit (D : Codecs) (s : Lifetime) (i : ℕ) (a : Act) : Prop :=
  Notifies i a ∨ s.Silences D i a

theorem actor_of_endsExit {s : Lifetime} {i : ℕ} {a : Act} (h : s.EndsExit D i a) :
    a.actor = some i := by
  rcases h with h | h
  · exact actor_of_notifies h
  · exact actor_of_silences h

theorem step_otherCanExit {s t : Lifetime} {a : Act} (h : s.step D a = some t) {i : ℕ}
    (hends : s.EndsExit D i a) (hother : s.OtherCanExit i) : t.CanExit := by
  obtain ⟨j, k, hne, hk, hcan⟩ := hother
  have hnot : ¬ s.EndsExit D j a := by
    intro hj
    have hactor := (actor_of_endsExit hj).symm.trans (actor_of_endsExit hends)
    exact hne (Option.some.inj hactor)
  obtain ⟨k', hk', hcan'⟩ := step_canExit h hk hcan (fun hj => hnot (Or.inl hj))
    (fun hj => hnot (Or.inr hj))
  exact ⟨j, k', hk', hcan'⟩

theorem step_canExit_or {s t : Lifetime} {a : Act} (h : s.step D a = some t)
    (hcan : s.CanExit) : t.CanExit ∨ ∃ i, s.EndsExit D i a := by
  obtain ⟨i, k, hk, hcan⟩ := hcan
  by_cases hends : s.EndsExit D i a
  · exact Or.inr ⟨i, hends⟩
  · obtain ⟨k', hk', hcan'⟩ := step_canExit h hk hcan (fun hi => hends (Or.inl hi))
      (fun hi => hends (Or.inr hi))
    exact Or.inl ⟨i, k', hk', hcan'⟩

/-- A listener is served after a step if the step is not the last notification
while it has yet to register, nor the loss of the last one before it is woken. -/
theorem step_served {s t : Lifetime} {a : Act} (h : s.step D a = some t)
    {listener listener' : Listener} (hserved : listener.Served s.CanExit)
    (hnotified : ∀ i, Notifies i a → listener' = listener.notify)
    (hkept : listener = .notified → listener' = .notified)
    (hlate : ∀ i, Notifies i a → listener = .unregistered → s.OtherCanExit i)
    (hloud : ∀ i, s.Silences D i a → listener ≠ .notified → s.OtherCanExit i) :
    listener'.Served t.CanExit := by
  by_cases hnotifies : ∃ i, Notifies i a
  · obtain ⟨i, hi⟩ := hnotifies
    rw [hnotified i hi]
    exact Listener.served_notify fun hunregistered =>
      step_otherCanExit h (Or.inl hi) (hlate i hi hunregistered)
  · rcases hserved with hwoken | hcan
    · exact Or.inl (hkept hwoken)
    · rcases step_canExit_or h hcan with hcan' | ⟨i, hi | hi⟩
      · exact Or.inr hcan'
      · exact absurd ⟨i, hi⟩ hnotifies
      · by_cases hwoken : listener = .notified
        · exact Or.inl (hkept hwoken)
        · exact Or.inr (step_otherCanExit h (Or.inr hi) (hloud i hi hwoken))

/-! ## The restarts -/

/-- A session that is restarting has a restart that was woken, or that waits for an
exit still to come. -/
def RestartServed (s : Lifetime) : Prop :=
  s.kernel.restarting = true →
    ∃ j l, listener (s.restart j) = some l ∧ l.Served s.CanExit

/-- A restart begins when an exit is to come, and is not dropped while it waits. The last
exit is not notified before the restart has registered for it, and the task that is to
notify it does not fail to while the restart waits. -/
structure ExitAhead (D : Codecs) (s : Lifetime) (a : Act) : Prop where
  begins : ∀ j workingDirectory host, a = .restart j workingDirectory host →
    s.kernel.restarting = false → s.CanExit
  stays : ∀ j, a ≠ .restartDrop j
  registers : ∀ i, Notifies i a → ∀ j, listener (s.restart j) = some .unregistered →
    s.OtherCanExit i
  sounds : ∀ i, s.Silences D i a → ∀ j l, listener (s.restart j) = some l →
    l ≠ .notified → s.OtherCanExit i

theorem listener_wake (pc : RestartPc) : listener pc.wake = (listener pc).map .notify := by
  cases pc <;> rfl

theorem restart_of_notifies {s t : Lifetime} {a : Act} (h : s.step D a = some t) {i : ℕ}
    (hnotifies : Notifies i a) (j : ℕ) : t.restart j = (s.restart j).wake := by
  cases step_took h with
  | notifyExit | adoptedEnds => rfl
  | _ => exact hnotifies.elim

theorem step_listener {s t : Lifetime} {a : Act} (h : s.step D a = some t) {j : ℕ}
    {l : Listener} (hl : listener (s.restart j) = some l) (hstays : ∀ j, a ≠ .restartDrop j)
    (hflag : t.kernel.restarting = true) :
    ∃ l', listener (t.restart j) = some l' ∧ (∀ i, Notifies i a → l' = l.notify) ∧
      (l = .notified → l' = .notified) := by
  by_cases hnotifies : ∃ i, Notifies i a
  · obtain ⟨i, hi⟩ := hnotifies
    refine ⟨l.notify, ?_, fun _ _ => rfl, ?_⟩
    · rw [restart_of_notifies h hi, listener_wake, hl]
      rfl
    · rintro rfl
      rfl
  · have hopen : ∀ i, ¬ Notifies i a := fun i hi => hnotifies ⟨i, hi⟩
    cases step_restart h j with
    | same a heq => exact ⟨l, heq ▸ hl, fun i hi => absurd hi (hopen i), id⟩
    | woken a i hact heq =>
        rcases hact with rfl | ⟨host, rfl⟩
        all_goals exact absurd rfl (hopen i)
    | refused workingDirectory host hpc heq | entered workingDirectory host hfree hpc heq =>
        rw [hpc] at hl
        cases hl
    | asked msgId hpc heq =>
        rw [hpc] at hl
        cases hl
        exact ⟨.unregistered, by rw [heq]; rfl, fun i hi => absurd hi (hopen i), id⟩
    | listens hpc heq =>
        rw [hpc] at hl
        cases hl
        exact ⟨.registered, by rw [heq]; rfl, fun i hi => absurd hi (hopen i), nofun⟩
    | returned a hclear heq => cases hflag.symm.trans hclear
    | dropped hpc heq => exact absurd rfl (hstays j)

theorem step_restartServed {s t : Lifetime} {a : Act} (hs : s.RestartServed)
    (hC : s.ExitAhead D a) (h : s.step D a = some t) : t.RestartServed := by
  intro hflag
  rcases step_restarting h hflag with hmarked | ⟨j, workingDirectory, host, rfl, hj⟩
  · obtain ⟨j, l, hl, hserved⟩ := hs hmarked
    obtain ⟨l', hl', hnotified, hkept⟩ := step_listener h hl hC.stays hflag
    refine ⟨j, l', hl', step_served h hserved hnotified hkept ?_ ?_⟩
    · rintro i hi rfl
      exact hC.registers i hi j hl
    · exact fun i hi hwaits => hC.sounds i hi j l hl hwaits
  · have hfree : s.kernel.restarting = false := by
      cases step_took h with
      | restartRefused j workingDirectory host hpc hmarked =>
          simp [setRestart] at hj
      | restart j workingDirectory host hpc hfree => exact hfree
    refine ⟨j, .unregistered, by rw [hj]; rfl, Or.inr ?_⟩
    rcases step_canExit_or h (hC.begins j workingDirectory host rfl hfree) with
      hcan | ⟨i, hi | hi⟩
    · exact hcan
    · exact hi.elim
    · exact hi.elim

/-- In every run whose restarts have an exit ahead of them, a session that is marked
as restarting has a restart that will come to clear the mark. -/
theorem run_restartServed {sessionId workingDirectory : String} {host : Host}
    {mode : InterruptMode} {connection : KernelConnection} {acts : List Act} {t : Lifetime}
    (hmeets : (machine D).Meets (ExitAhead D)
      (init sessionId workingDirectory host mode connection) acts)
    (hrun : (machine D).run (init sessionId workingDirectory host mode connection) acts =
      some t) : t.RestartServed := by
  have hinit : (init sessionId workingDirectory host mode connection).RestartServed := by
    intro hflag
    cases hflag
  exact (machine D).run_invariant (fun _ _ _ hs hC h => step_restartServed hs hC h) hinit hmeets
    hrun

/-- A restart up to the point where it waits for the kernel to exit. -/
def restarting (j : ℕ) : List Act :=
  [.restart j none sampleHost, .restartSend j "x", .restartListen j]

theorem run_restartServed_spawning :
    ∃ t, (machine WireMessage.sampleCodecs).run (sampleLifetime .signal)
        (spawning 0 7 ++ restarting 0) = some t ∧
      t.kernel.restarting = true ∧ t.RestartServed := by
  have hother : ∀ a ∈ spawning 0 7 ++ [Act.restartSend 0 "x", .restartListen 0],
      ∀ u : Lifetime, u.ExitAhead WireMessage.sampleCodecs a := by
    intro a ha u
    simp only [spawning, List.cons_append, List.nil_append, List.mem_cons, List.not_mem_nil,
      or_false] at ha
    rcases ha with rfl | rfl | rfl | rfl | rfl | rfl
    all_goals exact ⟨by simp, by simp, fun _ => False.elim, fun _ => False.elim⟩
  have hmeets : (machine WireMessage.sampleCodecs).Meets (ExitAhead WireMessage.sampleCodecs)
      (sampleLifetime .signal) (spawning 0 7 ++ restarting 0) := by
    refine Machine.meets_append _ rfl
      (Machine.meets_of_forall _ _ fun a ha => hother a (List.mem_append_left _ ha))
      ⟨?_, fun t _ => Machine.meets_of_forall _ _ fun a ha => hother a
        (List.mem_append_right _ ha)⟩
    refine ⟨fun _ _ _ _ _ => ?_, by simp, fun _ => False.elim, fun _ => False.elim⟩
    exact ⟨0, _, rfl, Or.inr (Or.inl (Or.inr (Or.inl rfl)))⟩
  exact ⟨_, rfl, rfl, run_restartServed hmeets rfl⟩

/-- A session that was never started is restarted, and stays marked. -/
theorem not_restartServed_restarting :
    ¬ ∀ (D : Codecs) (sessionId workingDirectory : String) (host : Host)
      (mode : InterruptMode) (connection : KernelConnection) (acts : List Act) (t : Lifetime),
      (machine D).run (init sessionId workingDirectory host mode connection) acts = some t →
        t.RestartServed := by
  intro h
  obtain ⟨t, hrun, hmarked, hrestart, hnone⟩ : ∃ t, (machine WireMessage.sampleCodecs).run
      (sampleLifetime .signal) (restarting 0) = some t ∧ t.kernel.restarting = true ∧
      (∀ j, t.restart j = .exiting .registered ∨ t.restart j = .absent) ∧
      ∀ i, t.incarnation i = none := by
    refine ⟨_, rfl, rfl, ?_, fun _ => rfl⟩
    intro j
    by_cases hj : j = 0
    · rw [hj]
      exact Or.inl rfl
    · exact Or.inr (by simp [setRestart, enqueue, sampleLifetime, init, hj])
  obtain ⟨j, l, hl, rfl | ⟨i, k, hk, -⟩⟩ := h _ _ _ _ _ _ _ t hrun hmarked
  · rcases hrestart j with hj | hj
    all_goals
      rw [hj] at hl
      cases hl
  · rw [hnone] at hk
    cases hk

end Lifetime

end Kallichore
