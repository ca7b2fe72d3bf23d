import Kallichore.Server.Configuration

/-!
# When the idle timer looks at the sessions

The idle timer waits for whichever comes first: its interval expires, a nudge comes in, or the
idle hours are changed. A nudge starts the interval over, and changed hours start a new one, so
the sessions are looked at only after a whole interval in which neither came. The clock is in
nanoseconds. How long after the moment of its deadline an interval counts the next one from is
left open, within what has passed.
-/

namespace Kallichore

structure IdleTimer where
  poll : IdlePoll
  startTime : ℕ
  /-- When the interval expires next. -/
  deadline : ℕ
  now : ℕ
  deriving DecidableEq

namespace IdleTimer

def nanosPerSecond : ℕ := 1000000000

def period (poll : IdlePoll) : ℕ := poll.duration * nanosPerSecond

/-- The task begins, with the first tick of its interval consumed. -/
def start (hours : Option UInt16) (now late : ℕ) : IdleTimer where
  poll := .start hours
  startTime := now
  deadline := now + late + period (.start hours)
  now := now + late

inductive Act
  | elapse (nanos : ℕ)
  /-- The interval expires. Its next deadline is a period after this one, or later by `late`. -/
  | tick (isRunning : UInt32 → Bool) (late : ℕ)
  | nudge (pid : Option UInt32)
  /-- New hours come in. The first tick of the new interval is consumed. -/
  | update (hours : Option UInt16) (late : ℕ)

def elapsed (s : IdleTimer) : ℕ := (s.now - s.startTime) / nanosPerSecond

/-- Whether the sessions are looked at when the interval expires. -/
def looks (s : IdleTimer) (isRunning : UInt32 → Bool) : Bool :=
  (s.poll.tick s.elapsed isRunning).2

def step (s : IdleTimer) : Act → Option IdleTimer
  | .elapse nanos => some { s with now := s.now + nanos }
  | .tick isRunning late =>
      if s.deadline ≤ s.now ∧ late ≤ s.now - s.deadline then
        some { s with
          poll := (s.poll.tick s.elapsed isRunning).1
          deadline := s.deadline + late + period s.poll }
      else none
  | .nudge pid =>
      some { s with
        poll := s.poll.nudge pid
        deadline := s.now + period s.poll }
  | .update hours late =>
      some { s with
        poll := s.poll.update hours
        deadline := s.now + late + period (s.poll.update hours)
        now := s.now + late }

def machine : Machine IdleTimer Act where
  step := step

/-! ## A whole interval without a nudge -/

def Act.Resets : Act → Prop
  | .nudge _ => True
  | .update _ _ => True
  | _ => False

/-- Another client does not take the place of this one, nor is this one looked for and found
to be gone. -/
def Spares (pid : UInt32) (s : IdleTimer) : Act → Prop
  | .nudge (some other) => other = pid
  | .tick isRunning _ =>
      s.poll.currentIdleShutdownHours ≠ none → 1 < pid → isRunning pid = true
  | _ => True

variable {s t : IdleTimer} {a : Act}

theorem period_eq_of_hours {poll other : IdlePoll}
    (h : poll.currentIdleShutdownHours = other.currentIdleShutdownHours) :
    period poll = period other := by
  rw [period, period, poll.duration_eq, other.duration_eq, h]

/-- The interval expires a whole period after the moment, at the earliest. -/
structure Waits (since : ℕ) (s : IdleTimer) : Prop where
  since_le : since ≤ s.now
  deadline : since + period s.poll ≤ s.deadline

theorem waits_start (hours : Option UInt16) (now late : ℕ) : Waits now (start hours now late) where
  since_le := Nat.le_add_right _ _
  deadline := Nat.add_le_add_right (Nat.le_add_right _ _) _

theorem step_waits {since : ℕ} (hs : Waits since s) (h : machine.step s a = some t) :
    Waits since t := by
  obtain ⟨hsince, hdeadline⟩ := hs
  cases a with
  | elapse nanos =>
      cases h
      exact ⟨Nat.le_add_right_of_le hsince, hdeadline⟩
  | tick isRunning late =>
      simp only [machine, step] at h
      split at h
      next =>
        cases h
        have hperiod : period (s.poll.tick s.elapsed isRunning).1 = period s.poll :=
          period_eq_of_hours (by simp)
        refine ⟨hsince, ?_⟩
        change since + period (s.poll.tick s.elapsed isRunning).1 ≤ _
        rw [hperiod]
        exact Nat.add_le_add_right (by omega) _
      next => cases h
  | nudge pid =>
      cases h
      have hperiod : period (s.poll.nudge pid) = period s.poll := period_eq_of_hours (by simp)
      refine ⟨hsince, ?_⟩
      change since + period (s.poll.nudge pid) ≤ _
      rw [hperiod]
      exact Nat.add_le_add_right hsince _
  | update hours late =>
      cases h
      exact ⟨Nat.le_add_right_of_le hsince,
        Nat.add_le_add_right (Nat.le_add_right_of_le hsince) _⟩

theorem waits_of_resets (hreset : a.Resets) (h : machine.step s a = some t) : Waits s.now t := by
  cases a with
  | elapse nanos => cases hreset
  | tick isRunning late => cases hreset
  | nudge pid =>
      cases h
      refine ⟨Nat.le_refl _, Nat.le_of_eq ?_⟩
      exact congrArg (s.now + ·) (period_eq_of_hours (by simp))
  | update hours late =>
      cases h
      exact ⟨Nat.le_add_right _ _, Nat.add_le_add_right (Nat.le_add_right _ _) _⟩

theorem step_startTime (h : machine.step s a = some t) : t.startTime = s.startTime := by
  cases a with
  | tick isRunning late =>
      simp only [machine, step] at h
      split at h
      next =>
        cases h
        rfl
      next => cases h
  | elapse nanos =>
      cases h
      rfl
  | nudge pid =>
      cases h
      rfl
  | update hours late =>
      cases h
      rfl

/-- The sessions are looked at when hours are set, enough time has passed since the task began,
and the client that is tracked has gone. -/
theorem looks_iff (s : IdleTimer) (isRunning : UInt32 → Bool) :
    s.looks isRunning = true ↔ s.poll.currentIdleShutdownHours ≠ none ∧
      s.poll.duration ≤ s.elapsed ∧
        (1 < s.poll.clientPid → isRunning s.poll.clientPid = false) := by
  rw [looks, IdlePoll.tick]
  split
  next hnone => simp [Option.isNone_iff_eq_none.mp hnone]
  next hsome =>
    have hset : s.poll.currentIdleShutdownHours ≠ none := by simpa using hsome
    split
    next hlt => simp [Nat.not_le_of_lt hlt]
    next hle =>
      have hpassed := Nat.le_of_not_lt hle
      split
      next hpid =>
        split
        next hrunning => simp [hpid, hrunning]
        next hrunning => simp [hset, hpassed, hrunning]
      next hpid => simp [hset, hpassed, hpid]

theorem step_clientPid {pid : UInt32} (hs : s.poll.clientPid = pid) (hspares : s.Spares pid a)
    (h : machine.step s a = some t) : t.poll.clientPid = pid := by
  cases a with
  | elapse nanos =>
      cases h
      exact hs
  | tick isRunning late =>
      simp only [machine, step] at h
      split at h
      next =>
        cases h
        change (s.poll.tick s.elapsed isRunning).1.clientPid = pid
        subst hs
        rw [IdlePoll.tick]
        split
        next => rfl
        next hsome =>
          split
          next => rfl
          next =>
            split
            next hpid =>
              have hset : s.poll.currentIdleShutdownHours ≠ none := by simpa using hsome
              rw [if_pos (hspares hset hpid)]
            next => rfl
      next => cases h
  | nudge named =>
      cases h
      cases named with
      | none => exact hs
      | some other =>
          obtain rfl : other = pid := hspares
          change (s.poll.nudge (some other)).clientPid = other
          rw [IdlePoll.nudge]
          split
          next => rfl
          next => exact hs
  | update hours late =>
      cases h
      exact hs

theorem clientPid_of_nudge {pid : UInt32} (h : machine.step s (.nudge (some pid)) = some t) :
    t.poll.clientPid = pid := by
  cases h
  change (s.poll.nudge (some pid)).clientPid = pid
  rw [IdlePoll.nudge]
  split
  next => rfl
  next hsame => exact (not_not.mp hsame).symm

theorem run_split {cs ds : List Act} {v w : IdleTimer} (hw : machine.run s (cs ++ a :: ds) = some w)
    (hv : machine.run s cs = some v) : ∃ v', machine.step v a = some v' ∧
      machine.run v' ds = some w := by
  obtain ⟨v', hv', hrest⟩ := (machine.run_append_eq_some_iff s w cs (a :: ds)).mp hw
  cases hv.symm.trans hv'
  exact (machine.run_cons_eq_some_iff v w a ds).mp hrest

theorem run_waits {since : ℕ} {acts : List Act} (hs : Waits since s)
    (hrun : machine.run s acts = some t) : Waits since t :=
  machine.run_of_step (fun _ _ _ hs h => step_waits hs h) hs hrun

/-- When the interval expires, the sessions are looked at exactly if hours are set and the client
that is tracked has gone; the time since the task began is never too short. By then a whole
period has passed since every nudge and since the hours were last changed, and a client that
named itself is tracked until it is looked for and not found to be running. -/
theorem tick_looks {hours : Option UInt16} {now late : ℕ} {as bs : List Act}
    {isRunning : UInt32 → Bool} {delay : ℕ} {u : IdleTimer}
    (hrun : machine.run (start hours now late) (as ++ .tick isRunning delay :: bs) = some t)
    (hu : machine.run (start hours now late) as = some u) :
    (u.looks isRunning = true ↔ u.poll.currentIdleShutdownHours ≠ none ∧
      (1 < u.poll.clientPid → isRunning u.poll.clientPid = false)) ∧
    (∀ cs a ds v, as = cs ++ a :: ds → a.Resets →
      machine.run (start hours now late) cs = some v → v.now + period u.poll ≤ u.now) ∧
    ∀ cs pid ds v, as = cs ++ .nudge (some pid) :: ds →
      machine.run (start hours now late) (cs ++ [.nudge (some pid)]) = some v →
      machine.Meets (Spares pid) v ds → u.poll.clientPid = pid := by
  obtain ⟨w, hw, -⟩ := run_split hrun hu
  have hexpired : u.deadline ≤ u.now := by
    simp only [machine, step] at hw
    split at hw
    next h => exact h.1
    next => cases hw
  have hstart : u.startTime = now :=
    machine.run_of_step (I := fun s => s.startTime = now)
      (fun _ _ _ hs h => (step_startTime h).trans hs) rfl hu
  refine ⟨?_, ?_, ?_⟩
  · have hwaits := run_waits (waits_start hours now late) hu
    have hpassed : u.poll.duration ≤ u.elapsed := by
      rw [elapsed, hstart, Nat.le_div_iff_mul_le (by decide)]
      have hperiod : now + u.poll.duration * nanosPerSecond ≤ u.deadline := hwaits.deadline
      omega
    rw [looks_iff]
    exact ⟨fun h => ⟨h.1, h.2.2⟩, fun h => ⟨h.1, hpassed, h.2⟩⟩
  · rintro cs a ds v rfl hreset hv
    obtain ⟨v', hv', hrest⟩ := run_split hu hv
    exact Nat.le_trans (run_waits (waits_of_resets hreset hv') hrest).deadline hexpired
  · rintro cs pid ds v rfl hv hspares
    rw [List.append_cons] at hu
    obtain ⟨v', hv', hrest⟩ := (machine.run_append_eq_some_iff _ u _ ds).mp hu
    cases hv.symm.trans hv'
    obtain ⟨w, hw, hnudge⟩ := (machine.run_append_eq_some_iff _ v cs _).mp hv
    obtain ⟨v', hstep, hdone⟩ := (machine.run_cons_eq_some_iff w v _ []).mp hnudge
    cases hdone
    exact machine.run_invariant (I := fun s => s.poll.clientPid = pid)
      (fun _ _ _ hs hC h => step_clientPid hs hC h) (clientPid_of_nudge hstep) hspares hrest

/-- A client names itself, and a day later it has gone. -/
def abandoned : List Act :=
  [.nudge (some 77), .elapse (86400 * nanosPerSecond)]

theorem tick_looks_abandoned :
    ∃ u, machine.run (start (some 24) 0 0) abandoned = some u ∧ u.poll.clientPid = 77 ∧
      u.looks (fun _ => false) = true := by
  obtain ⟨u, t, hu, hrun⟩ : ∃ u t, machine.run (start (some 24) 0 0) abandoned = some u ∧
      machine.run (start (some 24) 0 0) (abandoned ++ [.tick (fun _ => false) 0]) = some t :=
    ⟨_, _, rfl, rfl⟩
  obtain ⟨hlooks, -, htracked⟩ := tick_looks hrun hu
  refine ⟨u, hu, htracked [] 77 [.elapse (86400 * nanosPerSecond)] _ rfl rfl
    ⟨trivial, fun _ _ => trivial⟩, ?_⟩
  rw [hlooks]
  cases hu
  exact ⟨by decide, fun _ => rfl⟩

end IdleTimer

end Kallichore
