import Kallichore.Lib.Runs
import Kallichore.Resources.ProcStat
import Mathlib.Algebra.Order.BigOperators.Group.Finset
import Mathlib.Algebra.Order.Ring.Nat

/-!
# Usage from CPU times

The CPU time of a process is cumulative. A tracker keeps the times of the processes that it
was shown last, and takes what each process that it is shown again has used in between. A
process that is not shown once is forgotten, and begins anew when it comes back.

So what is taken over many ticks is what each process used while it was shown without
interruption: the ticks that show a process fall into maximal runs, and what is taken is the
difference over each of them. This is the sum of the busy times of the ticks as long as none
of them wraps around.
-/

namespace Kallichore

namespace Resources

/-- Turns the cumulative CPU times of a session's processes into a usage percentage, where
100 means one core fully busy. Instants are nanoseconds. -/
structure CpuTracker where
  /-- Cumulative CPU time per PID as of the previous sample. -/
  previous : UInt32 → Option UInt64
  /-- When the previous sample was taken. -/
  sampledAt : Option ℕ

/-- What is sampled for a session at one moment. -/
structure Tick where
  samples : List ProcessSample
  now : ℕ

/-- What a tick comes to: the busy time, and the percentage that is returned. -/
structure Usage where
  busyNs : UInt64
  percent : UInt64
  deriving DecidableEq

namespace CpuTracker

/-- `CpuTracker::default`. -/
def new : CpuTracker where
  previous := fun _ => none
  sampledAt := none

/-- The loop over the samples: the busy time so far, and the map for the next time. -/
def account (previous : UInt32 → Option UInt64) (acc : UInt64 × (UInt32 → Option UInt64))
    (sample : ProcessSample) : UInt64 × (UInt32 → Option UInt64) :=
  let busyNs :=
    match previous sample.pid with
    | some time => acc.1 + Saturating.sub sample.cpuTimeNs time
    | none => acc.1
  (busyNs, Function.update acc.2 sample.pid (some sample.cpuTimeNs))

/-- `now - then` does not go below zero, the product with 100 has 128 bits, and the quotient
is cut to 64. -/
def percentOf (busyNs : UInt64) (elapsed : Option ℕ) : UInt64 :=
  match elapsed with
  | some elapsedNs => if 0 < elapsedNs then UInt64.ofNat (busyNs.toNat * 100 / elapsedNs) else 0
  | none => 0

/-- `CpuTracker::usage_percent`, with the busy time that it computes on the way. -/
def usagePercent (tracker : CpuTracker) (samples : List ProcessSample) (now : ℕ) :
    CpuTracker × Usage :=
  let elapsed := tracker.sampledAt.map fun before => now - before
  let (busyNs, current) := samples.foldl (account tracker.previous) (0, fun _ => none)
  ({ previous := current, sampledAt := some now }, { busyNs, percent := percentOf busyNs elapsed })

/-- What the ticks of a session come to, one after another. -/
def usages : CpuTracker → List Tick → List Usage
  | _, [] => []
  | tracker, tick :: ticks =>
      let (next, usage) := tracker.usagePercent tick.samples tick.now
      usage :: usages next ticks

end CpuTracker

/-! ## What a session's processes use -/

/-- The CPU time of a process in a tick, if it is shown. -/
def Tick.cpuTime (tick : Tick) (pid : UInt32) : Option UInt64 :=
  (tick.samples.find? fun sample => sample.pid = pid).map (·.cpuTimeNs)

section Ticks

variable (ticks : List Tick)

/-- The CPU time of a process in the tick with a number. -/
def cpuTimeAt (pid : UInt32) (k : ℕ) : Option UInt64 :=
  ticks[k]?.bind fun tick => tick.cpuTime pid

/-- The CPU time as a number, in a tick that shows the process. -/
def cpuNsAt (pid : UInt32) (k : ℕ) : ℕ := ((cpuTimeAt ticks pid k).map UInt64.toNat).getD 0

def ShownAt (pid : UInt32) (k : ℕ) : Prop := (cpuTimeAt ticks pid k).isSome = true

instance decidableShownAt (pid : UInt32) : DecidablePred (ShownAt ticks pid) :=
  fun k => inferInstanceAs (Decidable ((cpuTimeAt ticks pid k).isSome = true))

def pids : Finset UInt32 :=
  (ticks.flatMap fun tick => tick.samples.map (·.pid)).toFinset

/-- What the processes have used between a tick and the one before it that shows them too. -/
def used : ℕ → ℕ
  | 0 => 0
  | k + 1 =>
      ∑ pid ∈ pids ticks with ShownAt ticks pid k ∧ ShownAt ticks pid (k + 1),
        (cpuNsAt ticks pid (k + 1) - cpuNsAt ticks pid k)

/-- The time between a tick and the one before it. -/
def elapsedAt : ℕ → ℕ
  | 0 => 0
  | k + 1 => ((ticks[k + 1]?.map (·.now)).getD 0) - ((ticks[k]?.map (·.now)).getD 0)

/-- Each tick shows a process once, and the CPU time of a process does not decrease from a
tick to the next. -/
structure Steady : Prop where
  distinct : ∀ tick ∈ ticks, (tick.samples.map (·.pid)).Nodup
  grows : ∀ pid k, ShownAt ticks pid k → ShownAt ticks pid (k + 1) →
    cpuNsAt ticks pid k ≤ cpuNsAt ticks pid (k + 1)

end Ticks

section Shown

variable {ticks : List Tick} {k : ℕ} {tick : Tick}

theorem cpuTimeAt_of_getElem? (htick : ticks[k]? = some tick) (pid : UInt32) :
    cpuTimeAt ticks pid k = tick.cpuTime pid := by
  rw [cpuTimeAt, htick, Option.bind_some]

theorem mem_pids_of_mem (htick : ticks[k]? = some tick) {sample : ProcessSample}
    (hsample : sample ∈ tick.samples) : sample.pid ∈ pids ticks := by
  rw [pids, List.mem_toFinset, List.mem_flatMap]
  exact ⟨tick, List.mem_of_getElem? htick, List.mem_map_of_mem hsample⟩

theorem shownAt_iff (htick : ticks[k]? = some tick) (pid : UInt32) :
    ShownAt ticks pid k ↔ pid ∈ (tick.samples.map (·.pid)).toFinset := by
  rw [ShownAt, cpuTimeAt_of_getElem? htick, Tick.cpuTime, Option.isSome_map,
    List.find?_isSome, List.mem_toFinset, List.mem_map]
  simp

theorem lt_length_of_shownAt {pid : UInt32} (h : ShownAt ticks pid k) : k < ticks.length := by
  by_contra hle
  rw [ShownAt, cpuTimeAt, List.getElem?_eq_none (Nat.not_lt.mp hle)] at h
  cases h

theorem mem_pids_of_shownAt {pid : UInt32} (h : ShownAt ticks pid k) : pid ∈ pids ticks := by
  have htick := List.getElem?_eq_getElem (lt_length_of_shownAt h)
  rw [shownAt_iff htick, List.mem_toFinset, List.mem_map] at h
  obtain ⟨sample, hsample, rfl⟩ := h
  exact mem_pids_of_mem htick hsample

end Shown

theorem steady_iff {ticks : List Tick} : Steady ticks ↔
    (∀ tick ∈ ticks, (tick.samples.map (·.pid)).Nodup) ∧
      ∀ k < ticks.length, ∀ pid ∈ pids ticks, ShownAt ticks pid k → ShownAt ticks pid (k + 1) →
        cpuNsAt ticks pid k ≤ cpuNsAt ticks pid (k + 1) := by
  constructor
  · rintro ⟨hdistinct, hgrows⟩
    exact ⟨hdistinct, fun k _ pid _ => hgrows pid k⟩
  · rintro ⟨hdistinct, hgrows⟩
    refine ⟨hdistinct, fun pid k hk => ?_⟩
    exact hgrows k (lt_length_of_shownAt hk) pid (mem_pids_of_shownAt hk) hk

instance decidableSteady (ticks : List Tick) : Decidable (Steady ticks) :=
  -- there are finitely many processes at all, but they are not to be gone through
  haveI (k : ℕ) : Decidable (∀ pid ∈ pids ticks, ShownAt ticks pid k →
      ShownAt ticks pid (k + 1) → cpuNsAt ticks pid k ≤ cpuNsAt ticks pid (k + 1)) :=
    Finset.decidableDforallFinset
  decidable_of_iff _ steady_iff.symm

/-! ## One tick -/

namespace CpuTracker

def gain (previous : UInt32 → Option UInt64) (sample : ProcessSample) : ℕ :=
  match previous sample.pid with
  | some time => sample.cpuTimeNs.toNat - time.toNat
  | none => 0

theorem toNat_account_fst (previous : UInt32 → Option UInt64)
    (acc : UInt64 × (UInt32 → Option UInt64)) (sample : ProcessSample) :
    (account previous acc sample).1.toNat = (acc.1.toNat + gain previous sample) % 2 ^ 64 := by
  simp only [account, gain]
  split
  next time =>
    rw [UInt64.toNat_add, Saturating.toNat_sub]
  next =>
    rw [Nat.add_zero, Nat.mod_eq_of_lt acc.1.toNat_lt]

theorem toNat_foldl_account_fst (previous : UInt32 → Option UInt64)
    (acc : UInt64 × (UInt32 → Option UInt64)) (samples : List ProcessSample) :
    (samples.foldl (account previous) acc).1.toNat =
      (acc.1.toNat + (samples.map (gain previous)).sum) % 2 ^ 64 := by
  induction samples generalizing acc with
  | nil => rw [List.foldl_nil, List.map_nil, List.sum_nil, Nat.add_zero,
      Nat.mod_eq_of_lt acc.1.toNat_lt]
  | cons sample samples ih =>
      rw [List.foldl_cons, ih, toNat_account_fst, Nat.mod_add_mod, List.map_cons, List.sum_cons,
        Nat.add_assoc]

theorem foldl_account_snd (previous : UInt32 → Option UInt64)
    (acc : UInt64 × (UInt32 → Option UInt64)) {samples : List ProcessSample}
    (h : (samples.map (·.pid)).Nodup) (pid : UInt32) :
    (samples.foldl (account previous) acc).2 pid =
      ((samples.find? fun sample => sample.pid = pid).map (·.cpuTimeNs)).or (acc.2 pid) := by
  induction samples generalizing acc with
  | nil => rfl
  | cons sample samples ih =>
      rw [List.map_cons, List.nodup_cons] at h
      rw [List.foldl_cons, ih _ h.2]
      by_cases hpid : sample.pid = pid
      · have hnone : (samples.find? fun sample => sample.pid = pid) = none := by
          rw [List.find?_eq_none]
          intro other hother heq
          exact h.1 (List.mem_map.mpr ⟨other, hother, (of_decide_eq_true heq).trans hpid.symm⟩)
        rw [hnone, List.find?_cons_of_pos (by simpa using hpid)]
        simp [account, hpid]
      · rw [List.find?_cons_of_neg (by simpa using hpid)]
        simp [account, Function.update_of_ne (Ne.symm hpid)]

theorem account_right_comm (previous : UInt32 → Option UInt64)
    (acc : UInt64 × (UInt32 → Option UInt64)) {a b : ProcessSample} (h : a.pid ≠ b.pid) :
    account previous (account previous acc a) b = account previous (account previous acc b) a := by
  apply Prod.ext
  · simp only [account]
    cases previous a.pid with
    | none => rfl
    | some time =>
        cases previous b.pid with
        | none => rfl
        | some other =>
            change acc.1 + _ + _ = acc.1 + _ + _
            rw [UInt64.add_assoc, UInt64.add_assoc,
              UInt64.add_comm (Saturating.sub a.cpuTimeNs time)]
  · simp only [account]
    exact Function.update_comm h _ _ _

theorem usagePercent_perm (tracker : CpuTracker) {samples samples' : List ProcessSample}
    (hperm : samples.Perm samples') (h : (samples.map (·.pid)).Nodup) (now : ℕ) :
    tracker.usagePercent samples now = tracker.usagePercent samples' now := by
  have hfold : samples.foldl (account tracker.previous) (0, fun _ => none) =
      samples'.foldl (account tracker.previous) (0, fun _ => none) := by
    refine hperm.foldl_eq' (fun a ha b hb acc => ?_) _
    by_cases heq : a = b
    · rw [heq]
    · exact account_right_comm tracker.previous acc fun hpid =>
        heq (List.inj_on_of_nodup_map h ha hb hpid)
  simp only [usagePercent, hfold]

/-! ## A sequence of ticks -/

def after (tracker : CpuTracker) (ticks : List Tick) : CpuTracker :=
  ticks.foldl (fun tracker tick => (tracker.usagePercent tick.samples tick.now).1) tracker

theorem usages_cons (tracker : CpuTracker) (tick : Tick) (ticks : List Tick) :
    usages tracker (tick :: ticks) = (tracker.usagePercent tick.samples tick.now).2 ::
      usages (tracker.usagePercent tick.samples tick.now).1 ticks := rfl

theorem usages_getElem? (tracker : CpuTracker) (ticks : List Tick) (k : ℕ) :
    (usages tracker ticks)[k]? = ticks[k]?.map fun tick =>
      ((tracker.after (ticks.take k)).usagePercent tick.samples tick.now).2 := by
  induction ticks generalizing tracker k with
  | nil => simp [usages]
  | cons tick ticks ih =>
      cases k with
      | zero => rfl
      | succ k =>
          rw [usages_cons, List.getElem?_cons_succ, ih, List.getElem?_cons_succ,
            List.take_succ_cons]
          rfl

theorem length_usages (tracker : CpuTracker) (ticks : List Tick) :
    (usages tracker ticks).length = ticks.length := by
  induction ticks generalizing tracker with
  | nil => rfl
  | cons tick ticks ih => rw [usages_cons, List.length_cons, ih, List.length_cons]

/-- After a tick the tracker knows the times that it showed, and when it was. -/
theorem after_take_succ {ticks : List Tick} {k : ℕ} {tick : Tick} (htick : ticks[k]? = some tick)
    (h : (tick.samples.map (·.pid)).Nodup) :
    (new.after (ticks.take (k + 1))).previous = tick.cpuTime ∧
      (new.after (ticks.take (k + 1))).sampledAt = some tick.now := by
  have htake : new.after (ticks.take (k + 1)) =
      ((new.after (ticks.take k)).usagePercent tick.samples tick.now).1 := by
    rw [after, List.take_add_one, htick, List.foldl_append]
    rfl
  rw [htake]
  refine ⟨funext fun pid => ?_, rfl⟩
  exact (foldl_account_snd _ _ h pid).trans (Option.or_none)

end CpuTracker

section Ticks

variable {ticks : List Tick} {k : ℕ} {tick : Tick}

/-- A sample is what is shown of its process, if the processes are distinct. -/
theorem cpuTimeAt_of_mem (htick : ticks[k]? = some tick) (h : (tick.samples.map (·.pid)).Nodup)
    {sample : ProcessSample} (hsample : sample ∈ tick.samples) :
    cpuTimeAt ticks sample.pid k = some sample.cpuTimeNs := by
  rw [cpuTimeAt_of_getElem? htick, Tick.cpuTime, Option.map_eq_some_iff]
  obtain ⟨found, hfound⟩ := Option.isSome_iff_exists.mp
    (List.find?_isSome.mpr ⟨sample, hsample, decide_eq_true rfl⟩ :
      (tick.samples.find? fun other => other.pid = sample.pid).isSome = true)
  refine ⟨found, hfound, congrArg _ ?_⟩
  have hsame := List.find?_some hfound
  exact List.inj_on_of_nodup_map h (List.mem_of_find?_eq_some hfound) hsample
    (of_decide_eq_true hsame)

/-- What the samples of a tick add is what their processes have used since the tick before. -/
theorem sum_gain_zero (samples : List ProcessSample) :
    (samples.map (CpuTracker.gain CpuTracker.new.previous)).sum = used ticks 0 := by
  rw [used, List.sum_eq_zero]
  intro n hn
  obtain ⟨sample, -, rfl⟩ := List.mem_map.mp hn
  rfl

theorem sum_gain_succ {before : Tick} (hbefore : ticks[k]? = some before)
    (htick : ticks[k + 1]? = some tick) (h : (tick.samples.map (·.pid)).Nodup) :
    (tick.samples.map (CpuTracker.gain before.cpuTime)).sum = used ticks (k + 1) := by
  have hgain : ∀ sample ∈ tick.samples, CpuTracker.gain before.cpuTime sample =
      if ShownAt ticks sample.pid k ∧ ShownAt ticks sample.pid (k + 1) then
        cpuNsAt ticks sample.pid (k + 1) - cpuNsAt ticks sample.pid k else 0 := by
    intro sample hsample
    have hnow := cpuTimeAt_of_mem htick h hsample
    simp only [ShownAt, cpuNsAt, hnow, cpuTimeAt_of_getElem? hbefore, CpuTracker.gain]
    cases before.cpuTime sample.pid with
    | none => rfl
    | some time => rfl
  rw [List.map_congr_left hgain, used, Finset.sum_filter]
  have hmap : (tick.samples.map fun sample =>
      if ShownAt ticks sample.pid k ∧ ShownAt ticks sample.pid (k + 1) then
        cpuNsAt ticks sample.pid (k + 1) - cpuNsAt ticks sample.pid k else 0) =
      (tick.samples.map (·.pid)).map fun pid =>
        if ShownAt ticks pid k ∧ ShownAt ticks pid (k + 1) then
          cpuNsAt ticks pid (k + 1) - cpuNsAt ticks pid k else 0 := by
    rw [List.map_map]
    rfl
  rw [hmap, ← List.sum_toFinset _ h]
  refine Finset.sum_subset ?_ ?_
  · intro pid hpid
    obtain ⟨sample, hsample, rfl⟩ := List.mem_map.mp (List.mem_toFinset.mp hpid)
    exact mem_pids_of_mem htick hsample
  · intro pid _ hpid
    exact if_neg fun hshown => hpid ((shownAt_iff htick pid).mp hshown.2)

/-- The busy time of a tick and the time that has passed, before they are cut to 64 bits. -/
theorem usagePercent_at (h : Steady ticks) (htick : ticks[k]? = some tick) :
    ∃ usage, (CpuTracker.usages CpuTracker.new ticks)[k]? = some usage ∧
      usage.busyNs.toNat = used ticks k % 2 ^ 64 ∧
      usage.percent = if 0 < elapsedAt ticks k then
        UInt64.ofNat (usage.busyNs.toNat * 100 / elapsedAt ticks k) else 0 := by
  have hdistinct := h.distinct tick (List.mem_of_getElem? htick)
  refine ⟨_, by rw [CpuTracker.usages_getElem?, htick, Option.map_some], ?_⟩
  cases k with
  | zero =>
      refine ⟨?_, rfl⟩
      refine (CpuTracker.toNat_foldl_account_fst _ _ _).trans ?_
      rw [List.take_zero]
      change (0 + _) % _ = _
      rw [Nat.zero_add]
      exact congrArg (· % _) (sum_gain_zero tick.samples)
  | succ k =>
      obtain ⟨before, hbefore⟩ : ∃ before, ticks[k]? = some before := by
        have hlt := (List.getElem?_eq_some_iff.mp htick).1
        exact ⟨_, List.getElem?_eq_getElem (Nat.lt_of_succ_lt hlt)⟩
      obtain ⟨hprevious, hsampled⟩ := CpuTracker.after_take_succ hbefore
        (h.distinct before (List.mem_of_getElem? hbefore))
      constructor
      · refine (CpuTracker.toNat_foldl_account_fst _ _ _).trans ?_
        rw [hprevious, sum_gain_succ hbefore htick hdistinct]
        change (0 + _) % _ = _
        rw [Nat.zero_add]
      · simp only [CpuTracker.usagePercent, CpuTracker.percentOf, hsampled, Option.map_some,
          elapsedAt, htick, hbefore, Option.getD_some]

theorem map_busyNs_usages (h : Steady ticks) :
    (CpuTracker.usages CpuTracker.new ticks).map (·.busyNs.toNat) =
      (List.range ticks.length).map fun k => used ticks k % 2 ^ 64 := by
  apply List.ext_getElem?
  intro k
  rw [List.getElem?_map, List.getElem?_map]
  rcases Nat.lt_or_ge k ticks.length with hlt | hge
  · obtain ⟨usage, husage, hbusy, -⟩ := usagePercent_at h (List.getElem?_eq_getElem hlt)
    rw [husage, List.getElem?_range hlt, Option.map_some, Option.map_some, hbusy]
  · rw [List.getElem?_eq_none (by rwa [CpuTracker.length_usages]),
      List.getElem?_eq_none (by rwa [List.length_range])]
    rfl

theorem sum_busyNs_usages (h : Steady ticks) :
    ((CpuTracker.usages CpuTracker.new ticks).map (·.busyNs.toNat)).sum =
      ∑ k ∈ Finset.range ticks.length, used ticks k % 2 ^ 64 := by
  rw [map_busyNs_usages h]
  rfl

theorem used_length : used ticks ticks.length = 0 := by
  cases hlength : ticks.length with
  | zero => rfl
  | succ n =>
      refine Finset.sum_eq_zero fun pid hpid => ?_
      have hlt := lt_length_of_shownAt (Finset.mem_filter.mp hpid).2.2
      omega

/-- What the processes use from tick to tick is what each uses over its maximal runs. -/
theorem sum_used (h : Steady ticks) :
    ∑ k ∈ Finset.range ticks.length, used ticks k =
      ∑ pid ∈ pids ticks, ∑ r ∈ Runs.maximalRuns (ShownAt ticks pid) ticks.length,
        (cpuNsAt ticks pid r.2 - cpuNsAt ticks pid r.1) := by
  have hshift : ∑ k ∈ Finset.range ticks.length, used ticks k =
      ∑ k ∈ Finset.range ticks.length, used ticks (k + 1) := by
    have hfirst := Finset.sum_range_succ' (used ticks) ticks.length
    have hlast := Finset.sum_range_succ (used ticks) ticks.length
    rw [used_length] at hlast
    rw [used] at hfirst
    omega
  have hswap : ∑ k ∈ Finset.range ticks.length, used ticks (k + 1) =
      ∑ pid ∈ pids ticks,
        ∑ k ∈ Finset.range ticks.length with ShownAt ticks pid k ∧ ShownAt ticks pid (k + 1),
          (cpuNsAt ticks pid (k + 1) - cpuNsAt ticks pid k) := by
    simp only [used, Finset.sum_filter]
    exact Finset.sum_comm
  rw [hshift, hswap]
  refine Finset.sum_congr rfl fun pid _ => ?_
  exact Runs.sum_maximalRuns_sub (fun _ => lt_length_of_shownAt) (h.grows pid)

end Ticks

/-! ## The account is right -/

/-- The same samples at the same moments, in another order. -/
def Reordered (ticks ticks' : List Tick) : Prop :=
  List.Forall₂ (fun tick tick' => tick.samples.Perm tick'.samples ∧ tick.now = tick'.now)
    ticks ticks'

/-- The busy times of the ticks sum up to what each process has used over the maximal runs of
ticks that show it, they do not depend on the order of the samples, and the percentage is the
busy time's share of the time that has passed. -/
structure Telescopes (ticks : List Tick) : Prop where
  total : ((CpuTracker.usages CpuTracker.new ticks).map (·.busyNs.toNat)).sum =
    ∑ pid ∈ pids ticks, ∑ r ∈ Runs.maximalRuns (ShownAt ticks pid) ticks.length,
      (cpuNsAt ticks pid r.2 - cpuNsAt ticks pid r.1)
  order : ∀ ticks', Reordered ticks ticks' →
    CpuTracker.usages CpuTracker.new ticks' = CpuTracker.usages CpuTracker.new ticks
  percent : ∀ k usage, (CpuTracker.usages CpuTracker.new ticks)[k]? = some usage →
    usage.percent.toNat =
      if 0 < elapsedAt ticks k then 100 * usage.busyNs.toNat / elapsedAt ticks k else 0

/-- What is used from any tick to the next has 64 bits, and so has the percentage. -/
def Fits (ticks : List Tick) : Prop :=
  ∀ k < ticks.length, used ticks k < 2 ^ 64 ∧
    (0 < elapsedAt ticks k → 100 * used ticks k / elapsedAt ticks k < 2 ^ 64)

instance decidableFits (ticks : List Tick) : Decidable (Fits ticks) :=
  inferInstanceAs (Decidable (∀ k < ticks.length, used ticks k < 2 ^ 64 ∧
    (0 < elapsedAt ticks k → 100 * used ticks k / elapsedAt ticks k < 2 ^ 64)))

theorem usages_of_reordered {ticks ticks' : List Tick} (hre : Reordered ticks ticks')
    (h : ∀ tick ∈ ticks, (tick.samples.map (·.pid)).Nodup) (tracker : CpuTracker) :
    CpuTracker.usages tracker ticks' = CpuTracker.usages tracker ticks := by
  induction hre generalizing tracker with
  | nil => rfl
  | cons hstep _ ih =>
      obtain ⟨hperm, hnow⟩ := hstep
      have hfirst := tracker.usagePercent_perm hperm (h _ List.mem_cons_self)
      rw [CpuTracker.usages_cons, CpuTracker.usages_cons, ← hnow, ← hfirst,
        ih fun tick htick => h tick (List.mem_cons_of_mem _ htick)]

theorem sum_busyNs_eq_iff {ticks : List Tick} (h : Steady ticks) :
    ((CpuTracker.usages CpuTracker.new ticks).map (·.busyNs.toNat)).sum =
        ∑ pid ∈ pids ticks, ∑ r ∈ Runs.maximalRuns (ShownAt ticks pid) ticks.length,
          (cpuNsAt ticks pid r.2 - cpuNsAt ticks pid r.1) ↔
      ∀ k < ticks.length, used ticks k < 2 ^ 64 := by
  rw [sum_busyNs_usages h, ← sum_used h,
    Finset.sum_eq_sum_iff_of_le fun k _ => Nat.mod_le (used ticks k) (2 ^ 64)]
  refine forall_congr' fun k => ?_
  rw [Finset.mem_range, Nat.mod_eq_iff_lt (by decide)]

theorem toNat_percent_eq_iff (busyNs : UInt64) (elapsedNs : ℕ) :
    (if 0 < elapsedNs then UInt64.ofNat (busyNs.toNat * 100 / elapsedNs) else 0).toNat =
        (if 0 < elapsedNs then 100 * busyNs.toNat / elapsedNs else 0) ↔
      (0 < elapsedNs → 100 * busyNs.toNat / elapsedNs < 2 ^ 64) := by
  split
  next hpos =>
    rw [UInt64.toNat_ofNat', Nat.mul_comm, Nat.mod_eq_iff_lt (by decide)]
    exact (imp_iff_right hpos).symm
  next hzero => exact iff_of_true rfl fun hpos => absurd hpos hzero

/-- The account of a steady sequence of ticks is right exactly if what it comes to has room
in 64 bits. -/
theorem telescopes_iff_fits {ticks : List Tick} (h : Steady ticks) :
    Telescopes ticks ↔ Fits ticks := by
  constructor
  · intro htelescopes k hk
    have hused := (sum_busyNs_eq_iff h).mp htelescopes.total k hk
    obtain ⟨usage, husage, hbusy, hpercent⟩ := usagePercent_at h (List.getElem?_eq_getElem hk)
    rw [Nat.mod_eq_of_lt hused] at hbusy
    have hright := htelescopes.percent k usage husage
    rw [hpercent, toNat_percent_eq_iff, hbusy] at hright
    exact ⟨hused, hright⟩
  · intro hfits
    refine ⟨(sum_busyNs_eq_iff h).mpr fun k hk => (hfits k hk).1,
      fun ticks' hre => usages_of_reordered hre h.distinct CpuTracker.new, ?_⟩
    intro k usage husage
    have hk : k < ticks.length := by
      rw [← CpuTracker.length_usages CpuTracker.new ticks]
      exact (List.getElem?_eq_some_iff.mp husage).1
    obtain ⟨usage', husage', hbusy, hpercent⟩ := usagePercent_at h (List.getElem?_eq_getElem hk)
    obtain rfl : usage = usage' := Option.some.inj (husage.symm.trans husage')
    rw [Nat.mod_eq_of_lt (hfits k hk).1] at hbusy
    rw [hpercent, toNat_percent_eq_iff, hbusy]
    exact (hfits k hk).2

def cpuSample (pid : UInt32) (cpuTimeNs : UInt64) : ProcessSample where
  pid := pid
  cpuTimeNs := cpuTimeNs
  memoryBytes := 0
  threadCount := 1

/-- Process 1 stays, and process 2 is not there in the middle. -/
def absence : List Tick :=
  [{ samples := [cpuSample 1 0, cpuSample 2 5], now := 0 },
    { samples := [cpuSample 1 400000000], now := 1000000000 },
    { samples := [cpuSample 2 9000000000, cpuSample 1 900000000], now := 2000000000 },
    { samples := [cpuSample 1 900000000, cpuSample 2 9500000000], now := 3000000000 }]

theorem telescopes_absence : Steady absence ∧ Fits absence ∧ Telescopes absence :=
  have hsteady : Steady absence := by decide
  have hfits : Fits absence := by decide
  ⟨hsteady, hfits, (telescopes_iff_fits hsteady).mpr hfits⟩

example : (CpuTracker.usages CpuTracker.new absence).map (·.percent) = [0, 40, 50, 50] := by
  decide

/-- Two processes together use more than a number of 64 bits has room for. -/
def excess : List Tick :=
  [{ samples := [cpuSample 1 0, cpuSample 2 0], now := 0 },
    { samples := [cpuSample 1 18446744073709551615, cpuSample 2 1], now := 1000000000 }]

theorem not_telescopes_excess : Steady excess ∧ ¬ Telescopes excess := by
  have hsteady : Steady excess := by decide
  refine ⟨hsteady, fun htelescopes => ?_⟩
  have hused := (sum_busyNs_eq_iff hsteady).mp htelescopes.total 1 (by decide)
  revert hused
  decide

end Resources

end Kallichore
