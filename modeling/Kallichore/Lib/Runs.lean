import Mathlib.Algebra.BigOperators.Intervals

/-!
# Maximal runs

The moments at which something is there fall into maximal runs of consecutive ones. A step
from a moment to the next, at both of which it is there, belongs to exactly one of them, so
a sum over such steps is a sum over the maximal runs.
-/

namespace Runs

open Finset

/-- It is there from the one moment to the other, and neither before nor after. -/
structure IsMaximalRun (p : ℕ → Prop) (first last : ℕ) : Prop where
  le : first ≤ last
  there : ∀ k, first ≤ k → k ≤ last → p k
  before : first = 0 ∨ ¬ p (first - 1)
  after : ¬ p (last + 1)

instance decidableIsMaximalRun (p : ℕ → Prop) [DecidablePred p] (first last : ℕ) :
    Decidable (IsMaximalRun p first last) :=
  decidable_of_iff (first ≤ last ∧ (∀ k, first ≤ k → k ≤ last → p k) ∧
      (first = 0 ∨ ¬ p (first - 1)) ∧ ¬ p (last + 1))
    ⟨fun h => ⟨h.1, h.2.1, h.2.2.1, h.2.2.2⟩, fun h => ⟨h.le, h.there, h.before, h.after⟩⟩

/-- The maximal runs among the first moments, each by its first and its last one. -/
def maximalRuns (p : ℕ → Prop) [DecidablePred p] (n : ℕ) : Finset (ℕ × ℕ) :=
  (range n ×ˢ range n).filter fun r => IsMaximalRun p r.1 r.2

section Moments

variable {p : ℕ → Prop}

theorem IsMaximalRun.first_le {i j i' j' k : ℕ} (h : IsMaximalRun p i j)
    (h' : IsMaximalRun p i' j') (hk : i ≤ k) (hk' : k ≤ j') : i ≤ i' := by
  by_contra hlt
  rcases h.before with hzero | hbefore
  · omega
  · exact hbefore (h'.there (i - 1) (by omega) (by omega))

theorem IsMaximalRun.le_last {i j i' j' k : ℕ} (h : IsMaximalRun p i j)
    (h' : IsMaximalRun p i' j') (hk : k ≤ j) (hk' : i' ≤ k) : j' ≤ j := by
  by_contra hlt
  exact h.after (h'.there (j + 1) (by omega) (by omega))

theorem IsMaximalRun.eq_of_mem {r r' : ℕ × ℕ} {k : ℕ} (h : IsMaximalRun p r.1 r.2)
    (h' : IsMaximalRun p r'.1 r'.2) (hk : r.1 ≤ k ∧ k ≤ r.2) (hk' : r'.1 ≤ k ∧ k ≤ r'.2) :
    r = r' := by
  apply Prod.ext
  · exact Nat.le_antisymm (h.first_le h' hk.1 hk'.2) (h'.first_le h hk'.1 hk.2)
  · exact Nat.le_antisymm (h'.le_last h hk'.2 hk.1) (h.le_last h' hk.2 hk'.1)

theorem exists_first {k : ℕ} (hk : p k) :
    ∃ i ≤ k, (∀ m, i ≤ m → m ≤ k → p m) ∧ (i = 0 ∨ ¬ p (i - 1)) := by
  induction k with
  | zero =>
      refine ⟨0, Nat.le_refl 0, fun m _ hm => ?_, Or.inl rfl⟩
      rwa [Nat.le_zero.mp hm]
  | succ k ih =>
      by_cases hp : p k
      · obtain ⟨i, hi, hthere, hbefore⟩ := ih hp
        refine ⟨i, Nat.le_succ_of_le hi, fun m him hm => ?_, hbefore⟩
        rcases Nat.le_succ_iff.mp hm with hm | rfl
        · exact hthere m him hm
        · exact hk
      · refine ⟨k + 1, Nat.le_refl _, fun m hkm hm => ?_, Or.inr hp⟩
        rwa [Nat.le_antisymm hm hkm]

theorem exists_last {k n : ℕ} (hk : p k) (hn : ∀ m, p m → m < n) :
    ∃ j ≥ k, (∀ m, k ≤ m → m ≤ j → p m) ∧ ¬ p (j + 1) := by
  induction h : n - k generalizing k with
  | zero =>
      have := hn k hk
      omega
  | succ d ih =>
      by_cases hp : p (k + 1)
      · obtain ⟨j, hj, hthere, hafter⟩ := ih hp (by omega)
        refine ⟨j, by omega, fun m hkm hm => ?_, hafter⟩
        rcases Nat.eq_or_lt_of_le hkm with rfl | hkm
        · exact hk
        · exact hthere m hkm hm
      · refine ⟨k, Nat.le_refl k, fun m hkm hm => ?_, hp⟩
        rwa [Nat.le_antisymm hm hkm]

theorem exists_isMaximalRun {k n : ℕ} (hk : p k) (hn : ∀ m, p m → m < n) :
    ∃ r : ℕ × ℕ, IsMaximalRun p r.1 r.2 ∧ r.1 ≤ k ∧ k ≤ r.2 := by
  obtain ⟨i, hi, hfirst, hbefore⟩ := exists_first hk
  obtain ⟨j, hj, hlast, hafter⟩ := exists_last hk hn
  refine ⟨(i, j), ⟨hi.trans hj, fun m him hmj => ?_, hbefore, hafter⟩, hi, hj⟩
  rcases Nat.le_total m k with hmk | hkm
  · exact hfirst m him hmk
  · exact hlast m hkm hmj

end Moments

variable {p : ℕ → Prop} [DecidablePred p]

theorem mem_maximalRuns {n : ℕ} (hn : ∀ m, p m → m < n) {r : ℕ × ℕ} :
    r ∈ maximalRuns p n ↔ IsMaximalRun p r.1 r.2 := by
  rw [maximalRuns, mem_filter, mem_product, mem_range, mem_range, and_iff_right_iff_imp]
  intro h
  exact ⟨hn r.1 (h.there r.1 (Nat.le_refl _) h.le), hn r.2 (h.there r.2 h.le (Nat.le_refl _))⟩

theorem pairwiseDisjoint_maximalRuns (n : ℕ) :
    (maximalRuns p n : Set (ℕ × ℕ)).PairwiseDisjoint fun r => Ico r.1 r.2 := by
  intro r hr r' hr' hne
  refine Finset.disjoint_left.mpr fun k hk hk' => hne ?_
  rw [mem_Ico] at hk hk'
  exact (mem_filter.mp hr).2.eq_of_mem (mem_filter.mp hr').2 ⟨hk.1, hk.2.le⟩ ⟨hk'.1, hk'.2.le⟩

/-- The steps inside maximal runs are the steps from a moment to the next one, at both of
which it is there. -/
theorem biUnion_maximalRuns {n : ℕ} (hn : ∀ m, p m → m < n) :
    ((maximalRuns p n).biUnion fun r => Ico r.1 r.2) =
      (range n).filter fun k => p k ∧ p (k + 1) := by
  ext k
  rw [mem_biUnion, mem_filter, mem_range]
  constructor
  · rintro ⟨r, hr, hk⟩
    rw [mem_Ico] at hk
    have hrun := (mem_maximalRuns hn).mp hr
    have hpk := hrun.there k hk.1 hk.2.le
    exact ⟨hn k hpk, hpk, hrun.there (k + 1) (Nat.le_succ_of_le hk.1) hk.2⟩
  · rintro ⟨-, hpk, hnext⟩
    obtain ⟨r, hrun, hfirst, hlast⟩ := exists_isMaximalRun hpk hn
    refine ⟨r, (mem_maximalRuns hn).mpr hrun, mem_Ico.mpr ⟨hfirst, ?_⟩⟩
    refine Nat.lt_of_le_of_ne hlast fun heq => hrun.after ?_
    rwa [← heq]

theorem sum_maximalRuns {M : Type*} [AddCommMonoid M] {n : ℕ} (hn : ∀ m, p m → m < n)
    (g : ℕ → M) :
    ∑ r ∈ maximalRuns p n, ∑ k ∈ Ico r.1 r.2, g k =
      ∑ k ∈ (range n).filter (fun k => p k ∧ p (k + 1)), g k := by
  rw [← biUnion_maximalRuns hn, sum_biUnion (pairwiseDisjoint_maximalRuns n)]

/-- A quantity that grows along a run grows by its last value less its first. -/
theorem sum_Ico_sub_of_le {f : ℕ → ℕ} {i j : ℕ} (h : i ≤ j)
    (hf : ∀ k, i ≤ k → k < j → f k ≤ f (k + 1)) :
    f i ≤ f j ∧ ∑ k ∈ Ico i j, (f (k + 1) - f k) = f j - f i := by
  induction j, h using Nat.le_induction with
  | base => simp
  | succ j hij ih =>
      obtain ⟨hle, hsum⟩ := ih fun k hik hkj => hf k hik (Nat.lt_succ_of_lt hkj)
      have hstep := hf j hij (Nat.lt_succ_self j)
      rw [sum_Ico_succ_top hij, hsum]
      omega

/-- A quantity that grows wherever it is there grows in all, over the steps, by what it grows
over the maximal runs. -/
theorem sum_maximalRuns_sub {n : ℕ} (hn : ∀ m, p m → m < n) {f : ℕ → ℕ}
    (hf : ∀ k, p k → p (k + 1) → f k ≤ f (k + 1)) :
    ∑ k ∈ (range n).filter (fun k => p k ∧ p (k + 1)), (f (k + 1) - f k) =
      ∑ r ∈ maximalRuns p n, (f r.2 - f r.1) := by
  rw [← sum_maximalRuns hn]
  refine sum_congr rfl fun r hr => ?_
  have hrun := (mem_maximalRuns hn).mp hr
  refine (sum_Ico_sub_of_le hrun.le fun k hik hkj => hf k ?_ ?_).2
  · exact hrun.there k hik hkj.le
  · exact hrun.there (k + 1) (Nat.le_succ_of_le hik) hkj

end Runs
