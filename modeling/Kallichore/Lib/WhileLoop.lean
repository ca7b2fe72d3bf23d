import Mathlib.Tactic.Common

/-!
# Loops that need not end

A turn of a loop either goes on with another state or ends with a result. The loop is run
with a bound on the number of its turns, and has no result if the bound is too small; what
a loop returns is what every large enough bound gives. `returns_of_wellFounded` is the rule
for loops that do end: an invariant, and an order in which the turns descend.
-/

namespace WhileLoop

variable {σ ρ : Type*}

/-- The result of a loop that ends within so many turns. -/
def run (turn : σ → σ ⊕ ρ) : ℕ → σ → Option ρ
  | 0, _ => none
  | n + 1, s =>
      match turn s with
      | .inl t => run turn n t
      | .inr result => some result

def Returns (turn : σ → σ ⊕ ρ) (s : σ) (result : ρ) : Prop :=
  ∃ n, ∀ m, n ≤ m → run turn m s = some result

variable {turn : σ → σ ⊕ ρ}

theorem run_succ_of_inl {s t : σ} (h : turn s = .inl t) (n : ℕ) :
    run turn (n + 1) s = run turn n t := by
  rw [run, h]

theorem run_succ_of_inr {s : σ} {result : ρ} (h : turn s = .inr result) (n : ℕ) :
    run turn (n + 1) s = some result := by
  rw [run, h]

theorem returns_of_inr {s : σ} {result : ρ} (h : turn s = .inr result) :
    Returns turn s result := by
  refine ⟨1, fun m hm => ?_⟩
  obtain ⟨m, rfl⟩ := Nat.exists_eq_add_of_le' hm
  exact run_succ_of_inr h m

theorem returns_of_inl {s t : σ} {result : ρ} (h : turn s = .inl t)
    (ht : Returns turn t result) : Returns turn s result := by
  obtain ⟨n, hn⟩ := ht
  refine ⟨n + 1, fun m hm => ?_⟩
  obtain ⟨m, rfl⟩ := Nat.exists_eq_add_of_le' (Nat.le_of_add_left_le hm)
  rw [run_succ_of_inl h, hn m (by omega)]

theorem returns_of_run {s : σ} {result : ρ} {n : ℕ} (h : run turn n s = some result) :
    Returns turn s result := by
  induction n generalizing s with
  | zero => cases h
  | succ n ih =>
      cases hturn : turn s with
      | inl t =>
          rw [run_succ_of_inl hturn] at h
          exact returns_of_inl hturn (ih h)
      | inr last =>
          rw [run_succ_of_inr hturn] at h
          exact Option.some.inj h ▸ returns_of_inr hturn

theorem Returns.unique {s : σ} {a b : ρ} (ha : Returns turn s a) (hb : Returns turn s b) :
    a = b := by
  obtain ⟨n, hn⟩ := ha
  obtain ⟨m, hm⟩ := hb
  have hsame := (hn (max n m) (Nat.le_max_left n m)).symm.trans (hm _ (Nat.le_max_right n m))
  exact Option.some.inj hsame

/-- A loop whose turns keep an invariant and descend in a well-founded order ends, and what
the invariant gives at its last turn holds of the result. -/
theorem returns_of_wellFounded {I : σ → Prop} {P : ρ → Prop} {r : σ → σ → Prop}
    (hr : WellFounded r) (hon : ∀ s t, I s → turn s = .inl t → I t ∧ r t s)
    (hend : ∀ s result, I s → turn s = .inr result → P result) {s : σ} (hs : I s) :
    ∃ result, Returns turn s result ∧ P result := by
  induction s using hr.induction with
  | _ s ih =>
      cases hturn : turn s with
      | inl t =>
          obtain ⟨ht, hlt⟩ := hon s t hs hturn
          obtain ⟨result, hreturns, hresult⟩ := ih t hlt ht
          exact ⟨result, returns_of_inl hturn hreturns, hresult⟩
      | inr result => exact ⟨result, returns_of_inr hturn, hend s result hs hturn⟩

end WhileLoop
