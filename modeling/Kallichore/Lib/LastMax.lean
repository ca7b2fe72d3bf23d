import Mathlib.Data.List.Basic
import Mathlib.Tactic.Common

/-!
# The last maximum of a list

`lastMax key` picks an element with the largest key, and among several of them
the last one. `exists_append_of_lastMax` describes it by its place in the list:
what comes before has a key at most as large, what comes after a smaller one.
-/

variable {α : Type*}

/-- The last of the elements with the largest key. -/
def lastMax (key : α → ℕ) : List α → Option α
  | [] => none
  | a :: as =>
      match lastMax key as with
      | none => some a
      | some b => if key a ≤ key b then some b else some a

variable {key : α → ℕ}

@[simp] theorem lastMax_nil : lastMax key [] = none := rfl

theorem lastMax_cons_none {a : α} {as : List α} (h : lastMax key as = none) :
    lastMax key (a :: as) = some a := by
  simp [lastMax, h]

theorem lastMax_cons_some {a b : α} {as : List α} (h : lastMax key as = some b) :
    lastMax key (a :: as) = if key a ≤ key b then some b else some a := by
  simp [lastMax, h]

theorem lastMax_eq_none_iff {as : List α} : lastMax key as = none ↔ as = [] := by
  cases as with
  | nil => simp
  | cons a as =>
      cases h : lastMax key as with
      | none => simp [lastMax_cons_none h]
      | some b =>
          rw [lastMax_cons_some h]
          split <;> simp

theorem exists_append_of_lastMax {as : List α} {m : α} (h : lastMax key as = some m) :
    ∃ before after, as = before ++ m :: after ∧ (∀ a ∈ before, key a ≤ key m) ∧
      ∀ a ∈ after, key a < key m := by
  induction as generalizing m with
  | nil => cases h
  | cons a as ih =>
      cases hrest : lastMax key as with
      | none =>
          rw [lastMax_cons_none hrest] at h
          cases h
          rw [lastMax_eq_none_iff.mp hrest]
          exact ⟨[], [], by simp⟩
      | some b =>
          obtain ⟨before, after, rfl, hbefore, hafter⟩ := ih hrest
          rw [lastMax_cons_some hrest] at h
          split at h
          · cases h
            refine ⟨a :: before, after, rfl, ?_, hafter⟩
            intro c hc
            obtain rfl | hc := List.mem_cons.mp hc
            · assumption
            · exact hbefore c hc
          · cases h
            refine ⟨[], before ++ b :: after, rfl, by simp, ?_⟩
            intro c hc
            obtain hc | hc := List.mem_append.mp hc
            · have := hbefore c hc
              omega
            · obtain rfl | hc := List.mem_cons.mp hc
              · omega
              · have := hafter c hc
                omega
