import Mathlib.Tactic.Common

/-!
# Computations that may fail or panic

An `Outcome ε α` is what a call into checked code gives back: a value, an error
the caller can handle, or a panic, which no caller sees. Sequencing stops at
the first error or panic, and the two `bind` lemmas say what a sequence that
succeeds, or one that does not panic, tells about its parts.
-/

universe u v

/-- The result of a computation with errors `ε` that may also panic. -/
inductive Outcome (ε : Type u) (α : Type v)
  | ok (value : α)
  | err (error : ε)
  | panic

namespace Outcome

variable {ε : Type u} {α β : Type v}

/-- Continue with the value, or stop at the error or panic. -/
def bind (x : Outcome ε α) (f : α → Outcome ε β) : Outcome ε β :=
  match x with
  | ok a => f a
  | err e => err e
  | panic => panic

instance : Monad (Outcome ε) where
  pure := ok
  bind := bind

/-- A checked result as an outcome: it cannot panic. -/
def ofExcept : Except ε α → Outcome ε α
  | .ok a => ok a
  | .error e => err e

/-- `list[i]`, which panics out of range. -/
def index (xs : List α) (i : ℕ) : Outcome ε α :=
  match xs[i]? with
  | some a => ok a
  | none => panic

@[simp] theorem ok_bind (a : α) (f : α → Outcome ε β) :
    (ok a >>= f : Outcome ε β) = f a := rfl

theorem bind_eq_ok_iff {x : Outcome ε α} {f : α → Outcome ε β} {b : β} :
    x >>= f = ok b ↔ ∃ a, x = ok a ∧ f a = ok b := by
  change x.bind f = ok b ↔ _
  cases x <;> simp [bind]

theorem bind_eq_panic_iff {x : Outcome ε α} {f : α → Outcome ε β} :
    x >>= f = panic ↔ x = panic ∨ ∃ a, x = ok a ∧ f a = panic := by
  change x.bind f = panic ↔ _
  cases x <;> simp [bind]

@[simp] theorem ofExcept_eq_ok_iff {x : Except ε α} {a : α} :
    ofExcept x = ok a ↔ x = .ok a := by
  cases x <;> simp [ofExcept]

@[simp] theorem ofExcept_ne_panic (x : Except ε α) : ofExcept x ≠ panic := by
  cases x <;> simp [ofExcept]

theorem index_eq_ok_iff {xs : List α} {i : ℕ} {a : α} :
    (index xs i : Outcome ε α) = ok a ↔ xs[i]? = some a := by
  unfold index
  cases xs[i]? <;> simp

theorem index_eq_panic_iff {xs : List α} {i : ℕ} :
    (index xs i : Outcome ε α) = panic ↔ xs.length ≤ i := by
  rw [← List.getElem?_eq_none_iff]
  unfold index
  cases xs[i]? <;> simp

end Outcome
