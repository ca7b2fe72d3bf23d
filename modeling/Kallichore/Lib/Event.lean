import Mathlib.Logic.Basic

/-!
# Listeners of an event

A notification of an event wakes the listeners that are registered at that
moment and nobody else: it is not remembered for those that register later. So
whoever waits for an event that is fired a limited number of times depends on
having registered before the last of them.

`Served fires` is that dependence as a condition on a listener: it was woken, or
something is left that will fire the event. `served_notify` says when a
notification that uses up what was left keeps it.
-/

/-- A task that waits for the next notification of an event, or is about to. -/
inductive Listener
  | unregistered
  | registered
  | notified
  deriving DecidableEq, Repr

namespace Listener

/-- What a notification does to a listener. -/
def notify : Listener → Listener
  | .registered => .notified
  | listener => listener

@[simp] theorem notify_registered : notify .registered = .notified := rfl

@[simp] theorem notify_unregistered : notify .unregistered = .unregistered := rfl

@[simp] theorem notify_notified : notify .notified = .notified := rfl

/-- The listener was woken, or something is left to fire the event. -/
def Served (fires : Prop) (listener : Listener) : Prop :=
  listener = .notified ∨ fires

/-- A notification serves every listener but those who have yet to register, and
those as well if something else is left. -/
theorem served_notify {fires : Prop} {listener : Listener}
    (hlate : listener = .unregistered → fires) : Served fires listener.notify := by
  cases listener with
  | unregistered => exact Or.inr (hlate rfl)
  | registered => exact Or.inl rfl
  | notified => exact Or.inl rfl

end Listener
