import Mathlib.Data.List.Induction
import Mathlib.Tactic.Common

/-!
# Logs of things opened and closed

An event of a log may open something, known by an identifier, or close it, or
do neither. `outstanding` lists the identifiers opened and not closed since. A
log is `Exclusive` when at each opening everything opened before had already
been closed; it stays exclusive when something is opened with nothing
outstanding.
-/

namespace Outstanding

variable {ε ι : Type*} (opens closes : ε → Option ι)

/-- Each opening of the log finds everything opened before it closed again. -/
def Exclusive (log : List ε) : Prop :=
  ∀ before event after i, log = before ++ event :: after → opens event = some i →
    ∀ start earlier between j, before = start ++ earlier :: between →
      opens earlier = some j → ∃ close ∈ between, closes close = some j

theorem exclusive_nil : Exclusive opens closes ([] : List ε) := by
  intro before event after i heq
  simp at heq

variable [DecidableEq ι]

/-- What is outstanding after one more event. -/
def track (ids : List ι) (event : ε) : List ι :=
  ids.filter (fun i => closes event ≠ some i) ++ (opens event).toList

/-- The identifiers opened in the log and not closed since. -/
def outstanding (log : List ε) : List ι := log.foldl (track opens closes) []

theorem outstanding_append (log : List ε) (event : ε) :
    outstanding opens closes (log ++ [event]) =
      track opens closes (outstanding opens closes log) event := by
  simp [outstanding]

/-- Events that neither open nor close anything leave everything as it was. -/
theorem outstanding_append_of_neutral {log events : List ε}
    (h : ∀ event ∈ events, opens event = none ∧ closes event = none) :
    outstanding opens closes (log ++ events) = outstanding opens closes log := by
  induction events generalizing log with
  | nil => simp
  | cons event events ih =>
      obtain ⟨hopens, hcloses⟩ := h event List.mem_cons_self
      have hassoc : log ++ event :: events = log ++ [event] ++ events := by simp
      rw [hassoc, ih fun e he => h e (List.mem_cons_of_mem _ he), outstanding_append, track,
        hopens, hcloses]
      simp

theorem mem_outstanding (start : List ε) {between : List ε} {event : ε} {i : ι}
    (hopen : opens event = some i) (hclose : ∀ close ∈ between, closes close ≠ some i) :
    i ∈ outstanding opens closes (start ++ event :: between) := by
  induction between using List.reverseRecOn with
  | nil =>
      rw [outstanding_append, track, hopen]
      simp
  | append_singleton between last ih =>
      have hassoc : start ++ event :: (between ++ [last]) =
          start ++ event :: between ++ [last] := by simp
      have hmem := ih fun close hmem => hclose close (by simp [hmem])
      rw [hassoc, outstanding_append, track, List.mem_append, List.mem_filter]
      exact Or.inl ⟨hmem, by simpa using hclose last (by simp)⟩

theorem Exclusive.append {log : List ε} (h : Exclusive opens closes log) {event : ε}
    (hopen : ∀ i, opens event = some i → outstanding opens closes log = []) :
    Exclusive opens closes (log ++ [event]) := by
  intro before e after i heq hi start earlier between j hbefore hj
  cases after using List.reverseRecOn with
  | nil =>
      -- The new event itself: with nothing outstanding, all before it is closed.
      obtain ⟨rfl, hlast⟩ := List.append_inj' heq rfl
      obtain rfl : event = e := by simpa using hlast
      by_contra hnone
      simp only [not_exists, not_and] at hnone
      have hmem := mem_outstanding opens closes start hj hnone
      rw [← hbefore, hopen i hi] at hmem
      cases hmem
  | append_singleton after last =>
      have hlog : log = before ++ e :: after := by
        have hassoc : before ++ e :: (after ++ [last]) = before ++ e :: after ++ [last] := by
          simp
        rw [hassoc] at heq
        exact (List.append_inj' heq rfl).1
      exact h before e after i hlog hi start earlier between j hbefore hj

theorem Exclusive.append_of_neutral {log events : List ε} (h : Exclusive opens closes log)
    (hneutral : ∀ event ∈ events, opens event = none) :
    Exclusive opens closes (log ++ events) := by
  induction events generalizing log with
  | nil => simpa using h
  | cons event events ih =>
      have hassoc : log ++ event :: events = log ++ [event] ++ events := by simp
      have hevent := hneutral event List.mem_cons_self
      rw [hassoc]
      refine ih (h.append opens closes ?_) fun e he => hneutral e (List.mem_cons_of_mem _ he)
      intro i hi
      rw [hevent] at hi
      cases hi

end Outstanding
