import Mathlib.Data.List.Basic

/-!
# What remains of a list

`Remains gone old kept` says that `kept` is what is left of `old`, in its order,
and that `gone` accounts for every entry that is not. Unlike a sublist together
with a statement about the missing elements, it also accounts for an entry that
occurs more than once.
-/

/-- `kept` is left of `old`, and `gone` holds of each entry that is not. -/
inductive Remains {α : Type*} (gone : α → Prop) : List α → List α → Prop
  | nil : Remains gone [] []
  | keep (entry : α) {old kept : List α} (h : Remains gone old kept) :
      Remains gone (entry :: old) (entry :: kept)
  | drop {entry : α} {old kept : List α} (hgone : gone entry)
      (h : Remains gone old kept) : Remains gone (entry :: old) kept

namespace Remains

variable {α : Type*} {gone gone' : α → Prop}

theorem refl (old : List α) : Remains gone old old := by
  induction old with
  | nil => exact .nil
  | cons entry old ih => exact ih.keep entry

theorem nil_of_forall {old : List α} (h : ∀ entry ∈ old, gone entry) :
    Remains gone old [] := by
  induction old with
  | nil => exact .nil
  | cons entry old ih =>
      rw [List.forall_mem_cons] at h
      exact (ih h.2).drop h.1

theorem filter {p : α → Bool} {old : List α}
    (h : ∀ entry ∈ old, p entry = false → gone entry) : Remains gone old (old.filter p) := by
  induction old with
  | nil => exact .nil
  | cons entry old ih =>
      rw [List.forall_mem_cons] at h
      cases hp : p entry with
      | true =>
          rw [List.filter_cons_of_pos hp]
          exact (ih h.2).keep entry
      | false =>
          rw [List.filter_cons_of_neg (by simp [hp])]
          exact (ih h.2).drop (h.1 hp)

theorem mono (himp : ∀ entry, gone entry → gone' entry) {old kept : List α}
    (h : Remains gone old kept) : Remains gone' old kept := by
  induction h with
  | nil => exact .nil
  | keep entry _ ih => exact ih.keep entry
  | drop hgone _ ih => exact ih.drop (himp _ hgone)

theorem trans {old kept left : List α} (h : Remains gone old kept)
    (h' : Remains gone kept left) : Remains gone old left := by
  induction h generalizing left with
  | nil => exact h'
  | keep entry _ ih =>
      cases h' with
      | keep _ hrest => exact (ih hrest).keep entry
      | drop hgone hrest => exact (ih hrest).drop hgone
  | drop hgone _ ih => exact (ih h').drop hgone

theorem append_inv {old new left : List α} (h : Remains gone (old ++ new) left) :
    ∃ kept rest, left = kept ++ rest ∧ Remains gone old kept := by
  induction old generalizing left with
  | nil => exact ⟨[], left, rfl, .nil⟩
  | cons entry old ih =>
      cases h with
      | keep _ hrest =>
          obtain ⟨kept, rest, rfl, hkept⟩ := ih hrest
          exact ⟨entry :: kept, rest, rfl, hkept.keep entry⟩
      | drop hgone hrest =>
          obtain ⟨kept, rest, rfl, hkept⟩ := ih hrest
          exact ⟨kept, rest, rfl, hkept.drop hgone⟩

end Remains
