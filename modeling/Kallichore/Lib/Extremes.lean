import Mathlib.Data.List.ReduceOption
import Mathlib.Order.Bounds.Basic
import Mathlib.Order.MinMax

/-!
# Extremes of values that may be missing

A loop that keeps the least value met so far, skips those that are missing and begins with
none folds `Option.merge min`. What it ends with is the least value of all, if there is one,
and so it does not depend on their order. The greatest value is the least one of the dual
order.
-/

variable {α : Type*} [LinearOrder α]

theorem foldl_merge_min (values : List (Option α)) (first : Option α) :
    values.foldl (Option.merge min) first = first.merge min values.reduceOption.min? := by
  induction values generalizing first with
  | nil => simp
  | cons value values ih =>
      rw [List.foldl_cons, ih]
      cases value with
      | none => rw [Option.merge_none_right, List.reduceOption_cons_of_none]
      | some a =>
          have hcons : (a :: values.reduceOption).min? =
              (some a).merge min values.reduceOption.min? := by
            rw [List.min?_cons]
            cases values.reduceOption.min? with
            | none => rfl
            | some least => rfl
          rw [List.reduceOption_cons_of_some, hcons]
          exact Std.Associative.assoc _ _ _

theorem foldl_merge_min_eq_some_iff (values : List (Option α)) (a : α) :
    values.foldl (Option.merge min) none = some a ↔ IsLeast {b | some b ∈ values} a := by
  have : Std.LawfulOrderMin α :=
    { min_eq_or := min_choice, le_min_iff := fun b c d => le_min_iff }
  rw [foldl_merge_min, Option.merge_none_left, List.min?_eq_some_iff]
  simp only [List.reduceOption_mem_iff, IsLeast, lowerBounds, Set.mem_ofPred_eq]

theorem foldl_merge_min_eq_none_iff (values : List (Option α)) :
    values.foldl (Option.merge min) none = none ↔ ∀ a, some a ∉ values := by
  rw [foldl_merge_min, Option.merge_none_left, List.min?_eq_none_iff,
    List.eq_nil_iff_forall_not_mem]
  simp only [List.reduceOption_mem_iff]

theorem foldl_merge_max_eq_some_iff (values : List (Option α)) (a : α) :
    values.foldl (Option.merge max) none = some a ↔ IsGreatest {b | some b ∈ values} a :=
  @foldl_merge_min_eq_some_iff αᵒᵈ _ values a

theorem foldl_merge_max_eq_none_iff (values : List (Option α)) :
    values.foldl (Option.merge max) none = none ↔ ∀ a, some a ∉ values :=
  @foldl_merge_min_eq_none_iff αᵒᵈ _ values
