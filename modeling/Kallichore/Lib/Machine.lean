import Mathlib.Data.List.Basic
import Mathlib.Tactic.Common

/-!
# Step machines and their runs

A machine takes an action in a state or refuses it, so a run is a list of
actions folded through the step function. The step function is an ordinary
partial function: a machine can be executed on a concrete list of actions, and
its properties are proved once per action and carried along runs by
`run_invariant`.

`Meets C` restricts runs to those whose every action is taken from a state in
which `C` allows it. A safety property that only holds on well-behaved
schedules is an invariant relative to such a condition; `run_of_step` is for
those that hold on all of them.
-/

/-- A machine with states `σ` and actions `α`: it takes an action in a state,
or refuses it. -/
structure Machine (σ α : Type*) where
  step : σ → α → Option σ

namespace Machine

variable {σ α : Type*} (M : Machine σ α)

/-- The state after taking the listed actions in order; `none` as soon as one
of them is refused. -/
def run : σ → List α → Option σ
  | s, [] => some s
  | s, a :: as => (M.step s a).bind fun t => run t as

@[simp] theorem run_nil (s : σ) : M.run s [] = some s := rfl

theorem run_cons (s : σ) (a : α) (as : List α) :
    M.run s (a :: as) = (M.step s a).bind fun t => M.run t as := rfl

theorem run_cons_eq_some_iff (s t : σ) (a : α) (as : List α) :
    M.run s (a :: as) = some t ↔
      ∃ u, M.step s a = some u ∧ M.run u as = some t := by
  rw [run_cons, Option.bind_eq_some_iff]

theorem run_append_eq_some_iff (s t : σ) (as bs : List α) :
    M.run s (as ++ bs) = some t ↔ ∃ u, M.run s as = some u ∧ M.run u bs = some t := by
  induction as generalizing s with
  | nil => simp
  | cons a as ih =>
      rw [List.cons_append, run_cons_eq_some_iff]
      constructor
      · rintro ⟨v, hv, hrun⟩
        obtain ⟨u, hu, hrest⟩ := (ih v).mp hrun
        exact ⟨u, (M.run_cons_eq_some_iff s u a as).mpr ⟨v, hv, hu⟩, hrest⟩
      · rintro ⟨u, hu, hrest⟩
        obtain ⟨v, hv, hrun⟩ := (M.run_cons_eq_some_iff s u a as).mp hu
        exact ⟨v, hv, (ih v).mpr ⟨u, hrun, hrest⟩⟩

/-- Some run leads from the one state to the other. -/
def Reaches (s t : σ) : Prop := ∃ as, M.run s as = some t

theorem reaches_refl (s : σ) : M.Reaches s s := ⟨[], rfl⟩

theorem Reaches.head {s u t : σ} (a : α) (hu : M.step s a = some u) (h : M.Reaches u t) :
    M.Reaches s t := by
  obtain ⟨as, hrun⟩ := h
  exact ⟨a :: as, (M.run_cons_eq_some_iff s t a as).mpr ⟨u, hu, hrun⟩⟩

/-- Every action of the list is taken from a state in which `C` allows it. -/
def Meets (C : σ → α → Prop) : σ → List α → Prop
  | _, [] => True
  | s, a :: as => C s a ∧ ∀ t, M.step s a = some t → Meets C t as

theorem meets_cons (C : σ → α → Prop) (s : σ) (a : α) (as : List α) :
    M.Meets C s (a :: as) ↔
      C s a ∧ ∀ t, M.step s a = some t → M.Meets C t as := Iff.rfl

/-- A condition that can be decided in each state can be decided along a list of actions. -/
instance decidableMeets (C : σ → α → Prop) [∀ s a, Decidable (C s a)] :
    (s : σ) → (as : List α) → Decidable (M.Meets C s as)
  | _, [] => isTrue trivial
  | s, a :: as =>
      match h : M.step s a with
      | none => decidable_of_iff (C s a) (by simp [meets_cons, h])
      | some t =>
          haveI := decidableMeets C t as
          decidable_of_iff (C s a ∧ M.Meets C t as) (by simp [meets_cons, h])

theorem meets_iff_forall_append {C : σ → α → Prop} {s : σ} {acts : List α} :
    M.Meets C s acts ↔
      ∀ as a bs u, acts = as ++ a :: bs → M.run s as = some u → C u a := by
  induction acts generalizing s with
  | nil => simp [Meets]
  | cons b acts ih =>
      rw [meets_cons]
      constructor
      · rintro ⟨hC, hrest⟩ as a bs u heq hrun
        cases as with
        | nil =>
            obtain ⟨rfl, -⟩ := List.cons.inj heq
            cases hrun
            exact hC
        | cons c as =>
            obtain ⟨rfl, htail⟩ := List.cons.inj heq
            obtain ⟨v, hv, hrun⟩ := (M.run_cons_eq_some_iff s u b as).mp hrun
            exact ih.mp (hrest v hv) as a bs u htail hrun
      · intro h
        refine ⟨h [] b acts s rfl rfl, fun v hv => ih.mpr ?_⟩
        intro as a bs u heq hrun
        apply h (b :: as) a bs u (by rw [heq, List.cons_append])
        exact (M.run_cons_eq_some_iff s u b as).mpr ⟨v, hv, hrun⟩

theorem meets_of_forall {C : σ → α → Prop} (s : σ) {as : List α}
    (h : ∀ a ∈ as, ∀ u, C u a) : M.Meets C s as := by
  rw [meets_iff_forall_append]
  rintro bs a cs u rfl -
  exact h a (by simp) u

theorem meets_append {C : σ → α → Prop} {s u : σ} {as bs : List α}
    (hu : M.run s as = some u) (has : M.Meets C s as) (hbs : M.Meets C u bs) :
    M.Meets C s (as ++ bs) := by
  induction as generalizing s with
  | nil =>
      cases hu
      exact hbs
  | cons a as ih =>
      obtain ⟨v, hv, hu⟩ := (M.run_cons_eq_some_iff s u a as).mp hu
      refine ⟨has.1, fun t ht => ?_⟩
      obtain rfl : v = t := Option.some.inj (hv.symm.trans ht)
      exact ih hu (has.2 v hv)

theorem Meets.segment {C : σ → α → Prop} {s u : σ} {as bs cs : List α}
    (h : M.Meets C s (as ++ bs ++ cs)) (hu : M.run s as = some u) : M.Meets C u bs := by
  rw [meets_iff_forall_append] at h ⊢
  intro ds a es w hbs hw
  apply h (as ++ ds) a (es ++ cs) w (by simp [hbs])
  exact (M.run_append_eq_some_iff s w as ds).mpr ⟨u, hu, hw⟩

/-- The condition holds along the beginning of a list along which it holds. -/
theorem Meets.of_append {C : σ → α → Prop} {s : σ} {as bs : List α}
    (h : M.Meets C s (as ++ bs)) : M.Meets C s as := by
  rw [meets_iff_forall_append] at h ⊢
  intro cs a ds u heq hu
  exact h cs a (ds ++ bs) u (by simp [heq]) hu

/-- `I` is preserved by every action that `C` allows. -/
def Preserves (C : σ → α → Prop) (I : σ → Prop) : Prop :=
  ∀ s a t, I s → C s a → M.step s a = some t → I t

/-- A predicate preserved by the allowed actions holds at the end of every run
made of allowed actions, so in every state such a run passes through. -/
theorem run_invariant {C : σ → α → Prop} {I : σ → Prop}
    (hstep : M.Preserves C I) {s t : σ} {as : List α}
    (hs : I s) (hmeets : M.Meets C s as) (hrun : M.run s as = some t) : I t := by
  induction as generalizing s with
  | nil =>
      cases hrun
      exact hs
  | cons a as ih =>
      obtain ⟨u, hu, hrun⟩ := (M.run_cons_eq_some_iff s t a as).mp hrun
      obtain ⟨hC, hrest⟩ := hmeets
      exact ih (hstep s a u hs hC hu) (hrest u hu) hrun

theorem run_of_step {I : σ → Prop} (hstep : ∀ s a t, I s → M.step s a = some t → I t)
    {s t : σ} {as : List α} (hs : I s) (hrun : M.run s as = some t) : I t :=
  M.run_invariant (fun u a v hu _ h => hstep u a v hu h) hs
    (M.meets_of_forall (C := fun _ _ => True) s fun _ _ _ => trivial) hrun

/-- Wherever a run of allowed actions takes one of them, a predicate that they
preserve holds. -/
theorem invariant_of_run {C : σ → α → Prop} {I : σ → Prop} (hstep : M.Preserves C I)
    {s t u : σ} {as bs : List α} {a : α} (hs : I s) (hmeets : M.Meets C s (as ++ a :: bs))
    (hrun : M.run s (as ++ a :: bs) = some t) (hu : M.run s as = some u) :
    I u ∧ C u a ∧ ∃ v, M.step u a = some v := by
  obtain ⟨u', hu', hrest⟩ := (M.run_append_eq_some_iff s t as (a :: bs)).mp hrun
  obtain rfl : u = u' := Option.some.inj (hu.symm.trans hu')
  obtain ⟨v, hv, -⟩ := (M.run_cons_eq_some_iff u t a bs).mp hrest
  refine ⟨M.run_invariant hstep hs (Meets.of_append M hmeets) hu, ?_, v, hv⟩
  exact M.meets_iff_forall_append.mp hmeets as a bs u rfl hu

/-- A predicate that follows from one that the allowed actions preserve, and that every other
action breaks, holds all along exactly the runs made of allowed actions. -/
theorem forall_prefix_iff_meets_of {C : σ → α → Prop} {I P : σ → Prop}
    (hstep : M.Preserves C I) (hI : ∀ s, I s → P s)
    (hback : ∀ s a t, P s → M.step s a = some t → P t → C s a) {s t : σ} {as : List α}
    (hs : I s) (hrun : M.run s as = some t) :
    (∀ bs cs u, as = bs ++ cs → M.run s bs = some u → P u) ↔ M.Meets C s as := by
  constructor
  · intro h
    rw [meets_iff_forall_append]
    intro bs a cs u heq hu
    rw [heq] at hrun
    obtain ⟨u', hu', hrest⟩ := (M.run_append_eq_some_iff s t bs (a :: cs)).mp hrun
    obtain rfl : u = u' := Option.some.inj (hu.symm.trans hu')
    obtain ⟨v, hv, -⟩ := (M.run_cons_eq_some_iff u t a cs).mp hrest
    refine hback u a v (h bs (a :: cs) u heq hu) hv (h (bs ++ [a]) cs v (by simp [heq]) ?_)
    refine (M.run_append_eq_some_iff s v bs [a]).mpr ⟨u, hu, ?_⟩
    exact (M.run_cons_eq_some_iff u v a []).mpr ⟨v, hv, rfl⟩
  · intro hmeets bs cs u heq hu
    rw [heq] at hmeets
    exact hI u (M.run_invariant hstep hs (Meets.of_append M hmeets) hu)

/-- A predicate that the allowed actions preserve and every other action breaks holds
all along exactly the runs made of allowed actions. -/
theorem forall_prefix_iff_meets {C : σ → α → Prop} {I : σ → Prop} (hstep : M.Preserves C I)
    (hback : ∀ s a t, I s → M.step s a = some t → I t → C s a) {s t : σ} {as : List α}
    (hs : I s) (hrun : M.run s as = some t) :
    (∀ bs cs u, as = bs ++ cs → M.run s bs = some u → I u) ↔ M.Meets C s as :=
  M.forall_prefix_iff_meets_of hstep (fun _ h => h) hback hs hrun

end Machine
