import Kallichore.Lib.WhileLoop
import Mathlib.Data.Finset.Card
import Mathlib.Data.Set.Card
import Mathlib.Logic.Relation

/-!
# The processes of a session

A session's process tree is walked with a stack of processes that are yet to be visited. A
process is put onto the stack once for every process that has it among its children, also
twice by one, and is dropped when it comes up and was visited already. The walk is given up
when as many processes were visited as are tracked at all. That is looked at before it is
known whether the process that comes up is a new one, so a walk that is given up may have
visited everything.

Nothing is assumed of the children here: they may have been reparented into a cycle while
they were read, and there may be no end to them.
-/

namespace Kallichore

namespace Resources

variable {Pid : Type*}

/-- Ceiling on how many processes are tracked per session. -/
def maxTrackedProcesses : ℕ := 4096

/-- Where the walk is: `to_visit` is read from its end, which comes first here. -/
structure Walk (Pid : Type*) where
  visited : Finset Pid
  toVisit : List Pid

/-- A turn of the loop of `get_process_tree`. -/
def Walk.turn [DecidableEq Pid] (childPids : Pid → List Pid) (w : Walk Pid) :
    Walk Pid ⊕ Finset Pid :=
  match w.toVisit with
  | [] => .inr w.visited
  | pid :: toVisit =>
      if maxTrackedProcesses ≤ w.visited.card then .inr w.visited
      else if pid ∈ w.visited then .inl { w with toVisit }
      else
        let visited := insert pid w.visited
        .inl { visited, toVisit := ((childPids pid).filter (· ∉ visited)).reverse ++ toVisit }

/-- `get_process_tree`, given so many turns of its loop. -/
def getProcessTree [DecidableEq Pid] (childPids : Pid → List Pid) (rootPid : Pid) (turns : ℕ) :
    Option (Finset Pid) :=
  WhileLoop.run (Walk.turn childPids) turns { visited := ∅, toVisit := [rootPid] }

def descendants (childPids : Pid → List Pid) (rootPid : Pid) : Set Pid :=
  {pid | Relation.ReflTransGen (fun parent child => child ∈ childPids parent) rootPid pid}

section Descendants

variable (childPids : Pid → List Pid)

theorem root_mem_descendants (rootPid : Pid) : rootPid ∈ descendants childPids rootPid :=
  Relation.ReflTransGen.refl

variable {childPids}

theorem child_mem_descendants {rootPid pid child : Pid}
    (hpid : pid ∈ descendants childPids rootPid) (hchild : child ∈ childPids pid) :
    child ∈ descendants childPids rootPid :=
  Relation.ReflTransGen.tail hpid hchild

/-- Whatever has the root and the children of its members has all descendants. -/
theorem descendants_subset {rootPid : Pid} {tree : Set Pid} (hroot : rootPid ∈ tree)
    (hchild : ∀ pid ∈ tree, ∀ child ∈ childPids pid, child ∈ tree) :
    descendants childPids rootPid ⊆ tree := by
  intro pid hpid
  induction hpid with
  | refl => exact hroot
  | tail _ hmem ih => exact hchild _ ih _ hmem

end Descendants

namespace Walk

variable {childPids : Pid → List Pid} {rootPid : Pid} {w w' : Walk Pid}

section Turn

variable [DecidableEq Pid]

/-- A turn after which the walk goes on takes a process off the stack, below the ceiling, and
visits it if it is new. -/
theorem turn_eq_inl (h : w.turn childPids = .inl w') :
    ∃ pid rest, w.toVisit = pid :: rest ∧ w.visited.card < maxTrackedProcesses ∧
      ((pid ∈ w.visited ∧ w' = { w with toVisit := rest }) ∨
        (pid ∉ w.visited ∧ w' =
          { visited := insert pid w.visited
            toVisit := ((childPids pid).filter (· ∉ insert pid w.visited)).reverse ++ rest })) := by
  rw [turn] at h
  split at h
  next => cases h
  next pid rest hstack =>
    refine ⟨pid, rest, hstack, ?_⟩
    split at h
    next => cases h
    next hroom =>
      refine ⟨Nat.lt_of_not_le hroom, ?_⟩
      split at h
      next hvisited => exact Or.inl ⟨hvisited, (Sum.inl.inj h).symm⟩
      next hnew => exact Or.inr ⟨hnew, (Sum.inl.inj h).symm⟩

theorem turn_eq_inr {tree : Finset Pid} (h : w.turn childPids = .inr tree) :
    tree = w.visited ∧ (w.toVisit = [] ∨ maxTrackedProcesses ≤ w.visited.card) := by
  rw [turn] at h
  split at h
  next hstack => exact ⟨(Sum.inr.inj h).symm, Or.inl hstack⟩
  next pid rest hstack =>
    split at h
    next hfull => exact ⟨(Sum.inr.inj h).symm, Or.inr hfull⟩
    next =>
      split at h
      next => cases h
      next => cases h

end Turn

/-! ## What every turn keeps -/

/-- The walk has seen descendants of the root only, and has lost none of the children of
those that it visited. -/
structure Sound (childPids : Pid → List Pid) (rootPid : Pid) (w : Walk Pid) : Prop where
  bounded : w.visited.card ≤ maxTrackedProcesses
  root : rootPid ∈ w.visited ∨ (w.visited = ∅ ∧ w.toVisit = [rootPid])
  visited : ∀ pid ∈ w.visited, pid ∈ descendants childPids rootPid
  toVisit : ∀ pid ∈ w.toVisit, pid ∈ descendants childPids rootPid
  children : ∀ pid ∈ w.visited, ∀ child ∈ childPids pid, child ∈ w.visited ∨ child ∈ w.toVisit

theorem sound_start (childPids : Pid → List Pid) (rootPid : Pid) :
    Sound childPids rootPid { visited := ∅, toVisit := [rootPid] } where
  bounded := by simp
  root := Or.inr ⟨rfl, rfl⟩
  visited := by simp
  toVisit := by simpa using root_mem_descendants childPids rootPid
  children := by simp

theorem Sound.drop {pid : Pid} {rest : List Pid} (h : Sound childPids rootPid w)
    (hstack : w.toVisit = pid :: rest) (hpid : pid ∈ w.visited) :
    Sound childPids rootPid { w with toVisit := rest } where
  bounded := h.bounded
  root := by
    rcases h.root with hroot | ⟨hempty, -⟩
    · exact Or.inl hroot
    · rw [hempty] at hpid
      exact absurd hpid (Finset.notMem_empty pid)
  visited := h.visited
  toVisit := fun p hp => h.toVisit p (hstack ▸ List.mem_cons_of_mem pid hp)
  children := by
    intro p hp child hchild
    rcases h.children p hp child hchild with hin | hin
    · exact Or.inl hin
    · rw [hstack] at hin
      rcases List.mem_cons.mp hin with rfl | hin
      · exact Or.inl hpid
      · exact Or.inr hin

/-- Turns visit something, or else shorten the stack. -/
def Descends : Walk Pid → Walk Pid → Prop :=
  InvImage (Prod.Lex (· < ·) (· < ·)) fun w =>
    (maxTrackedProcesses - w.visited.card, w.toVisit.length)

theorem wellFounded_descends : WellFounded (@Descends Pid) :=
  InvImage.wf _ (WellFounded.prod_lex Nat.lt_wfRel.wf Nat.lt_wfRel.wf)

variable [DecidableEq Pid]

theorem mem_pushed_iff {pid p : Pid} {visited : Finset Pid} {rest : List Pid} :
    p ∈ ((childPids pid).filter (· ∉ visited)).reverse ++ rest ↔
      (p ∈ childPids pid ∧ p ∉ visited) ∨ p ∈ rest := by
  rw [List.mem_append, List.mem_reverse, List.mem_filter, decide_eq_true_eq]

theorem Sound.visit {pid : Pid} {rest : List Pid} (h : Sound childPids rootPid w)
    (hstack : w.toVisit = pid :: rest) (hroom : w.visited.card < maxTrackedProcesses) :
    Sound childPids rootPid
      { visited := insert pid w.visited
        toVisit := ((childPids pid).filter (· ∉ insert pid w.visited)).reverse ++ rest } := by
  have hpid : pid ∈ descendants childPids rootPid :=
    h.toVisit pid (hstack ▸ List.mem_cons_self)
  constructor
  case bounded => exact (Finset.card_insert_le pid w.visited).trans hroom
  case root =>
    left
    rcases h.root with hroot | ⟨-, honly⟩
    · exact Finset.mem_insert_of_mem hroot
    · rw [hstack] at honly
      rw [(List.cons.inj honly).1]
      exact Finset.mem_insert_self rootPid w.visited
  case visited =>
    intro p hp
    rcases Finset.mem_insert.mp hp with rfl | hp
    · exact hpid
    · exact h.visited p hp
  case toVisit =>
    intro p hp
    rcases mem_pushed_iff.mp hp with ⟨hchild, -⟩ | hp
    · exact child_mem_descendants hpid hchild
    · exact h.toVisit p (hstack ▸ List.mem_cons_of_mem pid hp)
  case children =>
    intro p hp child hchild
    by_cases hin : child ∈ insert pid w.visited
    · exact Or.inl hin
    · refine Or.inr (mem_pushed_iff.mpr ?_)
      rcases Finset.mem_insert.mp hp with rfl | hp
      · exact Or.inl ⟨hchild, hin⟩
      · right
        rw [Finset.mem_insert, not_or] at hin
        rcases h.children p hp child hchild with hold | hold
        · exact absurd hold hin.2
        · rw [hstack] at hold
          exact (List.mem_cons.mp hold).resolve_left hin.1

theorem sound_turn (h : Sound childPids rootPid w) (hturn : w.turn childPids = .inl w') :
    Sound childPids rootPid w' ∧ Descends w' w := by
  obtain ⟨pid, rest, hstack, hroom, hcases⟩ := turn_eq_inl hturn
  rcases hcases with ⟨hvisited, rfl⟩ | ⟨hnew, rfl⟩
  · refine ⟨h.drop hstack hvisited, Prod.Lex.right _ ?_⟩
    rw [hstack]
    exact Nat.lt_succ_self rest.length
  · refine ⟨h.visit hstack hroom, Prod.Lex.left _ _ ?_⟩
    rw [Finset.card_insert_of_notMem hnew]
    omega

end Walk

/-! ## What is found -/

/-- A part of the descendants with the root in it, which is all of them unless it is as large
as any that is tracked. -/
structure IsTree (childPids : Pid → List Pid) (rootPid : Pid) (tree : Finset Pid) : Prop where
  root : rootPid ∈ tree
  subset : (tree : Set Pid) ⊆ descendants childPids rootPid
  bounded : tree.card ≤ maxTrackedProcesses
  whole : (tree : Set Pid) = descendants childPids rootPid ∨ tree.card = maxTrackedProcesses

theorem IsTree.eq_descendants {childPids : Pid → List Pid} {rootPid : Pid} {tree : Finset Pid}
    (h : IsTree childPids rootPid tree)
    (hfew : (descendants childPids rootPid).encard ≤ maxTrackedProcesses) :
    (tree : Set Pid) = descendants childPids rootPid := by
  rcases h.whole with hwhole | hfull
  · exact hwhole
  · have hle : (descendants childPids rootPid).encard ≤ (tree : Set Pid).encard := by
      rw [Set.encard_coe_eq_coe_finsetCard, hfull]
      exact hfew
    exact tree.finite_toSet.eq_of_subset_of_encard_le h.subset hle

variable [DecidableEq Pid]

theorem isTree_of_turn {childPids : Pid → List Pid} {rootPid : Pid} {w : Walk Pid}
    {tree : Finset Pid} (h : w.Sound childPids rootPid) (hturn : w.turn childPids = .inr tree) :
    IsTree childPids rootPid tree := by
  obtain ⟨rfl, hend⟩ := Walk.turn_eq_inr hturn
  have hroot : rootPid ∈ w.visited := by
    rcases h.root with hroot | ⟨hempty, hstack⟩
    · exact hroot
    · rw [hempty, hstack] at hend
      revert hend
      simp [maxTrackedProcesses]
  refine ⟨hroot, h.visited, h.bounded, ?_⟩
  rcases hend with hdone | hfull
  · refine Or.inl (Set.Subset.antisymm h.visited (descendants_subset hroot ?_))
    intro pid hpid child hchild
    have hnone : child ∉ w.toVisit := hdone ▸ List.not_mem_nil
    exact (h.children pid hpid child hchild).resolve_right hnone
  · exact Or.inr (Nat.le_antisymm h.bounded hfull)

theorem getProcessTree_returns (childPids : Pid → List Pid) (rootPid : Pid) :
    ∃ tree, (∃ n, ∀ m, n ≤ m → getProcessTree childPids rootPid m = some tree) ∧
      IsTree childPids rootPid tree :=
  WhileLoop.returns_of_wellFounded Walk.wellFounded_descends (fun _ _ => Walk.sound_turn)
    (fun _ _ => isTree_of_turn) (Walk.sound_start childPids rootPid)

theorem isTree_of_getProcessTree {childPids : Pid → List Pid} {rootPid : Pid} {n : ℕ}
    {tree : Finset Pid} (h : getProcessTree childPids rootPid n = some tree) :
    IsTree childPids rootPid tree := by
  obtain ⟨found, hreturns, hfound⟩ := getProcessTree_returns childPids rootPid
  rw [(WhileLoop.returns_of_run h).unique hreturns]
  exact hfound

/-- Whatever the children are, the walk ends. It finds the root and nothing that does not
descend from it, no more processes than are tracked, and all of them if there are no more. -/
theorem getProcessTree_exact (childPids : Pid → List Pid) (rootPid : Pid) :
    ∃ tree : Finset Pid,
      (∃ n, ∀ m, n ≤ m → getProcessTree childPids rootPid m = some tree) ∧
      rootPid ∈ tree ∧
      (∀ pid ∈ tree, pid ∈ descendants childPids rootPid) ∧
      tree.card ≤ maxTrackedProcesses ∧
      ((descendants childPids rootPid).encard ≤ maxTrackedProcesses →
        (tree : Set Pid) = descendants childPids rootPid) := by
  obtain ⟨tree, hreturns, htree⟩ := getProcessTree_returns childPids rootPid
  exact ⟨tree, hreturns, htree.root, htree.subset, htree.bounded, htree.eq_descendants⟩

example : getProcessTree (fun pid : ℕ => if pid = 1 then [2, 3, 3] else [1]) 1 5 =
    some {1, 2, 3} := by decide

end Resources

end Kallichore
