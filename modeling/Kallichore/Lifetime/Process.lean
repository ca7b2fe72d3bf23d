import Kallichore.Lifetime.Change
import Kallichore.Wire.RoundTrip

/-!
# The process of a session

The process ID and the status in the shared state are to say whether the session
has a kernel. `start` takes neither into account: it spawns a child whatever the
session already has, and the child that exits first clears the process ID of
whoever wrote it last.

A child is unrecorded from its spawn until its `run_child` has marked the kernel as
exited; its process ID is written a moment after the spawn, and it may have exited in the
meantime. As long as `start` is called only once the session is free of earlier starts and
of unrecorded children, the process ID is that of the one unrecorded child.
-/

namespace Kallichore

/-- The child process of an incarnation, with the `run_child` that waits for
it. -/
structure Process where
  child : Child
  runChild : RunChildPc
  processId : Option UInt32

namespace Process

def absent : Process where
  child := .absent
  runChild := .absent
  processId := none

/-- The process ID of the child was written, and its exit is not recorded. -/
def Named (p : Process) : Prop :=
  p.runChild = .waiting ∨ ∃ code, p.runChild = .checking code ∨ p.runChild = .marking code

/-- The child was spawned, and its exit is not recorded. -/
def Unrecorded (p : Process) : Prop := p.runChild = .pending ∨ p.Named

/-- A child that runs is waited for, or will be, and one that is to be recorded has a
process ID. -/
structure Watched (p : Process) : Prop where
  waited : p.child = .running → p.runChild = .pending ∨ p.runChild = .waiting
  identified : p.Unrecorded → p.processId ≠ none

theorem Watched.unrecorded {p : Process} (h : p.Watched) (hrunning : p.child = .running) :
    p.Unrecorded := (h.waited hrunning).imp_right Or.inl

end Process

def Incarnation.process (k : Incarnation) : Process where
  child := k.child
  runChild := k.runChild
  processId := k.processId

namespace Lifetime

def process (s : Lifetime) (i : ℕ) : Process :=
  ((s.incarnation i).map Incarnation.process).getD .absent

/-- The child is spawned, is given its `run_child` or exits, or its `run_child` goes on. -/
def Moves (j : ℕ) : Act → Prop
  | .spawn i _ | .identify i _ | .notifyExit i => i = j
  | .launch i a => i = j ∧ a.ofChild = true
  | _ => False

inductive ProcessChange (s t : Lifetime) (j : ℕ) : Act → Prop
  | same (a : Act) (hact : ¬ Moves j a) (h : t.process j = s.process j) : ProcessChange s t j a
  | spawned (pid : UInt32)
      (h : t.process j = { child := .running, runChild := .pending, processId := some pid }) :
      ProcessChange s t j (.spawn j pid)
  | identified (jep66 : Bool) (k : Incarnation) (hk : s.incarnation j = some k)
      (hspawned : k.start = .spawned)
      (h : t.process j = { s.process j with runChild := .waiting }) :
      ProcessChange s t j (.identify j jep66)
  /-- The start is dropped before it has put `run_child` in place. -/
  | dropped (hpc : (s.process j).runChild = .pending)
      (h : t.process j = { s.process j with runChild := .absent }) :
      ProcessChange s t j (.launch j .drop)
  | exits (code : Int) (hchild : (s.process j).child = .running)
      (h : t.process j = { s.process j with child := .exited code }) :
      ProcessChange s t j (.launch j (.childExits code))
  | checks (host : Host) (code : Int) (hpc : (s.process j).runChild = .waiting)
      (hchild : (s.process j).child = .exited code)
      (h : t.process j = { s.process j with runChild := .checking code }) :
      ProcessChange s t j (.launch j (.runChild host))
  | passes (host : Host) (code : Int) (hpc : (s.process j).runChild = .checking code)
      (h : t.process j = { s.process j with runChild := .marking code }) :
      ProcessChange s t j (.launch j (.runChild host))
  | panics (host : Host) (code : Int) (k : Incarnation) (hk : s.incarnation j = some k)
      (hpc : k.runChild = .checking code) (hheard : ¬ (s.launch k).Heard)
      (h : t.process j = { s.process j with runChild := .panicked }) :
      ProcessChange s t j (.launch j (.runChild host))
  | marks (host : Host) (code : Int) (hpc : (s.process j).runChild = .marking code)
      (hkernel : t.kernel =
        (s.kernel.setStatus .exited (some "child process exited") host).1)
      (h : t.process j = { s.process j with runChild := .notifying code }) :
      ProcessChange s t j (.launch j (.runChild host))
  | notifies (code : Int) (hpc : (s.process j).runChild = .notifying code)
      (h : t.process j = { s.process j with runChild := .announcing code }) :
      ProcessChange s t j (.notifyExit j)
  | announces (host : Host) (code : Int) (hpc : (s.process j).runChild = .announcing code)
      (h : t.process j = { s.process j with runChild := .done }) :
      ProcessChange s t j (.launch j (.runChild host))

theorem process_of_some {s : Lifetime} {i : ℕ} {k : Incarnation}
    (h : s.incarnation i = some k) : s.process i = k.process := by
  simp [process, h]

theorem process_of_none {s : Lifetime} {i : ℕ} (h : s.incarnation i = none) :
    s.process i = .absent := by
  simp [process, h]

theorem exists_of_runChild {s : Lifetime} {i : ℕ} {pc : RunChildPc}
    (h : (s.process i).runChild = pc) (hpc : pc ≠ .absent) :
    ∃ k, s.incarnation i = some k ∧ k.runChild = pc := by
  cases hk : s.incarnation i with
  | none =>
      rw [process_of_none hk] at h
      exact absurd h.symm hpc
  | some k =>
      rw [process_of_some hk] at h
      exact ⟨k, rfl, h⟩

variable {D : Codecs}

/-- The steps of `run_child`, as the process shows them. -/
theorem processChange_of_runChild {s t : Lifetime} {j : ℕ} {host : Host} {k : Incarnation}
    {l : Launch} (hk : s.incarnation j = some k) (htakes : k.takes (.runChild host) = true)
    (hstep : (s.launch k).stepRunChild host = some l) (hkernel : t.kernel = l.kernel)
    (h : t.incarnation j = some (k.ofLaunch l)) :
    ProcessChange s t j (.launch j (.runChild host)) := by
  have hs : s.process j = k.process := process_of_some hk
  have ht : t.process j = (k.ofLaunch l).process := process_of_some h
  rcases Launch.stepRunChild_cases hstep with ⟨code, hpc, hexited, rfl⟩ |
    ⟨code, startup, hpc, rfl⟩ | ⟨code, hpc, hheard, rfl⟩ | ⟨code, hpc, rfl⟩ |
    ⟨code, hpc, rfl⟩ | ⟨code, hpc, rfl⟩
  · exact .checks host code (by rw [hs]; exact hpc) (by rw [hs]; exact hexited)
      (by rw [ht, hs]; rfl)
  · exact .passes host code (by rw [hs]; exact hpc) (by rw [ht, hs]; rfl)
  · exact .panics host code k hk hpc hheard (by rw [ht, hs]; rfl)
  · exact .marks host code (by rw [hs]; exact hpc) hkernel (by rw [ht, hs]; rfl)
  · have hnotifying : k.runChild = .notifying code := hpc
    simp [Incarnation.takes, Incarnation.notifying, hnotifying] at htakes
  · exact .announces host code (by rw [hs]; exact hpc) (by rw [ht, hs]; rfl)

/-- The steps of `start` and its tasks, as the process shows them. -/
theorem processChange_of_launch {s t : Lifetime} {j : ℕ} {a : Launch.Act} {k : Incarnation}
    {l : Launch} (hk : s.incarnation j = some k) (htakes : k.takes a = true)
    (hl : (s.launch k).step a = some l) (hkernel : t.kernel = l.kernel)
    (h : t.incarnation j = some (k.ofLaunch l)) : ProcessChange s t j (.launch j a) := by
  have hs : s.process j = k.process := process_of_some hk
  have ht : t.process j = (k.ofLaunch l).process := process_of_some h
  have hsame : a.ofChild = false → l.child = k.child → l.runChild = k.runChild →
      ProcessChange s t j (.launch j a) := by
    intro hact hchild hrunChild
    refine .same _ (by simp [Moves, hact]) ?_
    rw [ht, hs]
    simp [Incarnation.process, Incarnation.ofLaunch, hchild, hrunChild]
  cases Launch.step_move (plain_of_takes htakes) hl with
  | start a hact hcalled hearly hspawned hlater hproxy hchild hrunChild hnotified =>
      exact hsame hact hchild hrunChild
  | connect hstart hstart' hproxy hchild hrunChild hnotified => exact hsame rfl hchild hrunChild
  | drop hcalled hstart hproxy hchild hrunChild hnotified =>
      rcases hrunChild with ⟨hpending, hgone⟩ | ⟨-, hkept⟩
      · refine .dropped (by rw [hs]; exact hpending) ?_
        rw [ht, hs]
        simp [Incarnation.process, Incarnation.ofLaunch, hchild, hgone, launch]
      · exact hsame rfl hchild hkept
  | proxy a hact hproxy hstart hchild hrunChild hnotified => exact hsame hact hchild hrunChild
  | childExits code hrunning hchild hstart hproxy hrunChild hnotified =>
      refine .exits code (by rw [hs]; exact hrunning) ?_
      rw [ht, hs]
      simp [Incarnation.process, Incarnation.ofLaunch, hchild, hrunChild, launch]
  | runChild host hstep hstart hproxy hchild =>
      exact processChange_of_runChild hk htakes hstep hkernel h

theorem step_process {s t : Lifetime} {a : Act} (h : s.step D a = some t) (j : ℕ) :
    ProcessChange s t j a := by
  have hsame : ∀ k k', ¬ Moves j a → s.incarnation j = some k → t.incarnation j = some k' →
      k'.process = k.process → ProcessChange s t j a := by
    intro k k' hact hk hk' heq
    exact .same _ hact (by rw [process_of_some hk, process_of_some hk', heq])
  have hchange := step_incarnation h j
  generalize hk : s.incarnation j = before at hchange
  generalize hk' : t.incarnation j = after at hchange
  cases hchange with
  | same a k hact =>
      refine .same _ ?_ (by simp only [process, hk, hk'])
      cases a <;> simp_all [Moves, Act.actor]
  | woken a i k hother hact =>
      refine hsame k _ ?_ hk hk' rfl
      rcases hact with rfl | ⟨host, rfl⟩
      · exact hother
      · exact id
  | begun a hact =>
      refine .same _ ?_ (by rw [process_of_none hk, process_of_some hk']; rfl)
      rcases hact with rfl | ⟨m, rfl⟩
      all_goals exact id
  | adopted key =>
      exact .same _ id (by rw [process_of_none hk, process_of_some hk']; rfl)
  | launched a k l htakes hl hkernel => exact processChange_of_launch hk htakes hl hkernel hk'
  | spawned pid k hpreparing => exact .spawned pid (by rw [process_of_some hk']; rfl)
  | identified jep66 k start hspawned hstart =>
      refine .identified jep66 k hk hspawned ?_
      rw [process_of_some hk, process_of_some hk']
      rfl
  | notifies k code hpc =>
      refine .notifies code (by rw [process_of_some hk]; exact hpc) ?_
      rw [process_of_some hk, process_of_some hk']
      rfl
  | listens pendingIopubMessages k startup hproxy => exact hsame k _ id hk hk' rfl
  | selects k hselecting hlistener => exact hsame k _ id hk hk' rfl
  | leaves k hproxy hlistener => exact hsame k _ id hk hk' rfl
  | panics k hproxy => exact hsame k _ id hk hk' rfl
  | loops a k w hproxy hselect hw hkernel => exact hsame k _ id hk hk' rfl
  | stores k hadopted => exact hsame k _ id hk hk' rfl
  | ends host k hadopted hover hnotified => exact hsame k _ id hk hk' rfl

/-! ## Where a start is -/

/-- The call of `start` has yet to spawn its child. -/
def Beginning (s : Lifetime) (i : ℕ) : Prop :=
  ∃ k, s.incarnation i = some k ∧ (k.start = .called ∨ k.start = .preparing)

/-- Before the spawn there is no `run_child`, and none in place before the process ID is
written. -/
structure Staged (k : Incarnation) : Prop where
  unspawned : k.start = .called ∨ k.start = .preparing → k.runChild = .absent
  spawned : k.start = .spawned → k.runChild = .pending

theorem Staged.congr {k k' : Incarnation} (h : Staged k) (hstart : k'.start = k.start)
    (hrunChild : k'.runChild = k.runChild) : Staged k' := by
  refine ⟨?_, ?_⟩
  · rw [hstart, hrunChild]
    exact h.unspawned
  · rw [hstart, hrunChild]
    exact h.spawned

theorem staged_of_late {k : Incarnation} (h : ¬ Launch.Early k.start) : Staged k :=
  ⟨fun hpc => absurd (hpc.imp_right Or.inl) h, fun hpc => absurd (Or.inr (Or.inr hpc)) h⟩

theorem staged_of_launch {s : Lifetime} {a : Launch.Act} {k : Incarnation} {l : Launch}
    (h : Staged k) (htakes : k.takes a = true) (hl : (s.launch k).step a = some l) :
    Staged (k.ofLaunch l) := by
  cases Launch.step_move (plain_of_takes htakes) hl with
  | start a hact hcalled hearly hspawned hlater hproxy hchild hrunChild hnotified =>
      refine ⟨fun hpc => ?_, fun hpc => absurd hpc hspawned⟩
      exact hrunChild.trans (h.unspawned (Or.inl (hearly hpc).1))
  | connect hstart hstart' hproxy hchild hrunChild hnotified =>
      exact staged_of_late (by simp [Incarnation.ofLaunch, hstart', Launch.Early])
  | drop hcalled hstart hproxy hchild hrunChild hnotified =>
      exact staged_of_late (by simp [Incarnation.ofLaunch, hstart, Launch.Early])
  | proxy a hact hproxy hstart hchild hrunChild hnotified => exact h.congr hstart hrunChild
  | childExits code hrunning hchild hstart hproxy hrunChild hnotified =>
      exact h.congr hstart hrunChild
  | runChild host hstep hstart hproxy hchild =>
      -- A `run_child` that takes a step is in place.
      refine staged_of_late fun hearly => ?_
      have hearly' : Launch.Early k.start := by
        change Launch.Early l.start at hearly
        rw [hstart] at hearly
        exact hearly
      have hplace : k.runChild = .absent ∨ k.runChild = .pending := by
        rcases hearly' with hpc | hpc | hpc
        · exact Or.inl (h.unspawned (Or.inl hpc))
        · exact Or.inl (h.unspawned (Or.inr hpc))
        · exact Or.inr (h.spawned hpc)
      rcases hplace with hpc | hpc
      all_goals simp [Launch.stepRunChild, launch, hpc] at hstep

theorem step_staged {s t : Lifetime} {a : Act} (h : s.step D a = some t) {j : ℕ}
    (hs : ∀ k, s.incarnation j = some k → Staged k) {k' : Incarnation}
    (hk' : t.incarnation j = some k') : Staged k' := by
  obtain ⟨before, hk, hchange⟩ := step_incarnation_to h hk'
  cases hchange with
  | same a k hact => exact hs k' hk
  | begun a hact => exact ⟨fun _ => rfl, by simp [Incarnation.new]⟩
  | adopted key => exact staged_of_late (by simp [Incarnation.adopt, Launch.Early])
  | launched a k l htakes hl hkernel => exact staged_of_launch (hs k hk) htakes hl
  | spawned pid k hpreparing => exact ⟨by simp, fun _ => rfl⟩
  | identified jep66 k start hspawned hstart =>
      refine staged_of_late ?_
      rcases hstart with rfl | rfl <;> simp [Launch.Early]
  | notifies k code hpc =>
      refine ⟨fun hearly => ?_, fun hearly => ?_⟩
      · cases hpc.symm.trans ((hs k hk).unspawned hearly)
      · cases hpc.symm.trans ((hs k hk).spawned hearly)
  | stores k hadopted => exact staged_of_late (by simp [Launch.Early])
  | woken a i k | listens pendingIopubMessages k | selects k | leaves k | panics k
  | loops a k | ends host k => exact (hs k hk).congr rfl rfl

theorem beginning_of_launch {s : Lifetime} {a : Launch.Act} {k : Incarnation} {l : Launch}
    (htakes : k.takes a = true) (hl : (s.launch k).step a = some l)
    (h : l.start = .called ∨ l.start = .preparing) : k.start = .called ∨ k.start = .preparing := by
  cases Launch.step_move (plain_of_takes htakes) hl with
  | start a hact hcalled hearly => exact Or.inl (hearly h).1
  | connect hstart hstart' => simp [hstart'] at h
  | drop hcalled hstart => simp [hstart] at h
  | proxy a hact hproxy hstart | childExits code hrunning hchild hstart
  | runChild host hstep hstart =>
      rw [hstart] at h
      exact h

theorem step_beginning {s t : Lifetime} {a : Act} (h : s.step D a = some t) {j : ℕ}
    (hj : t.Beginning j) :
    s.Beginning j ∨ a = .start j ∨ s.kernel.restarting = true ∧ ∃ m, a = .restartWake m j := by
  obtain ⟨k', hk', hearly⟩ := hj
  obtain ⟨before, hk, hchange⟩ := step_incarnation_to h hk'
  cases hchange with
  | same a k hact => exact Or.inl ⟨k', hk, hearly⟩
  | begun a hact =>
      rcases hact with rfl | ⟨m, rfl⟩
      · exact Or.inr (Or.inl rfl)
      · cases step_took h with
        | restartWake m i hpc hflag hnone => exact Or.inr (Or.inr ⟨hflag, m, rfl⟩)
        | restartStops m i hpc hflag =>
            rw [show (s.setRestart m .returned).incarnation j = s.incarnation j from rfl, hk] at hk'
            cases hk'
  | adopted key => simp [Incarnation.adopt] at hearly
  | launched a k l htakes hl hkernel =>
      exact Or.inl ⟨k, hk, beginning_of_launch htakes hl hearly⟩
  | spawned pid k hpreparing => simp at hearly
  | identified jep66 k start hspawned hstart => rcases hstart with rfl | rfl <;> simp at hearly
  | stores k hadopted => simp at hearly
  | woken a i k | notifies k | listens pendingIopubMessages k | selects k | leaves k | panics k
  | loops a k | ends host k => exact Or.inl ⟨k, hk, hearly⟩

/-! ## One child at a time -/

/-- Every child that has exited has had its exit recorded, and every child that runs its
process ID written. -/
def Settled (s : Lifetime) : Prop :=
  ∀ i, (s.process i).Unrecorded →
    (s.process i).child = .running ∧ (s.process i).runChild ≠ .pending

def AtMostOne (s : Lifetime) : Prop :=
  ∀ i j, (s.process i).child = .running → (s.process j).child = .running → i = j

/-- The process ID is that of the living child. -/
def Identified (s : Lifetime) : Prop :=
  ∀ pid, s.kernel.processId = some pid ↔
    ∃ i, (s.process i).child = .running ∧ (s.process i).processId = some pid

/-- The incarnation is on its way to a child, or has one that is unrecorded. -/
def Occupies (s : Lifetime) (i : ℕ) : Prop := s.Beginning i ∨ (s.process i).Unrecorded

/-- No start is on its way to a child, and no child is unrecorded. -/
def Free (s : Lifetime) : Prop := ∀ i, ¬ s.Occupies i

/-- `start` is called, by a client or by a restart, and an adopted kernel ends, only where
the session is free; no start is dropped between the spawn and the writing of the process
ID, and `run_child` finds someone to tell. -/
def OneAtATime (s : Lifetime) : Act → Prop
  | .start _ | .adoptedEnds _ _ => s.Free
  | .restartWake _ _ => s.kernel.restarting = true → s.Free
  | .launch i .drop => ∀ k, s.incarnation i = some k → k.runChild ≠ .pending
  | .launch i (.runChild _) => ∀ k code, s.incarnation i = some k →
      k.runChild = .checking code → (s.launch k).Heard
  | _ => True

/-- The start has marked the kernel as starting and has yet to spawn its child, or the
child is unrecorded. -/
def Engaged (s : Lifetime) (i : ℕ) : Prop :=
  (∃ k, s.incarnation i = some k ∧ k.start = .preparing) ∨ (s.process i).Unrecorded

/-- One incarnation at most occupies the session, with a status that the exit of its child
can replace, and the process ID is that of the one child that has a `run_child`. -/
structure Tracked (s : Lifetime) : Prop where
  staged : ∀ i k, s.incarnation i = some k → Staged k
  watched : ∀ i, (s.process i).Watched
  unique : ∀ i j, s.Occupies i → s.Occupies j → i = j
  recordable : ∀ i, s.Engaged i → s.kernel.status ≠ .exited
  recorded : ∀ i, (s.process i).Named → s.kernel.processId = (s.process i).processId
  held : ∀ pid, s.kernel.processId = some pid → ∃ i, (s.process i).Named

theorem Engaged.occupies {s : Lifetime} {i : ℕ} (h : s.Engaged i) : s.Occupies i := by
  rcases h with ⟨k, hk, hpreparing⟩ | hunrecorded
  · exact Or.inl ⟨k, hk, Or.inr hpreparing⟩
  · exact Or.inr hunrecorded

theorem Tracked.not_unrecorded {s : Lifetime} (hs : s.Tracked) {i : ℕ} (h : s.Beginning i) :
    ¬ (s.process i).Unrecorded := by
  obtain ⟨k, hk, hearly⟩ := h
  rw [process_of_some hk]
  have habsent := (hs.staged i k hk).unspawned hearly
  simp [Process.Unrecorded, Process.Named, Incarnation.process, habsent]

/-- A process that is past waiting for its child does not run, and stays
identified. -/
theorem watched_of_runChild {p : Process} (h : p.Watched) {pc : RunChildPc}
    (hpast : p.runChild ≠ .pending ∧ p.runChild ≠ .waiting)
    (hunrecorded : Process.Unrecorded { p with runChild := pc } → p.Unrecorded) :
    Process.Watched { p with runChild := pc } := by
  refine ⟨fun hrunning => ?_, fun hnow => h.identified (hunrecorded hnow)⟩
  rcases h.waited hrunning with hpc | hpc
  · exact absurd hpc hpast.1
  · exact absurd hpc hpast.2

theorem step_watched {s t : Lifetime} {a : Act} (h : s.step D a = some t)
    (hC : s.OneAtATime a) (j : ℕ) (hstaged : ∀ k, s.incarnation j = some k → Staged k)
    (hj : (s.process j).Watched) : (t.process j).Watched := by
  cases step_process h j with
  | same a hact heq =>
      rw [heq]
      exact hj
  | spawned pid heq =>
      rw [heq]
      exact ⟨fun _ => Or.inl rfl, by simp⟩
  | identified jep66 k hk hspawned heq =>
      rw [heq]
      refine ⟨fun _ => Or.inr rfl, fun _ => hj.identified (Or.inl ?_)⟩
      rw [process_of_some hk]
      exact (hstaged k hk).spawned hspawned
  | dropped hpc heq =>
      exfalso
      obtain ⟨k, hk, hpending⟩ := exists_of_runChild hpc (by simp)
      exact hC k hk hpending
  | exits code hchild heq =>
      rw [heq]
      exact ⟨by simp, hj.identified⟩
  | checks host code hpc hchild heq =>
      rw [heq]
      refine ⟨fun hrunning => ?_, fun _ => hj.identified (Or.inr (Or.inl hpc))⟩
      have hrunning' : (s.process j).child = .running := hrunning
      rw [hchild] at hrunning'
      cases hrunning'
  | passes host code hpc heq =>
      rw [heq]
      exact watched_of_runChild hj (by simp [hpc])
        fun _ => Or.inr (Or.inr ⟨code, Or.inl hpc⟩)
  | panics host code k hk hpc hheard heq =>
      rw [heq]
      have hpc' : (s.process j).runChild = .checking code := by
        rw [process_of_some hk]
        exact hpc
      exact watched_of_runChild hj (by simp [hpc']) (by simp [Process.Unrecorded, Process.Named])
  | marks host code hpc hkernel heq =>
      rw [heq]
      exact watched_of_runChild hj (by simp [hpc]) (by simp [Process.Unrecorded, Process.Named])
  | notifies code hpc heq =>
      rw [heq]
      exact watched_of_runChild hj (by simp [hpc]) (by simp [Process.Unrecorded, Process.Named])
  | announces host code hpc heq =>
      rw [heq]
      exact watched_of_runChild hj (by simp [hpc]) (by simp [Process.Unrecorded, Process.Named])

/-- `run_child` of this incarnation marks the kernel as exited. -/
def Marks (s : Lifetime) (j : ℕ) (a : Act) : Prop :=
  ∃ host code, a = .launch j (.runChild host) ∧ (s.process j).runChild = .marking code

/-- A step that neither spawns, identifies nor marks a child leaves it recorded or not, as
it was. -/
theorem step_unrecorded {s t : Lifetime} {a : Act} (h : s.step D a = some t)
    (hC : s.OneAtATime a) (j : ℕ) (hspawn : ∀ pid, a ≠ .spawn j pid)
    (hidentify : ∀ jep66, a ≠ .identify j jep66) (hmarks : ¬ s.Marks j a) :
    ((t.process j).Unrecorded ↔ (s.process j).Unrecorded) ∧
      ((t.process j).Named ↔ (s.process j).Named) ∧
      (t.process j).processId = (s.process j).processId := by
  cases step_process h j with
  | same a hact heq => simp [heq]
  | spawned pid heq => exact absurd rfl (hspawn pid)
  | identified jep66 k hk hspawned heq => exact absurd rfl (hidentify jep66)
  | dropped hpc heq =>
      obtain ⟨k, hk, hpending⟩ := exists_of_runChild hpc (by simp)
      exact absurd hpending (hC k hk)
  | exits code hchild heq => simp [heq, Process.Unrecorded, Process.Named]
  | checks host code hpc hchild heq => simp [heq, Process.Unrecorded, Process.Named, hpc]
  | passes host code hpc heq => simp [heq, Process.Unrecorded, Process.Named, hpc]
  | panics host code k hk hpc hheard heq => exact absurd (hC k code hk hpc) hheard
  | marks host code hpc hkernel heq => exact absurd ⟨host, code, rfl, hpc⟩ hmarks
  | notifies code hpc heq => simp [heq, Process.Unrecorded, Process.Named, hpc]
  | announces host code hpc heq => simp [heq, Process.Unrecorded, Process.Named, hpc]

theorem step_marks {s t : Lifetime} {a : Act} {j : ℕ} (h : s.step D a = some t)
    (hmarks : s.Marks j a) :
    ¬ (t.process j).Unrecorded ∧ ∃ host,
      t.kernel = (s.kernel.setStatus .exited (some "child process exited") host).1 := by
  obtain ⟨host, code, rfl, hpc⟩ := hmarks
  cases step_process h j with
  | same a hact heq => exact absurd ⟨rfl, rfl⟩ hact
  | checks host code' hpc' hchild heq => simp [hpc] at hpc'
  | passes host code' hpc' heq => simp [hpc] at hpc'
  | panics host code' k hk hpc' hheard heq =>
      rw [process_of_some hk] at hpc
      simp [Incarnation.process, hpc'] at hpc
  | marks host code' hpc' hkernel heq =>
      exact ⟨by simp [heq, Process.Unrecorded, Process.Named], host, hkernel⟩
  | announces host code' hpc' heq => simp [hpc] at hpc'

theorem step_spawn {s t : Lifetime} {i : ℕ} {pid : UInt32}
    (h : s.step D (.spawn i pid) = some t) :
    t.kernel = s.kernel ∧
      (∃ k, s.incarnation i = some k ∧ k.start = .preparing) ∧
      t.process i = { child := .running, runChild := .pending, processId := some pid } := by
  cases step_took h with
  | spawn i pid k l hk hl =>
      obtain ⟨hpreparing, heq⟩ := Launch.ite_eq_some hl
      cases heq
      exact ⟨rfl, ⟨k, hk, hpreparing⟩, by simp [process]; rfl⟩

theorem step_identify {s t : Lifetime} {i : ℕ} {jep66 : Bool}
    (h : s.step D (.identify i jep66) = some t) :
    ∃ k pid, s.incarnation i = some k ∧ k.start = .spawned ∧ k.processId = some pid ∧
      t.kernel = { s.kernel with processId := some pid } ∧
      t.process i = { s.process i with runChild := .waiting } := by
  cases step_took h with
  | identify i jep66 k pid l hk hpid hl =>
      obtain ⟨hspawned, heq⟩ := Launch.ite_eq_some hl
      cases heq
      refine ⟨k, pid, hk, hspawned, hpid, rfl, ?_⟩
      rw [process_of_some hk]
      simp [process]
      rfl

/-! ## The steps keep track -/

theorem free_of_begins {s : Lifetime} {a : Act} {j : ℕ} (hC : s.OneAtATime a)
    (h : a = .start j ∨ s.kernel.restarting = true ∧ ∃ m, a = .restartWake m j) : s.Free := by
  rcases h with rfl | ⟨hflag, m, rfl⟩
  · exact hC
  · exact hC hflag

theorem engaged_of_unrecorded {s t : Lifetime} {a : Act} (hs : s.Tracked)
    (h : s.step D a = some t) {j : ℕ} (hj : (t.process j).Unrecorded) : s.Engaged j := by
  cases step_process h j with
  | same a hact heq => exact Or.inr (heq ▸ hj)
  | spawned pid heq => exact Or.inl (step_spawn h).2.1
  | identified jep66 k hk hspawned heq =>
      refine Or.inr (Or.inl ?_)
      rw [process_of_some hk]
      exact (hs.staged j k hk).spawned hspawned
  | exits code hchild heq =>
      rw [heq] at hj
      exact Or.inr hj
  | checks host code hpc hchild heq => exact Or.inr (Or.inr (Or.inl hpc))
  | passes host code hpc heq => exact Or.inr (Or.inr (Or.inr ⟨code, Or.inl hpc⟩))
  | dropped hpc heq | panics host code k hk hpc hheard heq | marks host code hpc hkernel heq
  | notifies code hpc heq | announces host code hpc heq =>
      simp [heq, Process.Unrecorded, Process.Named] at hj

theorem step_occupies {s t : Lifetime} {a : Act} (hs : s.Tracked) (h : s.step D a = some t)
    {j : ℕ} (hj : t.Occupies j) :
    s.Occupies j ∨ a = .start j ∨ s.kernel.restarting = true ∧ ∃ m, a = .restartWake m j := by
  rcases hj with hbeginning | hunrecorded
  · rcases step_beginning h hbeginning with hearlier | hbegins
    · exact Or.inl (Or.inl hearlier)
    · exact Or.inr hbegins
  · exact Or.inl (engaged_of_unrecorded hs h hunrecorded).occupies

theorem step_unique {s t : Lifetime} {a : Act} (hs : s.Tracked) (hC : s.OneAtATime a)
    (h : s.step D a = some t) {i j : ℕ} (hi : t.Occupies i) (hj : t.Occupies j) : i = j := by
  rcases step_occupies hs h hi with hi | hi
  · rcases step_occupies hs h hj with hj | hj
    · exact hs.unique i j hi hj
    · exact absurd hi (free_of_begins hC hj i)
  · rcases step_occupies hs h hj with hj | hj
    · exact absurd hj (free_of_begins hC hi j)
    · rcases hi with rfl | ⟨-, m, rfl⟩
      · rcases hj with heq | ⟨-, m', heq⟩
        · cases heq
          rfl
        · cases heq
      · rcases hj with heq | ⟨-, m', heq⟩
        · cases heq
        · cases heq
          rfl

theorem step_engaged {s t : Lifetime} {a : Act} (hs : s.Tracked) (h : s.step D a = some t)
    {j : ℕ} (hj : t.Engaged j) :
    s.Engaged j ∨ ∃ host, a = .launch j (.mark host) := by
  rcases hj with ⟨k', hk', hpreparing⟩ | hunrecorded
  · obtain ⟨before, hk, hchange⟩ := step_incarnation_to h hk'
    cases hchange with
    | same a k hact => exact Or.inl (Or.inl ⟨k', hk, hpreparing⟩)
    | launched a k l htakes hl hkernel =>
        cases Launch.step_move (plain_of_takes htakes) hl with
        | start a hact hcalled hearly =>
            obtain ⟨-, host, rfl⟩ := hearly (Or.inr hpreparing)
            exact Or.inr ⟨host, rfl⟩
        | connect hstart hstart' => cases hstart'.symm.trans hpreparing
        | drop hcalled hstart => cases hstart.symm.trans hpreparing
        | proxy a hact hproxy hstart | childExits code hrunning hchild hstart
        | runChild host hstep hstart =>
            exact Or.inl (Or.inl ⟨k, hk, hstart.symm.trans hpreparing⟩)
    | identified jep66 k start hspawned hstart =>
        rcases hstart with rfl | rfl <;> cases hpreparing
    | begun | adopted | spawned | stores => cases hpreparing
    | woken a i k | notifies k | listens pendingIopubMessages k | selects k | leaves k
    | panics k | loops a k | ends host k => exact Or.inl (Or.inl ⟨k, hk, hpreparing⟩)
  · exact Or.inl (engaged_of_unrecorded hs h hunrecorded)

theorem not_engaged_of_spawnFails {s t : Lifetime} {i : ℕ} {error : String} {host : Host}
    (hs : s.Tracked) (h : s.step D (.launch i (.spawnFails error host)) = some t) (j : ℕ) :
    ¬ t.Engaged j := by
  intro hj
  cases step_took h with
  | launch i a k l hk htakes hl =>
      obtain ⟨hpreparing, heq⟩ := Launch.ite_eq_some hl
      cases heq
      have hbeginning : s.Beginning i := ⟨k, hk, Or.inr hpreparing⟩
      rcases step_engaged hs h hj with hengaged | ⟨host', heq⟩
      · obtain rfl := hs.unique i j (Or.inl hbeginning) hengaged.occupies
        rcases hj with ⟨k', hk', hpreparing'⟩ | hunrecorded
        · simp only [setIncarnation_self, Option.some.injEq] at hk'
          subst hk'
          cases hpreparing'
        · cases step_process h i with
          | same a hact heq => exact hs.not_unrecorded hbeginning (heq ▸ hunrecorded)
      · cases heq

theorem not_engaged_of_writes {s t : Lifetime} {a : Act} (hs : s.Tracked) (hC : s.OneAtATime a)
    (h : s.step D a = some t) (hwrites : s.Writes .exited a) (j : ℕ) : ¬ t.Engaged j := by
  intro hj
  cases a with
  | launch i a =>
      cases a with
      | spawnFails error host => exact not_engaged_of_spawnFails hs h j hj
      | runChild host =>
          obtain ⟨-, k, code, hk, hpc⟩ := hwrites
          have hmarking : (s.process i).runChild = .marking code := by
            rw [process_of_some hk]
            exact hpc
          have hunrecorded : (s.process i).Unrecorded := Or.inr (Or.inr ⟨code, Or.inr hmarking⟩)
          have hrecorded := (step_marks h ⟨host, code, rfl, hmarking⟩).1
          rcases step_engaged hs h hj with hengaged | ⟨host', heq⟩
          · obtain rfl := hs.unique i j (Or.inr hunrecorded) hengaged.occupies
            rcases hj with ⟨k', hk', hpreparing⟩ | hunrecorded'
            · rcases step_beginning h ⟨k', hk', Or.inr hpreparing⟩ with hbeginning | heq |
                ⟨-, m, heq⟩
              · exact hs.not_unrecorded hbeginning hunrecorded
              · cases heq
              · cases heq
            · exact hrecorded hunrecorded'
          · cases heq
      | mark host | handleKernelInfo host => cases hwrites
      | _ => exact hwrites.elim
  | adoptedEnds i host =>
      rcases step_engaged hs h hj with hengaged | ⟨host', heq⟩
      · exact hC j hengaged.occupies
      · cases heq
  | proxy i a =>
      cases a with
      | update host => rcases hwrites with heq | heq <;> cases heq
      | _ => exact hwrites.elim
  | task a =>
      cases a with
      | status status reason host => rcases hwrites with heq | heq <;> cases heq
      | _ => exact hwrites.elim
  | _ => exact hwrites.elim

/-- A step that does not mark the kernel as exited leaves the process ID alone, unless it
writes that of a child. -/
theorem step_identity {s t : Lifetime} {a : Act} (h : s.step D a = some t)
    (hwrites : ¬ s.Writes .exited a) :
    (t.kernel.status = .exited → s.kernel.status = .exited) ∧
      (t.kernel.processId = s.kernel.processId ∨ ∃ i jep66, a = .identify i jep66) := by
  have hsame : SameState s.kernel t.kernel ∨ t.kernel.status = s.kernel.status ∧
      t.kernel.processId = s.kernel.processId → (t.kernel.status = .exited →
      s.kernel.status = .exited) ∧
      (t.kernel.processId = s.kernel.processId ∨ ∃ i jep66, a = .identify i jep66) := by
    rintro (hstate | ⟨hstatus, hpid⟩)
    · exact ⟨fun heq => hstate.status ▸ heq, Or.inl hstate.processId⟩
    · exact ⟨fun heq => hstatus ▸ heq, Or.inl hpid⟩
  cases step_kernel h with
  | kept a heq => exact hsame (Or.inl heq)
  | wrote a status reason host hact heq =>
      have hother : status ≠ .exited := by
        rintro rfl
        exact hwrites hact
      refine ⟨fun hexited => ?_, Or.inl ?_⟩
      · rw [heq, KernelState.setStatus_status] at hexited
        split at hexited
        next hlate => exact hlate.1
        · exact absurd hexited hother
      · rw [heq, KernelState.setStatus_processId, if_neg fun hboth => hother hboth.2]
  | identified i jep66 k pid hk hchild hpid hstatus hqueue =>
      exact ⟨fun heq => hstatus ▸ heq, Or.inr ⟨i, jep66, rfl⟩⟩
  | submitted i host k posted hk hpc hmsg heq => exact hsame (Or.inr ⟨heq.status, heq.processId⟩)
  | cleared a hact heq => exact hsame (Or.inr ⟨heq.status, heq.processId⟩)
  | released i host sent k message hk hpc heq =>
      exact hsame (Or.inr ⟨heq.status, heq.processId⟩)
  | withdrawn msgId hcall heq => exact hsame (Or.inr ⟨heq.status, heq.processId⟩)

theorem step_recordable {s t : Lifetime} {a : Act} (hs : s.Tracked) (hC : s.OneAtATime a)
    (h : s.step D a = some t) {j : ℕ} (hj : t.Engaged j) : t.kernel.status ≠ .exited := by
  intro hexited
  have hwrites : ¬ s.Writes .exited a := fun hwrites =>
    not_engaged_of_writes hs hC h hwrites j hj
  have hbefore := (step_identity h hwrites).1 hexited
  rcases step_engaged hs h hj with hengaged | ⟨host, rfl⟩
  · exact hs.recordable j hengaged hbefore
  · cases step_took h with
    | launch i a k l hk htakes hl =>
        obtain ⟨-, heq⟩ := Launch.ite_eq_some hl
        cases heq
        simp [Launch.setStatus, KernelState.setStatus_status] at hexited

theorem kernel_of_writes {s t : Lifetime} {a : Act} (h : s.step D a = some t)
    (hwrites : s.Writes .exited a) :
    ∃ reason host, t.kernel = (s.kernel.setStatus .exited reason host).1 := by
  cases a with
  | launch i a =>
      cases a with
      | spawnFails error host =>
          cases step_took h with
          | launch i a k l hk htakes hl =>
              obtain ⟨-, heq⟩ := Launch.ite_eq_some hl
              cases heq
              exact ⟨_, host, rfl⟩
      | runChild host =>
          obtain ⟨-, k, code, hk, hpc⟩ := hwrites
          obtain ⟨-, host', hkernel⟩ := step_marks h
            ⟨host, code, rfl, (congrArg Process.runChild (process_of_some hk)).trans hpc⟩
          exact ⟨_, host', hkernel⟩
      | mark host | handleKernelInfo host => cases hwrites
      | _ => exact hwrites.elim
  | adoptedEnds i host =>
      cases step_took h
      exact ⟨_, host, rfl⟩
  | proxy i a =>
      cases a with
      | update host => rcases hwrites with heq | heq <;> cases heq
      | _ => exact hwrites.elim
  | task a =>
      cases a with
      | status status reason host => rcases hwrites with heq | heq <;> cases heq
      | _ => exact hwrites.elim
  | _ => exact hwrites.elim

theorem processId_of_writes {s t : Lifetime} {a : Act} (hs : s.Tracked)
    (h : s.step D a = some t) (hwrites : s.Writes .exited a) : t.kernel.processId = none := by
  obtain ⟨reason, host, hkernel⟩ := kernel_of_writes h hwrites
  rw [hkernel, KernelState.setStatus_processId]
  split
  · rfl
  next hlate =>
    rw [Option.eq_none_iff_forall_ne_some]
    intro pid hpid
    obtain ⟨i, hi⟩ := hs.held pid hpid
    exact hlate ⟨hs.recordable i (Or.inr (Or.inr hi)), rfl⟩

theorem step_recorded {s t : Lifetime} {a : Act} (hs : s.Tracked) (hC : s.OneAtATime a)
    (h : s.step D a = some t) {j : ℕ} (hj : (t.process j).Named) :
    t.kernel.processId = (t.process j).processId := by
  have hwrites : ¬ s.Writes .exited a := fun hwrites =>
    not_engaged_of_writes hs hC h hwrites j (Or.inr (Or.inr hj))
  have hmarks : ¬ s.Marks j a := fun hmarks => (step_marks h hmarks).1 (Or.inr hj)
  by_cases hidentify : ∃ i jep66, a = .identify i jep66
  · obtain ⟨i, jep66, rfl⟩ := hidentify
    obtain ⟨k, pid, hk, hspawned, hpid, hkernel, hprocess⟩ := step_identify h
    have hpending : (s.process i).Unrecorded := by
      rw [process_of_some hk]
      exact Or.inl ((hs.staged i k hk).spawned hspawned)
    have hengaged := engaged_of_unrecorded hs h (Or.inr hj)
    obtain rfl := hs.unique i j (Or.inr hpending) hengaged.occupies
    rw [hkernel, hprocess, process_of_some hk]
    exact hpid.symm
  · have hspawn : ∀ pid, a ≠ .spawn j pid := by
      rintro pid rfl
      rw [(step_spawn h).2.2] at hj
      simp [Process.Named] at hj
    obtain ⟨-, hnamed, hsame⟩ := step_unrecorded h hC j hspawn
      (fun jep66 heq => hidentify ⟨j, jep66, heq⟩) hmarks
    rcases (step_identity h hwrites).2 with hpid | hwrote
    · rw [hpid, hsame]
      exact hs.recorded j (hnamed.mp hj)
    · exact absurd hwrote hidentify

theorem step_held {s t : Lifetime} {a : Act} (hs : s.Tracked) (hC : s.OneAtATime a)
    (h : s.step D a = some t) {pid : UInt32} (hpid : t.kernel.processId = some pid) :
    ∃ i, (t.process i).Named := by
  have hwrites : ¬ s.Writes .exited a := by
    intro hwrites
    rw [processId_of_writes hs h hwrites] at hpid
    cases hpid
  rcases (step_identity h hwrites).2 with hsame | ⟨i, jep66, rfl⟩
  · rw [hsame] at hpid
    obtain ⟨i, hi⟩ := hs.held pid hpid
    have hmarks : ¬ s.Marks i a := by
      rintro ⟨host, code, rfl, hmarking⟩
      obtain ⟨k, hk, hpc⟩ := exists_of_runChild hmarking (by simp)
      exact hwrites ⟨rfl, k, code, hk, hpc⟩
    have hspawn : ∀ pid', a ≠ .spawn i pid' := by
      rintro pid' rfl
      obtain ⟨-, ⟨k, hk, hpreparing⟩, -⟩ := step_spawn h
      exact hs.not_unrecorded ⟨k, hk, Or.inr hpreparing⟩ (Or.inr hi)
    by_cases hidentify : ∃ jep66, a = .identify i jep66
    · obtain ⟨jep66, rfl⟩ := hidentify
      obtain ⟨k, pid', hk, hspawned, hpid', hkernel, hprocess⟩ := step_identify h
      exact ⟨i, by rw [hprocess]; exact Or.inl rfl⟩
    · obtain ⟨-, hnamed, -⟩ := step_unrecorded h hC i hspawn
        (fun jep66 heq => hidentify ⟨jep66, heq⟩) hmarks
      exact ⟨i, hnamed.mpr hi⟩
  · obtain ⟨k, pid', hk, hspawned, hpid', hkernel, hprocess⟩ := step_identify h
    exact ⟨i, by rw [hprocess]; exact Or.inl rfl⟩

theorem step_tracked {s t : Lifetime} {a : Act} (hs : s.Tracked) (hC : s.OneAtATime a)
    (h : s.step D a = some t) : t.Tracked where
  staged j _ hk := step_staged h (hs.staged j) hk
  watched j := step_watched h hC j (hs.staged j) (hs.watched j)
  unique _ _ hi hj := step_unique hs hC h hi hj
  recordable _ hj := step_recordable hs hC h hj
  recorded _ hj := step_recorded hs hC h hj
  held _ hpid := step_held hs hC h hpid

theorem free_init (sessionId workingDirectory : String) (host : Host) (mode : InterruptMode)
    (connection : KernelConnection) :
    (init sessionId workingDirectory host mode connection).Free := by
  rintro i (⟨k, hk, -⟩ | hunrecorded)
  · cases hk
  · rw [process_of_none rfl] at hunrecorded
    simp [Process.Unrecorded, Process.Named, Process.absent] at hunrecorded

theorem tracked_init (sessionId workingDirectory : String) (host : Host) (mode : InterruptMode)
    (connection : KernelConnection) :
    (init sessionId workingDirectory host mode connection).Tracked := by
  have hfree := free_init sessionId workingDirectory host mode connection
  refine ⟨?_, ?_, ?_, ?_, ?_, ?_⟩
  · intro i k hk
    cases hk
  · intro i
    rw [process_of_none rfl]
    exact ⟨by simp [Process.absent],
      by simp [Process.Unrecorded, Process.Named, Process.absent]⟩
  · exact fun i _ hi => absurd hi (hfree i)
  · exact fun i hi => absurd hi.occupies (hfree i)
  · exact fun i hi => absurd (Or.inr (Or.inr hi)) (hfree i)
  · intro pid hpid
    cases hpid

theorem Tracked.not_running {s : Lifetime} (hs : s.Tracked) (hexited : s.kernel.status = .exited)
    (i : ℕ) : (s.process i).child ≠ .running := by
  intro hrunning
  exact hs.recordable i (Or.inr ((hs.watched i).unrecorded hrunning)) hexited

/-- In every run whose starts are called one after the other, at most one child is alive.
The process ID is that of the living child once it was written and none before; it is no
other than that of a child whose exit is unrecorded; and where no exit and no process ID is
left to write, it is that of the living child and of no other. -/
theorem run_oneProcess {sessionId workingDirectory : String} {host : Host}
    {mode : InterruptMode} {connection : KernelConnection} {acts : List Act} {t : Lifetime}
    (hmeets : (machine D).Meets OneAtATime
      (init sessionId workingDirectory host mode connection) acts)
    (hrun : (machine D).run (init sessionId workingDirectory host mode connection) acts =
      some t) :
    t.AtMostOne ∧
      (∀ i, (t.process i).child = .running → (t.process i).processId ≠ none ∧
        t.kernel.processId =
          if (t.process i).runChild = .pending then none else (t.process i).processId) ∧
      (∀ pid, t.kernel.processId = some pid →
        ∃ i, (t.process i).Named ∧ (t.process i).processId = some pid) ∧
      (t.Settled → t.Identified) := by
  have htracked : t.Tracked :=
    (machine D).run_invariant (fun _ _ _ hs hC h => step_tracked hs hC h)
      (tracked_init sessionId workingDirectory host mode connection) hmeets hrun
  have hunrecorded : ∀ i, (t.process i).child = .running → (t.process i).Unrecorded :=
    fun i hi => (htracked.watched i).unrecorded hi
  have hheld : ∀ pid, t.kernel.processId = some pid →
      ∃ i, (t.process i).Named ∧ (t.process i).processId = some pid := by
    intro pid hpid
    obtain ⟨i, hi⟩ := htracked.held pid hpid
    exact ⟨i, hi, by rw [← htracked.recorded i hi, hpid]⟩
  refine ⟨?_, ?_, hheld, ?_⟩
  · intro i j hi hj
    exact htracked.unique i j (Or.inr (hunrecorded i hi)) (Or.inr (hunrecorded j hj))
  · intro i hi
    refine ⟨(htracked.watched i).identified (hunrecorded i hi), ?_⟩
    split
    next hpending =>
      rw [Option.eq_none_iff_forall_ne_some]
      intro pid hpid
      obtain ⟨j, hj, -⟩ := hheld pid hpid
      obtain rfl := htracked.unique i j (Or.inr (hunrecorded i hi)) (Or.inr (Or.inr hj))
      simp [Process.Named, hpending] at hj
    next hplace =>
      rcases (htracked.watched i).waited hi with hpc | hpc
      · exact absurd hpc hplace
      · exact htracked.recorded i (Or.inl hpc)
  · intro hsettled pid
    constructor
    · intro hpid
      obtain ⟨i, hi, hid⟩ := hheld pid hpid
      exact ⟨i, (hsettled i (Or.inr hi)).1, hid⟩
    · rintro ⟨i, hi, hid⟩
      have hplace := (hsettled i (hunrecorded i hi)).2
      rcases (htracked.watched i).waited hi with hpc | hpc
      · exact absurd hpc hplace
      · rw [htracked.recorded i (Or.inl hpc), hid]

def sampleLifetime (mode : InterruptMode) : Lifetime :=
  init "s" "/" sampleHost mode WireMessage.sampleConnection

/-- `start` up to the point where its child runs and has its `run_child`. -/
def spawning (i : ℕ) (pid : UInt32) : List Act :=
  [.start i, .launch i (.mark sampleHost), .spawn i pid, .identify i false]

theorem run_oneProcess_spawning :
    ∃ t, (machine WireMessage.sampleCodecs).run (sampleLifetime .signal) (spawning 0 7) =
        some t ∧ t.AtMostOne ∧ t.kernel.processId = some 7 := by
  have hmeets : (machine WireMessage.sampleCodecs).Meets OneAtATime (sampleLifetime .signal)
      (spawning 0 7) :=
    ⟨free_init _ _ _ _ _, fun _ _ => ⟨trivial, fun _ _ => ⟨trivial, fun _ _ => ⟨trivial, fun _ _ => trivial⟩⟩⟩⟩
  exact ⟨_, rfl, (run_oneProcess hmeets rfl).1, rfl⟩

/-- `start` is called twice, and the session has two kernels. -/
theorem not_oneProcess_two_starts :
    ¬ ∀ (D : Codecs) (sessionId workingDirectory : String) (host : Host)
      (mode : InterruptMode) (connection : KernelConnection) (acts : List Act) (t : Lifetime),
      (machine D).run (init sessionId workingDirectory host mode connection) acts = some t →
        t.Settled → t.AtMostOne ∧ t.Identified := by
  intro h
  have htwo := h WireMessage.sampleCodecs "s" "/" sampleHost .signal WireMessage.sampleConnection
    (spawning 0 7 ++ spawning 1 8) _ rfl ?_
  · exact absurd (htwo.1 0 1 rfl rfl) (by decide)
  · intro i hi
    by_cases hfirst : i = 0
    · rw [hfirst]
      exact ⟨rfl, by decide⟩
    · by_cases hsecond : i = 1
      · rw [hsecond]
        exact ⟨rfl, by decide⟩
      · rw [process_of_none (by simp [setIncarnation, hfirst, hsecond, init])] at hi
        simp [Process.Unrecorded, Process.Named, Process.absent] at hi

/-! ## An exited session -/

/-- An exited session has no work and no process. -/
def HoldsNoWork (s : Lifetime) : Prop :=
  s.kernel.status = .exited →
    s.kernel.executionQueue.active = none ∧ s.kernel.executionQueue.pending = [] ∧
      s.kernel.processId = none

/-- While the session is exited no request passes the queue and no process ID is
written. -/
def NoLateWork (s : Lifetime) : Act → Prop
  | .proxy i (.queue _) => s.kernel.status = .exited →
      ∀ k posted, s.incarnation i = some k → k.pc = .queueing posted →
        ¬ ProxyLoop.Executes posted.msg
  | .identify _ _ => s.kernel.status ≠ .exited
  | _ => True

theorem holdsNoWork_of_wrote {s t : Lifetime} {status : Status} {reason : Option String}
    {host : Host} (hs : s.HoldsNoWork)
    (h : t.kernel = (s.kernel.setStatus status reason host).1) : t.HoldsNoWork := by
  intro hexited
  rw [h, KernelState.setStatus_executionQueue, KernelState.setStatus_processId]
  rw [h, KernelState.setStatus_status] at hexited
  by_cases hnow : s.kernel.status = .exited
  · rw [if_neg fun hboth => hboth.1 hnow, if_neg fun hboth => hboth.1 hnow]
    exact hs hnow
  · rw [if_neg fun hboth => hnow hboth.1] at hexited
    rw [if_pos ⟨hnow, hexited⟩, if_pos ⟨hnow, hexited⟩]
    exact ⟨rfl, rfl, rfl⟩

theorem step_holdsNoWork {s t : Lifetime} {a : Act} (hs : s.HoldsNoWork)
    (hC : s.NoLateWork a) (h : s.step D a = some t) : t.HoldsNoWork := by
  cases step_kernel h with
  | kept a heq =>
      intro hexited
      rw [heq.queue, heq.processId]
      exact hs (heq.status ▸ hexited)
  | wrote a status reason host hact heq => exact holdsNoWork_of_wrote hs heq
  | identified i jep66 k pid hk hchild hpid hstatus hqueue =>
      intro hexited
      exact absurd (hstatus ▸ hexited) hC
  | submitted i host k posted hk hpc hmsg heq =>
      intro hexited
      exact absurd hmsg (hC (heq.status ▸ hexited) k posted hk hpc)
  | cleared a hact heq =>
      intro hexited
      rw [heq.queue, heq.processId]
      exact ⟨rfl, rfl, (hs (heq.status ▸ hexited)).2.2⟩
  | released i host sent k message hk hpc heq =>
      intro hexited
      obtain ⟨-, hpending, hpid⟩ := hs (heq.status ▸ hexited)
      rw [heq.queue, heq.processId]
      refine ⟨?_, ?_, hpid⟩
      · simp [ExecutionQueue.nextRequest_of_nil hpending]
      · simp [ExecutionQueue.nextRequest_of_nil hpending, hpending]
  | withdrawn msgId hcall heq =>
      intro hexited
      obtain ⟨hactive, hpending, hpid⟩ := hs (heq.status ▸ hexited)
      rw [heq.queue, heq.processId]
      refine ⟨?_, ?_, hpid⟩
      · simpa using hactive
      · simp [ExecutionQueue.removePending_pending, hpending]

theorem not_holdsNoWork_of_request {s t : Lifetime} {i : ℕ} {host : Host} {k : Incarnation}
    {posted : Posted} (h : s.step D (.proxy i (.queue host)) = some t)
    (hexited : s.kernel.status = .exited) (hk : s.incarnation i = some k)
    (hpc : k.pc = .queueing posted) (hmsg : ProxyLoop.Executes posted.msg) :
    ¬ t.HoldsNoWork := by
  intro ht
  cases step_took h with
  | proxy i a k' w hk' hproxy hselect hw =>
      obtain rfl : k = k' := Option.some.inj (hk.symm.trans hk')
      have hexited' : w.kernel.status = .exited := by
        rcases ProxyLoop.step_holder hw with hsame | ⟨host', status, reason, hact, -⟩
        · exact hsame.status.trans hexited
        · cases hact
      obtain ⟨hactive, hpending, -⟩ := ht hexited'
      have hactive' : w.executionQueue.active = none := hactive
      have hpending' : w.executionQueue.pending = [] := hpending
      have hqueueing : (s.loop k).pc = .queueing posted := hpc
      cases ProxyLoop.change_queue hqueueing hw with
      | admitted host posted' hpc' hmsg' hfree hqueue hchannel hpc'' hlog =>
          rw [hqueue] at hactive'
          cases hactive'
      | queued host posted' active hpc' hmsg' htaken hqueue hchannel hpc'' hlog =>
          rw [hqueue] at hpending'
          simp at hpending'
      | cleared host posted' hpc' hmsg' hqueue hchannel hpc'' hlog =>
          obtain rfl : posted = posted' := ProxyPc.queueing.inj (hpc.symm.trans hpc')
          exact hmsg.not_clears hmsg'
      | passed host posted' hpc' hmsg' hqueue hchannel hpc'' hlog =>
          obtain rfl : posted = posted' := ProxyPc.queueing.inj (hpc.symm.trans hpc')
          exact hmsg'.1 hmsg
      | decoded a message hpc' hmessage hqueue hchannel hpc'' hlog => exact hmessage.elim
      | discarded a hpc' hqueue hchannel hpc'' hlog =>
          have hlistening : k.pc = .listening := hpc'
          rw [hpc] at hlistening
          cases hlistening
      | moved a hpc' hqueue hchannel hpc'' hlog =>
          have hfree : ProxyLoop.Free k.pc := hpc'
          rw [hpc] at hfree
          exact hfree.elim

theorem noLateWork_of_holdsNoWork {s t : Lifetime} {a : Act} (h : s.step D a = some t)
    (ht : t.HoldsNoWork) : s.NoLateWork a := by
  cases a with
  | proxy i a =>
      cases a with
      | queue host =>
          intro hexited k posted hk hpc hmsg
          exact not_holdsNoWork_of_request h hexited hk hpc hmsg ht
      | _ => trivial
  | identify i jep66 =>
      intro hexited
      obtain ⟨k, pid, -, -, -, hkernel, -⟩ := step_identify h
      rw [HoldsNoWork, hkernel] at ht
      have hnone := (ht hexited).2.2
      cases hnone
  | _ => trivial

/-- An exited session holds no work at any point of a run exactly if no request
passed the queue and no process ID was written while it was exited. -/
theorem run_holdsNoWork_iff {sessionId workingDirectory : String} {host : Host}
    {mode : InterruptMode} {connection : KernelConnection} {acts : List Act} {t : Lifetime}
    (hrun : (machine D).run (init sessionId workingDirectory host mode connection) acts =
      some t) :
    (∀ as bs u, acts = as ++ bs →
        (machine D).run (init sessionId workingDirectory host mode connection) as = some u →
        u.HoldsNoWork) ↔
      (machine D).Meets NoLateWork (init sessionId workingDirectory host mode connection)
        acts := by
  have hinit : (init sessionId workingDirectory host mode connection).HoldsNoWork :=
    fun _ => ⟨rfl, rfl, rfl⟩
  exact (machine D).forall_prefix_iff_meets (fun _ _ _ hs hC h => step_holdsNoWork hs hC h)
    (fun _ _ _ _ h ht => noLateWork_of_holdsNoWork h ht) hinit hrun

/-- The rest of `start`, up to the point where its proxy waits for messages. -/
def connecting (i : ℕ) : List Act :=
  [.launch i .connect, .launch i .proxyConnected, .listen i [], .launch i .recv,
    .launch i (.handleKernelInfo sampleHost), .select i]

def startingUp (i : ℕ) (pid : UInt32) : List Act := spawning i pid ++ connecting i

/-- The kernel exits and `run_child` marks it as exited. -/
def exiting (i : ℕ) : List Act :=
  [.launch i (.childExits 1), .launch i (.runChild sampleHost), .launch i (.runChild sampleHost),
    .launch i (.runChild sampleHost)]

/-- A kernel that exits with no work leaves none behind. -/
theorem run_holdsNoWork_iff_exiting :
    ∃ t, (machine WireMessage.sampleCodecs).run (sampleLifetime .signal)
        (startingUp 0 7 ++ exiting 0) = some t ∧
      t.kernel.status = .exited ∧ t.HoldsNoWork := by
  have hspawning : (machine WireMessage.sampleCodecs).Meets NoLateWork
      (sampleLifetime .signal) (spawning 0 7) := by
    refine ⟨trivial, fun t ht => ⟨trivial, fun u hu => ⟨trivial, fun v hv =>
      ⟨?_, fun _ _ => trivial⟩⟩⟩⟩
    cases ht
    cases hu
    cases hv
    exact fun heq => absurd heq (by decide)
  have hrest : ∀ a ∈ connecting 0 ++ exiting 0, ∀ u : Lifetime, u.NoLateWork a := by
    simp [connecting, exiting, NoLateWork]
  have hmeets : (machine WireMessage.sampleCodecs).Meets NoLateWork (sampleLifetime .signal)
      (startingUp 0 7 ++ exiting 0) := by
    rw [startingUp, List.append_assoc]
    exact Machine.meets_append _ rfl hspawning (Machine.meets_of_forall _ _ hrest)
  obtain ⟨t, hrun, hexited⟩ : ∃ t, (machine WireMessage.sampleCodecs).run
      (sampleLifetime .signal) (startingUp 0 7 ++ exiting 0) = some t ∧
        t.kernel.status = .exited := ⟨_, rfl, rfl⟩
  exact ⟨t, hrun, hexited,
    (run_holdsNoWork_iff hrun).mpr hmeets _ [] t (List.append_nil _).symm hrun⟩

/-- The proxy has a request in hand when the kernel exits, and queues it
afterwards. -/
def queuedLate : List Act :=
  startingUp 0 7 ++
    [Act.task (.post (ExecutionQueue.sampleRequest "r")), .proxy 0 .receive] ++ exiting 0 ++
    [Act.proxy 0 (.queue sampleHost)]

theorem not_holdsNoWork_queuedLate :
    ¬ ∀ (D : Codecs) (sessionId workingDirectory : String) (host : Host)
      (mode : InterruptMode) (connection : KernelConnection) (acts : List Act) (t : Lifetime),
      (machine D).run (init sessionId workingDirectory host mode connection) acts = some t →
        t.HoldsNoWork := by
  intro h
  have hwork := h WireMessage.sampleCodecs "s" "/" sampleHost .signal
    WireMessage.sampleConnection queuedLate _ rfl rfl
  have hnone := hwork.1
  cases hnone

end Lifetime

end Kallichore
