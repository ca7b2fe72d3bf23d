import Kallichore.Lib.Machine
import Mathlib.Data.List.Nodup
import Mathlib.Data.UInt
import Mathlib.Logic.Function.Basic

/-!
# Reserved ports

A kernel that does not register itself is given five ports to listen on. They are picked one
by one: the operating system offers a port that is unused at the moment, and a list of
reserved ports, shared by all sessions, keeps those of other kernels that start meanwhile
out. Whether a port is in the list is looked up under a read lock; the port is put into it
under a write lock of its own.
-/

namespace Kallichore

/-- How many ports a connection file has. -/
def portsPerFile : ℕ := 5

/-- The most times that a reserved port is passed over for one socket. -/
def maxTries : ℕ := 10

/-- Where a call of `ConnectionFile::generate` is. -/
inductive GeneratePc
  | absent
  /-- About to pick a port, for the given time again. -/
  | picking (tries : ℕ)
  /-- The port is not reserved; about to reserve it. -/
  | reserving (port : UInt16)
  | generated
  | failed
  deriving DecidableEq

/-- A call of `ConnectionFile::generate`, with the ports it has reserved: for control, shell,
iopub, heartbeat and stdin, in this order. -/
structure Generate where
  pc : GeneratePc
  ports : List UInt16
  deriving DecidableEq

namespace Generate

def absent : Generate := ⟨.absent, []⟩

def called : Generate := ⟨.picking 0, []⟩

/-- One turn of the loop in `find_port`: a port is picked, and looked up in the list. -/
def pick (g : Generate) (reservedPorts : List UInt16) (tries : ℕ) : Option UInt16 → Generate
  | none => { g with pc := .failed }
  | some candidate =>
      if candidate ∈ reservedPorts then
        if maxTries < tries + 1 then { g with pc := .failed }
        else { g with pc := .picking (tries + 1) }
      else { g with pc := .reserving candidate }

/-- The port is reserved: go on with the next socket, or be done. -/
def reserve (g : Generate) (port : UInt16) : Generate :=
  let ports := g.ports ++ [port]
  { pc := if ports.length = portsPerFile then .generated else .picking 0
    ports }

/-- The connection file, once it is generated. -/
def file (g : Generate) : Option (List UInt16) :=
  if g.pc = .generated then some g.ports else none

end Generate

/-- The reserved ports, and the calls that share them. -/
structure PortList where
  reservedPorts : List UInt16
  generate : ℕ → Generate

namespace PortList

inductive Act
  | generate (c : ℕ)
  /-- A port is picked, or there is none, and it is looked up under the read lock. -/
  | pick (c : ℕ) (port : Option UInt16)
  | reserve (c : ℕ)

def setGenerate (s : PortList) (c : ℕ) (g : Generate) : PortList :=
  { s with generate := Function.update s.generate c g }

def step (s : PortList) : Act → Option PortList
  | .generate c =>
      match (s.generate c).pc with
      | .absent => some (s.setGenerate c .called)
      | _ => none
  | .pick c port =>
      match (s.generate c).pc with
      | .picking tries =>
          some (s.setGenerate c ((s.generate c).pick s.reservedPorts tries port))
      | _ => none
  | .reserve c =>
      match (s.generate c).pc with
      | .reserving port => some { s.setGenerate c ((s.generate c).reserve port) with
          reservedPorts := s.reservedPorts ++ [port] }
      | _ => none

def machine : Machine PortList Act := ⟨step⟩

def init : PortList where
  reservedPorts := []
  generate := fun _ => .absent

structure Unshared (s : PortList) : Prop where
  nodup : s.reservedPorts.Nodup
  /-- A connection file has five ports, all different. -/
  distinct : ∀ c file, (s.generate c).file = some file → file.length = 5 ∧ file.Nodup
  disjoint : ∀ c d file file', c ≠ d → (s.generate c).file = some file →
    (s.generate d).file = some file' → file.Disjoint file'

/-- A port is reserved only if looking it up again, under the write lock, would find it not
reserved. -/
def StillUnreserved (s : PortList) : Act → Prop
  | .reserve c => ∀ port, (s.generate c).pc = .reserving port → port ∉ s.reservedPorts
  | _ => True

instance (s : PortList) : (a : Act) → Decidable (s.StillUnreserved a)
  | .generate _ => isTrue trivial
  | .pick _ _ => isTrue trivial
  | .reserve c =>
      match h : (s.generate c).pc with
      | .reserving port => decidable_of_iff (port ∉ s.reservedPorts) (by simp [StillUnreserved, h])
      | .absent | .picking _ | .generated | .failed => isTrue (by simp [StillUnreserved, h])

inductive Change (s : PortList) : Act → PortList → Prop
  | generate {c : ℕ} (hpc : (s.generate c).pc = .absent) :
      Change s (.generate c) (s.setGenerate c .called)
  | pick {c tries : ℕ} {port : Option UInt16} (hpc : (s.generate c).pc = .picking tries) :
      Change s (.pick c port) (s.setGenerate c ((s.generate c).pick s.reservedPorts tries port))
  | reserve {c : ℕ} {port : UInt16} (hpc : (s.generate c).pc = .reserving port) :
      Change s (.reserve c) { s.setGenerate c ((s.generate c).reserve port) with
        reservedPorts := s.reservedPorts ++ [port] }

theorem change_of_step {s t : PortList} {a : Act} (h : machine.step s a = some t) :
    Change s a t := by
  change step s a = some t at h
  cases a with
  | generate c =>
      simp only [step] at h
      split at h
      · cases h
        exact .generate ‹_›
      · cases h
  | pick c port =>
      simp only [step] at h
      split at h
      · cases h
        exact .pick ‹_›
      · cases h
  | reserve c =>
      simp only [step] at h
      split at h
      · cases h
        exact .reserve ‹_›
      · cases h

end PortList

namespace Generate

/-- How far a call has come: it has the five ports exactly when it is done. -/
def Counted (g : Generate) : Prop :=
  match g.pc with
  | .absent => g.ports = []
  | .picking _ | .reserving _ => g.ports.length < portsPerFile
  | .generated => g.ports.length = portsPerFile
  | .failed => True

theorem counted_called : called.Counted := Nat.zero_lt_succ 4

theorem ports_of_absent {g : Generate} (h : g.Counted) (hpc : g.pc = .absent) : g.ports = [] := by
  rwa [Counted, hpc] at h

theorem pick_ports (g : Generate) (reservedPorts : List UInt16) (tries : ℕ)
    (port : Option UInt16) : (g.pick reservedPorts tries port).ports = g.ports := by
  cases port with
  | none => rfl
  | some candidate =>
      rw [pick]
      split
      · split
        · rfl
        · rfl
      · rfl

theorem counted_pick {g : Generate} {reservedPorts : List UInt16} {tries : ℕ}
    {port : Option UInt16} (h : g.Counted) (hpc : g.pc = .picking tries) :
    (g.pick reservedPorts tries port).Counted := by
  rw [Counted, hpc] at h
  cases port with
  | none => trivial
  | some candidate =>
      rw [pick]
      split
      · split
        · trivial
        · exact h
      · exact h

theorem counted_reserve {g : Generate} {port : UInt16} (h : g.Counted)
    (hpc : g.pc = .reserving port) : (g.reserve port).Counted := by
  rw [Counted, hpc] at h
  simp only at h
  by_cases hfull : (g.ports ++ [port]).length = portsPerFile
  · have hdone : (g.reserve port).pc = .generated := if_pos hfull
    rw [Counted, hdone]
    exact hfull
  · have hnext : (g.reserve port).pc = .picking 0 := if_neg hfull
    rw [Counted, hnext]
    change (g.ports ++ [port]).length < portsPerFile
    rw [List.length_append, List.length_singleton] at hfull ⊢
    omega

theorem file_eq_some_iff {g : Generate} {file : List UInt16} :
    g.file = some file ↔ g.pc = .generated ∧ g.ports = file := by
  rw [Generate.file, Option.ite_none_right_eq_some, Option.some.injEq]

end Generate

namespace PortList

variable {s t : PortList} {a : Act}

theorem setGenerate_generate (s : PortList) (c d : ℕ) (g : Generate) :
    (s.setGenerate c g).generate d = if d = c then g else s.generate d :=
  Function.update_apply _ _ _ _

/-- What the calls that are under way have reserved is theirs. -/
structure Owned (s : PortList) : Prop where
  nodup : s.reservedPorts.Nodup
  counted : ∀ c, (s.generate c).Counted
  reserved : ∀ c port, port ∈ (s.generate c).ports → port ∈ s.reservedPorts
  distinct : ∀ c, (s.generate c).ports.Nodup
  own : ∀ c d port, port ∈ (s.generate c).ports → port ∈ (s.generate d).ports → c = d

theorem owned_init : Owned init where
  nodup := List.nodup_nil
  counted _ := rfl
  reserved _ _ h := by cases h
  distinct _ := List.nodup_nil
  own _ _ _ h := by cases h

theorem Owned.setGenerate (h : Owned s) {c : ℕ} {g : Generate} (hcounted : g.Counted)
    (hports : g.ports = (s.generate c).ports) : Owned (s.setGenerate c g) := by
  have hsame : ∀ d, ((s.setGenerate c g).generate d).ports = (s.generate d).ports := by
    intro d
    rw [setGenerate_generate]
    split
    next hd => rw [hd, hports]
    · rfl
  refine ⟨h.nodup, ?_, ?_, ?_, ?_⟩
  · intro d
    rw [setGenerate_generate]
    split
    · exact hcounted
    · exact h.counted d
  · intro d port hport
    rw [hsame] at hport
    exact h.reserved d port hport
  · intro d
    rw [hsame]
    exact h.distinct d
  · intro d e port hd he
    rw [hsame] at hd he
    exact h.own d e port hd he

theorem Owned.reserve (h : Owned s) {c : ℕ} {port : UInt16}
    (hpc : (s.generate c).pc = .reserving port) (hport : port ∉ s.reservedPorts) :
    Owned { s.setGenerate c ((s.generate c).reserve port) with
      reservedPorts := s.reservedPorts ++ [port] } := by
  have hmem : ∀ d p, p ∈ ((s.setGenerate c ((s.generate c).reserve port)).generate d).ports ↔
      p ∈ (s.generate d).ports ∨ d = c ∧ p = port := by
    intro d p
    rw [setGenerate_generate]
    split
    next hd => simp [hd, Generate.reserve]
    next hd => simp [hd]
  have hnew : ∀ d, port ∉ (s.generate d).ports := fun d hd => hport (h.reserved d port hd)
  refine ⟨?_, ?_, ?_, ?_, ?_⟩
  · rw [← List.concat_eq_append, List.nodup_concat]
    exact ⟨hport, h.nodup⟩
  · intro d
    simp only [setGenerate_generate]
    split
    · exact Generate.counted_reserve (h.counted c) hpc
    · exact h.counted d
  · intro d p hp
    rcases (hmem d p).mp hp with hp | ⟨-, rfl⟩
    · exact List.mem_append_left _ (h.reserved d p hp)
    · exact List.mem_append_right _ (List.mem_singleton_self p)
  · intro d
    simp only [setGenerate_generate]
    split
    · change ((s.generate c).ports ++ [port]).Nodup
      rw [← List.concat_eq_append, List.nodup_concat]
      exact ⟨hnew c, h.distinct c⟩
    · exact h.distinct d
  · intro d e p hd he
    rcases (hmem d p).mp hd with hold | ⟨hdc, hp⟩
    · rcases (hmem e p).mp he with hold' | ⟨-, hp⟩
      · exact h.own d e p hold hold'
      · exact absurd (hp ▸ hold) (hnew d)
    · rcases (hmem e p).mp he with hold' | ⟨hec, -⟩
      · exact absurd (hp ▸ hold') (hnew e)
      · exact hdc.trans hec.symm

theorem step_owned (hs : Owned s) (hC : s.StillUnreserved a) (h : machine.step s a = some t) :
    Owned t := by
  cases change_of_step h with
  | generate hpc =>
      exact hs.setGenerate Generate.counted_called
        (Generate.ports_of_absent (hs.counted _) hpc).symm
  | pick hpc =>
      exact hs.setGenerate (Generate.counted_pick (hs.counted _) hpc)
        (Generate.pick_ports _ _ _ _)
  | reserve hpc => exact hs.reserve hpc (hC _ hpc)

theorem Owned.unshared (h : Owned s) : Unshared s where
  nodup := h.nodup
  distinct c file hfile := by
    obtain ⟨hpc, rfl⟩ := Generate.file_eq_some_iff.mp hfile
    have hcounted := h.counted c
    rw [Generate.Counted, hpc] at hcounted
    exact ⟨hcounted, h.distinct c⟩
  disjoint c d file file' hne hc hd := by
    obtain ⟨-, rfl⟩ := Generate.file_eq_some_iff.mp hc
    obtain ⟨-, rfl⟩ := Generate.file_eq_some_iff.mp hd
    exact fun port hport hport' => hne (h.own c d port hport hport')

theorem stillUnreserved_of_unshared (h : machine.step s a = some t) (ht : Unshared t) :
    s.StillUnreserved a := by
  cases change_of_step h with
  | generate => trivial
  | pick => trivial
  | reserve hpc =>
      intro port hport
      cases hpc.symm.trans hport
      have hnodup := ht.nodup
      rw [← List.concat_eq_append, List.nodup_concat] at hnodup
      exact hnodup.1

/-- No port is shared all along a run exactly if every port is still unreserved where it is
reserved. -/
theorem unshared_iff_stillUnreserved (acts : List Act) {t : PortList}
    (hrun : machine.run init acts = some t) :
    (∀ bs cs u, acts = bs ++ cs → machine.run init bs = some u → Unshared u) ↔
      machine.Meets StillUnreserved init acts :=
  machine.forall_prefix_iff_meets_of (fun _ _ _ hs hC h => step_owned hs hC h)
    (fun _ h => h.unshared) (fun _ _ _ _ h ht => stillUnreserved_of_unshared h ht) owned_init hrun

def taking (c : ℕ) (port : UInt16) : List Act := [.pick c (some port), .reserve c]

/-- Two calls at the same time, the second of which is offered a port of the first. -/
def interleaved : List Act :=
  [Act.generate 0, .generate 1, .pick 0 (some 9000), .pick 1 (some 9001), .reserve 1, .reserve 0,
    .pick 1 (some 9000)] ++ taking 1 9002 ++ taking 0 9003 ++ taking 1 9004 ++ taking 0 9005 ++
    taking 1 9006 ++ taking 0 9007 ++ taking 1 9008 ++ taking 0 9009

theorem unshared_iff_stillUnreserved_interleaved :
    ∃ t, machine.run init interleaved = some t ∧
      (t.generate 0).file = some [9000, 9003, 9005, 9007, 9009] ∧
      (t.generate 1).file = some [9001, 9002, 9004, 9006, 9008] ∧
      ∀ bs cs u, interleaved = bs ++ cs → machine.run init bs = some u → Unshared u := by
  refine ⟨_, rfl, by decide, by decide, ?_⟩
  exact (unshared_iff_stillUnreserved interleaved rfl).mpr (by decide)

/-- Two calls look a port up before either has reserved it. -/
def sharing : List Act :=
  [.generate 0, .generate 1, .pick 0 (some 9000), .pick 1 (some 9000), .reserve 0, .reserve 1]

theorem not_unshared_sharing :
    ∃ t, machine.run init sharing = some t ∧ t.reservedPorts = [9000, 9000] ∧ ¬ Unshared t := by
  refine ⟨_, rfl, rfl, fun h => ?_⟩
  have hnodup : ([9000, 9000] : List UInt16).Nodup := h.nodup
  revert hnodup
  decide

end PortList

end Kallichore
