import Kallichore.Lifetime.Process

/-!
# The list of sessions

The server finds its sessions by their IDs in one list behind a lock. `new_session` looks
under the read lock whether an ID is taken, makes the session, and pushes it under the
write lock. `delete_session` finds a session under the read lock, reads its status, and
takes the first session with the ID out under the write lock. Between the steps of one call
all others may be taken: those of other calls, and those of the sessions themselves.

`uniqueIds_iff_stillFree` says when no two sessions have one ID.
-/

namespace Kallichore

structure SessionEntry where
  sessionId : String
  session : ℕ
  deriving DecidableEq

/-- Where a call of `new_session` is. -/
inductive NewSessionPc
  | absent
  /-- The ID was not taken; the session is being made. -/
  | creating (sessionId : String)
  /-- The session is made; about to push it. -/
  | created (sessionId : String) (session : ℕ)
  | returned
  deriving DecidableEq

/-- Where a call of `delete_session` is. -/
inductive DeleteSessionPc
  | absent
  /-- The session is found; about to read its status. -/
  | found (sessionId : String) (session : ℕ)
  /-- The session was exited; about to take it off the list. -/
  | removing (sessionId : String) (session : ℕ)
  | returned
  deriving DecidableEq

/-- The session that a call of `delete_session` goes by. -/
def DeleteSessionPc.held : DeleteSessionPc → Option SessionEntry
  | .found sessionId session | .removing sessionId session => some ⟨sessionId, session⟩
  | .absent | .returned => none

/-- What a call of `delete_session` took off the list. -/
structure Removal where
  /-- The session whose status it read. -/
  checked : ℕ
  removed : ℕ
  /-- The status of the removed session, at that moment. -/
  status : Option Status
  deriving DecidableEq

structure SessionTable where
  kernelSessions : List SessionEntry
  session : ℕ → Option Lifetime
  newSession : ℕ → NewSessionPc
  deleteSession : ℕ → DeleteSessionPc
  removals : List Removal

namespace SessionTable

inductive Act
  /-- `new_session` looks whether the ID is taken. -/
  | newSession (c : ℕ) (sessionId : String)
  | create (c i : ℕ) (workingDirectory : String) (host : Host) (mode : InterruptMode)
      (connection : KernelConnection)
  | createFails (c : ℕ)
  | push (c : ℕ)
  /-- `delete_session` looks for the session. -/
  | deleteSession (c : ℕ) (sessionId : String)
  | readStatus (c : ℕ)
  | remove (c : ℕ)
  /-- A step of a session, by any of the tasks that hold it. -/
  | session (i : ℕ) (a : Lifetime.Act)

def findSession (s : SessionTable) (sessionId : String) : Option ℕ :=
  (s.kernelSessions.find? fun entry => entry.sessionId = sessionId).map SessionEntry.session

def setNewSession (s : SessionTable) (c : ℕ) (pc : NewSessionPc) : SessionTable :=
  { s with newSession := Function.update s.newSession c pc }

def setDeleteSession (s : SessionTable) (c : ℕ) (pc : DeleteSessionPc) : SessionTable :=
  { s with deleteSession := Function.update s.deleteSession c pc }

def setSession (s : SessionTable) (i : ℕ) (session : Lifetime) : SessionTable :=
  { s with session := Function.update s.session i (some session) }

def status (s : SessionTable) (i : ℕ) : Option Status :=
  (s.session i).map fun session => session.kernel.status

/-- Take the first session with the ID off the list. -/
def removeFirst (s : SessionTable) (sessionId : String) : SessionTable :=
  { s with
    kernelSessions := s.kernelSessions.eraseP fun entry => entry.sessionId = sessionId }

def step (D : Codecs) (s : SessionTable) : Act → Option SessionTable
  | .newSession c sessionId =>
      match s.newSession c with
      | .absent =>
          match s.findSession sessionId with
          | some _ => some (s.setNewSession c .returned)
          | none => some (s.setNewSession c (.creating sessionId))
      | _ => none
  | .create c i workingDirectory host mode connection =>
      match s.newSession c, s.session i with
      | .creating sessionId, none =>
          let session := Lifetime.init sessionId workingDirectory host mode connection
          some ((s.setSession i session).setNewSession c (.created sessionId i))
      | _, _ => none
  | .createFails c =>
      match s.newSession c with
      | .creating _ => some (s.setNewSession c .returned)
      | _ => none
  | .push c =>
      match s.newSession c with
      | .created sessionId i => some { s.setNewSession c .returned with
          kernelSessions := s.kernelSessions ++ [⟨sessionId, i⟩] }
      | _ => none
  | .deleteSession c sessionId =>
      match s.deleteSession c with
      | .absent =>
          match s.findSession sessionId with
          | some i => some (s.setDeleteSession c (.found sessionId i))
          | none => some (s.setDeleteSession c .returned)
      | _ => none
  | .readStatus c =>
      match s.deleteSession c with
      | .found sessionId i =>
          if s.status i = some .exited then some (s.setDeleteSession c (.removing sessionId i))
          else some (s.setDeleteSession c .returned)
      | _ => none
  | .remove c =>
      match s.deleteSession c with
      | .removing sessionId i =>
          match s.findSession sessionId with
          | some j => some { (s.setDeleteSession c .returned).removeFirst sessionId with
              removals := s.removals ++ [⟨i, j, s.status j⟩] }
          | none => some (s.setDeleteSession c .returned)
      | _ => none
  | .session i a =>
      (s.session i).bind fun session => (session.step D a).map fun session =>
        s.setSession i session

def machine (D : Codecs) : Machine SessionTable Act := ⟨step D⟩

def init : SessionTable where
  kernelSessions := []
  session := fun _ => none
  newSession := fun _ => .absent
  deleteSession := fun _ => .absent
  removals := []

inductive Change (D : Codecs) (s : SessionTable) : Act → SessionTable → Prop
  | taken {c i : ℕ} {sessionId : String} (hfind : s.findSession sessionId = some i) :
      Change D s (.newSession c sessionId) (s.setNewSession c .returned)
  | free {c : ℕ} {sessionId : String} (hfind : s.findSession sessionId = none) :
      Change D s (.newSession c sessionId) (s.setNewSession c (.creating sessionId))
  | create {c i : ℕ} {sessionId workingDirectory : String} {host : Host} {mode : InterruptMode}
      {connection : KernelConnection} (hpc : s.newSession c = .creating sessionId)
      (hnew : s.session i = none) :
      Change D s (.create c i workingDirectory host mode connection)
        ((s.setSession i (.init sessionId workingDirectory host mode connection)).setNewSession c
          (.created sessionId i))
  | createFails (c : ℕ) : Change D s (.createFails c) (s.setNewSession c .returned)
  | push {c i : ℕ} {sessionId : String} (hpc : s.newSession c = .created sessionId i) :
      Change D s (.push c) { s.setNewSession c .returned with
        kernelSessions := s.kernelSessions ++ [⟨sessionId, i⟩] }
  | found {c i : ℕ} {sessionId : String} (hfind : s.findSession sessionId = some i) :
      Change D s (.deleteSession c sessionId) (s.setDeleteSession c (.found sessionId i))
  | notFound {c : ℕ} {sessionId : String} :
      Change D s (.deleteSession c sessionId) (s.setDeleteSession c .returned)
  | exited {c i : ℕ} {sessionId : String} (hpc : s.deleteSession c = .found sessionId i)
      (hstatus : s.status i = some .exited) :
      Change D s (.readStatus c) (s.setDeleteSession c (.removing sessionId i))
  | running {c : ℕ} : Change D s (.readStatus c) (s.setDeleteSession c .returned)
  | removed {c i j : ℕ} {sessionId : String} (hpc : s.deleteSession c = .removing sessionId i)
      (hfind : s.findSession sessionId = some j) :
      Change D s (.remove c) { (s.setDeleteSession c .returned).removeFirst sessionId with
        removals := s.removals ++ [⟨i, j, s.status j⟩] }
  | gone {c : ℕ} : Change D s (.remove c) (s.setDeleteSession c .returned)
  | session {i : ℕ} {a : Lifetime.Act} {v w : Lifetime} (hv : s.session i = some v)
      (hstep : v.step D a = some w) : Change D s (.session i a) (s.setSession i w)

variable {D : Codecs}

theorem change_of_step {s t : SessionTable} {a : Act} (h : (machine D).step s a = some t) :
    Change D s a t := by
  change step D s a = some t at h
  cases a with
  | newSession c sessionId =>
      simp only [step] at h
      split at h
      · split at h
        · cases h
          exact .taken ‹_›
        · cases h
          exact .free ‹_›
      · cases h
  | create c i workingDirectory host mode connection =>
      simp only [step] at h
      split at h
      · cases h
        exact .create ‹_› ‹_›
      · cases h
  | createFails c =>
      simp only [step] at h
      split at h
      · cases h
        exact .createFails c
      · cases h
  | push c =>
      simp only [step] at h
      split at h
      · cases h
        exact .push ‹_›
      · cases h
  | deleteSession c sessionId =>
      simp only [step] at h
      split at h
      · split at h
        · cases h
          exact .found ‹_›
        · cases h
          exact .notFound
      · cases h
  | readStatus c =>
      simp only [step] at h
      split at h
      · split at h
        · cases h
          exact .exited ‹_› ‹_›
        · cases h
          exact .running
      · cases h
  | remove c =>
      simp only [step] at h
      split at h
      · split at h
        · cases h
          exact .removed ‹_› ‹_›
        · cases h
          exact .gone
      · cases h
  | session i a =>
      obtain ⟨v, hv, h⟩ := Option.bind_eq_some_iff.mp h
      obtain ⟨w, hw, rfl⟩ := Option.map_eq_some_iff.mp h
      exact .session hv hw

/-! ## One session for an ID -/

/-- No two sessions in the list have the same ID. -/
def UniqueIds (s : SessionTable) : Prop := (s.kernelSessions.map SessionEntry.sessionId).Nodup

/-- A session is pushed only if the check of its ID, made again under the write lock, would
pass. -/
def StillFree (s : SessionTable) : Act → Prop
  | .push c => ∀ sessionId i, s.newSession c = .created sessionId i →
      s.findSession sessionId = none
  | _ => True

theorem findSession_eq_none_iff {s : SessionTable} {sessionId : String} :
    s.findSession sessionId = none ↔
      sessionId ∉ s.kernelSessions.map SessionEntry.sessionId := by
  simp [findSession]

theorem nodup_append_singleton_iff {l : List SessionEntry} {entry : SessionEntry} :
    ((l ++ [entry]).map SessionEntry.sessionId).Nodup ↔
      (l.map SessionEntry.sessionId).Nodup ∧
        entry.sessionId ∉ l.map SessionEntry.sessionId := by
  rw [List.map_append, List.map_singleton, ← List.concat_eq_append, List.nodup_concat]
  exact and_comm

theorem step_uniqueIds {s t : SessionTable} {a : Act} (hs : UniqueIds s) (hC : StillFree s a)
    (h : (machine D).step s a = some t) : UniqueIds t := by
  cases change_of_step h with
  | push hpc =>
      exact nodup_append_singleton_iff.mpr ⟨hs, findSession_eq_none_iff.mp (hC _ _ hpc)⟩
  | removed hpc hfind => exact hs.sublist (List.eraseP_sublist.map _)
  | taken hfind => exact hs
  | free hfind => exact hs
  | create hpc hnew => exact hs
  | createFails c => exact hs
  | found hfind => exact hs
  | notFound => exact hs
  | exited hpc hstatus => exact hs
  | running => exact hs
  | gone => exact hs
  | session hv hstep => exact hs

theorem stillFree_of_uniqueIds {s t : SessionTable} {a : Act}
    (h : (machine D).step s a = some t) (ht : UniqueIds t) : StillFree s a := by
  cases change_of_step h with
  | push hpc =>
      intro sessionId i hpc'
      cases hpc.symm.trans hpc'
      exact findSession_eq_none_iff.mpr (nodup_append_singleton_iff.mp ht).2
  | taken => trivial
  | free => trivial
  | create => trivial
  | createFails => trivial
  | found => trivial
  | notFound => trivial
  | exited => trivial
  | running => trivial
  | removed => trivial
  | gone => trivial
  | session => trivial

/-- The IDs are unique all along a run exactly if no session is pushed after another with
its ID. -/
theorem uniqueIds_iff_stillFree (D : Codecs) (acts : List Act) {t : SessionTable}
    (hrun : (machine D).run init acts = some t) :
    (∀ bs cs u, acts = bs ++ cs → (machine D).run init bs = some u → UniqueIds u) ↔
      (machine D).Meets StillFree init acts :=
  (machine D).forall_prefix_iff_meets (fun _ _ _ hs hC h => step_uniqueIds hs hC h)
    (fun _ _ _ _ h ht => stillFree_of_uniqueIds h ht) List.nodup_nil hrun

def making (c i : ℕ) : Act := .create c i "/" sampleHost .signal WireMessage.sampleConnection

def inTurn : List Act :=
  [.newSession 0 "a", making 0 0, .push 0, .newSession 1 "a", .newSession 2 "b", making 2 1,
    .push 2]

theorem uniqueIds_iff_stillFree_inTurn :
    ∃ t, (machine WireMessage.sampleCodecs).run init inTurn = some t ∧
      t.kernelSessions.map SessionEntry.sessionId = ["a", "b"] ∧
      ∀ bs cs u, inTurn = bs ++ cs →
        (machine WireMessage.sampleCodecs).run init bs = some u → UniqueIds u := by
  refine ⟨_, rfl, rfl, (uniqueIds_iff_stillFree WireMessage.sampleCodecs inTurn rfl).mpr ?_⟩
  refine ⟨trivial, fun t ht => ⟨trivial, fun u hu => ⟨?_, fun v hv => ⟨trivial, fun w hw =>
    ⟨trivial, fun x hx => ⟨trivial, fun y hy => ⟨?_, fun _ _ => trivial⟩⟩⟩⟩⟩⟩⟩
  · cases ht
    cases hu
    intro sessionId i hpc
    cases hpc
    rfl
  · cases ht
    cases hu
    cases hv
    cases hw
    cases hx
    cases hy
    intro sessionId i hpc
    cases hpc
    rfl

/-- Two calls look for the ID before either has pushed its session. -/
def atOnce : List Act :=
  [.newSession 0 "a", .newSession 1 "a", making 0 0, making 1 1, .push 0, .push 1]

theorem not_uniqueIds_atOnce :
    ∃ t, (machine WireMessage.sampleCodecs).run init atOnce = some t ∧ ¬ UniqueIds t := by
  refine ⟨_, rfl, ?_⟩
  change ¬ (["a", "a"] : List String).Nodup
  decide

end SessionTable

end Kallichore
