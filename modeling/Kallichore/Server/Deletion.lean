import Kallichore.Server.Sessions

/-!
# What a deletion removes

`delete_session` looks at one session and removes the first one that has its ID. From the
moment it has found the session it relies on two things: that no other session comes to be
the first of that ID, and, once it has read the status, that the session stays exited.
Nothing holds the others off. `Undisturbed` says of each step of another task what it must
not do meanwhile. An exited session has no child that runs as long as its starts are called
one after the other.
-/

namespace Kallichore

namespace SessionTable

/-- What was taken off the list is what had been looked at, and exited. -/
def SoundRemovals (s : SessionTable) : Prop :=
  ∀ removal ∈ s.removals, removal.removed = removal.checked ∧ removal.status = some .exited

/-- A call of `delete_session` other than `c` goes by a session with this ID. -/
def HeldByOther (s : SessionTable) (c : ℕ) (sessionId : String) : Prop :=
  ∃ d entry, d ≠ c ∧ (s.deleteSession d).held = some entry ∧ entry.sessionId = sessionId

/-- A call of `delete_session` goes by a session with this ID. -/
def Held (s : SessionTable) (sessionId : String) : Prop :=
  ∃ d entry, (s.deleteSession d).held = some entry ∧ entry.sessionId = sessionId

/-- The step does not come between a call of `delete_session` and its session: a session
about to be removed stays exited, no session is pushed under an ID that a call goes by and
that has left the list, and no other call brings a second session of the ID to the
front. -/
def Undisturbed (D : Codecs) (s : SessionTable) : Act → Prop
  | .session i a => ∀ c sessionId v w, s.deleteSession c = .removing sessionId i →
      s.findSession sessionId = some i → s.session i = some v → v.step D a = some w →
        w.kernel.status = .exited
  | .push c => ∀ sessionId i, s.newSession c = .created sessionId i →
      s.Held sessionId → s.findSession sessionId ≠ none
  | .remove c => ∀ sessionId i, s.deleteSession c = .removing sessionId i →
      s.HeldByOther c sessionId → (s.removeFirst sessionId).findSession sessionId = none
  | _ => True

/-- The starts of each session are called one after the other. -/
def OneAtATime (s : SessionTable) : Act → Prop
  | .session i a => ∀ session, s.session i = some session → session.OneAtATime a
  | _ => True

/-- No session is taken off the list while a child of its runs. -/
def NoneRunning (D : Codecs) (acts : List Act) : Prop :=
  ∀ as bs c u sessionId i j session, acts = as ++ .remove c :: bs →
    (machine D).run init as = some u → u.deleteSession c = .removing sessionId i →
    u.findSession sessionId = some j → u.session j = some session →
      ∀ k, (session.process k).child ≠ .running

/-! ## The first session of an ID -/

variable {D : Codecs} {s : SessionTable}

theorem setDeleteSession_deleteSession (s : SessionTable) (c d : ℕ) (pc : DeleteSessionPc) :
    (s.setDeleteSession c pc).deleteSession d = if d = c then pc else s.deleteSession d :=
  Function.update_apply _ _ _ _

theorem status_setSession (s : SessionTable) (i j : ℕ) (session : Lifetime) :
    (s.setSession i session).status j =
      if j = i then some session.kernel.status else s.status j := by
  simp only [status, setSession, Function.update_apply]
  split
  · rfl
  · rfl

theorem findSession_append (s : SessionTable) (entry : SessionEntry) (sessionId : String) :
    { s with kernelSessions := s.kernelSessions ++ [entry] }.findSession sessionId =
      (s.findSession sessionId).or
        (if entry.sessionId = sessionId then some entry.session else none) := by
  simp only [findSession, List.find?_append, Option.map_or]
  congr 1
  by_cases hsame : entry.sessionId = sessionId
  · simp [hsame]
  · simp [hsame]

theorem find?_eraseP_of_ne {l : List SessionEntry} {sessionId other : String}
    (h : other ≠ sessionId) :
    (l.eraseP fun entry => entry.sessionId = sessionId).find?
        (fun entry => entry.sessionId = other) =
      l.find? fun entry => entry.sessionId = other := by
  induction l with
  | nil => rfl
  | cons entry l ih =>
      by_cases hfirst : entry.sessionId = sessionId
      · rw [List.eraseP_cons_of_pos (by simpa using hfirst), List.find?_cons_of_neg]
        simpa [hfirst] using h.symm
      · rw [List.eraseP_cons_of_neg (by simpa using hfirst), List.find?_cons, List.find?_cons, ih]

theorem findSession_removeFirst_of_ne {sessionId other : String} (h : other ≠ sessionId) :
    (s.removeFirst sessionId).findSession other = s.findSession other := by
  rw [findSession, removeFirst, find?_eraseP_of_ne h, findSession]

/-! ## What a call of `delete_session` relies on -/

theorem held_of_removing {c i : ℕ} {sessionId : String}
    (h : s.deleteSession c = .removing sessionId i) :
    (s.deleteSession c).held = some ⟨sessionId, i⟩ := by
  rw [h]
  rfl

structure Watched (s : SessionTable) : Prop where
  removals : s.SoundRemovals
  /-- No other session is the first of the ID. -/
  held : ∀ c entry, (s.deleteSession c).held = some entry →
    s.findSession entry.sessionId = none ∨ s.findSession entry.sessionId = some entry.session
  exited : ∀ c sessionId i, s.deleteSession c = .removing sessionId i →
    s.findSession sessionId = some i → s.status i = some .exited

theorem watched_init : Watched init where
  removals _ h := by cases h
  held _ _ h := by cases h
  exited _ _ _ h := by cases h

namespace Watched

/-- A step that changes neither the list, nor a status, nor where a deletion is. -/
theorem of_same {t : SessionTable} (h : Watched s) (hlist : t.kernelSessions = s.kernelSessions)
    (hdelete : t.deleteSession = s.deleteSession) (hsession : t.session = s.session)
    (hremovals : t.removals = s.removals) : Watched t := by
  have hfind : ∀ sessionId, t.findSession sessionId = s.findSession sessionId := by
    intro sessionId
    rw [findSession, hlist, findSession]
  refine ⟨?_, ?_, ?_⟩
  · rw [SoundRemovals, hremovals]
    exact h.removals
  · intro c entry hheld
    rw [hdelete] at hheld
    rw [hfind]
    exact h.held c entry hheld
  · intro c sessionId i hpc hfirst
    rw [hdelete] at hpc
    rw [hfind] at hfirst
    rw [status, hsession]
    exact h.exited c sessionId i hpc hfirst

/-- A call of `delete_session` goes on to a place where it relies on no more than it
knows. -/
theorem setDeleteSession (h : Watched s) {c : ℕ} {pc : DeleteSessionPc}
    (hheld : ∀ entry, pc.held = some entry → s.findSession entry.sessionId = none ∨
      s.findSession entry.sessionId = some entry.session)
    (hexited : ∀ sessionId i, pc = .removing sessionId i → s.status i = some .exited) :
    Watched (s.setDeleteSession c pc) := by
  refine ⟨h.removals, ?_, ?_⟩
  · intro d entry hd
    rw [setDeleteSession_deleteSession] at hd
    split at hd
    · exact hheld entry hd
    · exact h.held d entry hd
  · intro d sessionId i hd hfirst
    rw [setDeleteSession_deleteSession] at hd
    split at hd
    · exact hexited sessionId i hd
    · exact h.exited d sessionId i hd hfirst

/-- A call of `delete_session` returns. -/
theorem returned (h : Watched s) (c : ℕ) : Watched (s.setDeleteSession c .returned) := by
  refine h.setDeleteSession ?_ ?_
  · intro entry hheld
    cases hheld
  · intro sessionId i hpc
    cases hpc

theorem setSession (h : Watched s) {i : ℕ} {session : Lifetime}
    (hexited : ∀ c sessionId, s.deleteSession c = .removing sessionId i →
      s.findSession sessionId = some i → session.kernel.status = .exited) :
    Watched (s.setSession i session) := by
  refine ⟨h.removals, h.held, ?_⟩
  intro c sessionId j hpc hfirst
  rw [status_setSession]
  split
  next hsame =>
    subst hsame
    rw [hexited c sessionId hpc hfirst]
  · exact h.exited c sessionId j hpc hfirst

theorem push (h : Watched s) {sessionId : String} {i : ℕ}
    (hC : s.Held sessionId → s.findSession sessionId ≠ none) :
    Watched { s with kernelSessions := s.kernelSessions ++ [⟨sessionId, i⟩] } := by
  have hfind : ∀ c entry, (s.deleteSession c).held = some entry →
      { s with kernelSessions := s.kernelSessions ++ [(⟨sessionId, i⟩ : SessionEntry)] }.findSession
        entry.sessionId = s.findSession entry.sessionId := by
    intro c entry hheld
    rw [findSession_append]
    cases hold : s.findSession entry.sessionId with
    | some j => rfl
    | none =>
        rw [if_neg]
        · rfl
        · rintro rfl
          exact hC ⟨c, entry, hheld, rfl⟩ hold
  refine ⟨h.removals, ?_, ?_⟩
  · intro c entry hheld
    rw [hfind c entry hheld]
    exact h.held c entry hheld
  · intro c other j hpc hfirst
    have hheld : (s.deleteSession c).held = some ⟨other, j⟩ := held_of_removing hpc
    have hsame := hfind c _ hheld
    rw [hsame] at hfirst
    exact h.exited c other j hpc hfirst

theorem removeFirst (h : Watched s) {sessionId : String}
    (hC : s.Held sessionId → (s.removeFirst sessionId).findSession sessionId = none) :
    Watched (s.removeFirst sessionId) := by
  have hfind : ∀ c entry, (s.deleteSession c).held = some entry →
      (s.removeFirst sessionId).findSession entry.sessionId = none ∨
        (s.removeFirst sessionId).findSession entry.sessionId =
          s.findSession entry.sessionId := by
    intro c entry hheld
    by_cases hid : entry.sessionId = sessionId
    · rw [hid]
      exact .inl (hC ⟨c, entry, hheld, hid⟩)
    · exact .inr (findSession_removeFirst_of_ne hid)
  refine ⟨h.removals, ?_, ?_⟩
  · intro c entry hheld
    rcases hfind c entry hheld with hnone | hsame
    · exact .inl hnone
    · rw [hsame]
      exact h.held c entry hheld
  · intro c other j hpc hfirst
    have hheld : (s.deleteSession c).held = some ⟨other, j⟩ := held_of_removing hpc
    rcases hfind c _ hheld with hnone | hsame
    · cases hnone.symm.trans hfirst
    · exact h.exited c other j hpc (hsame.symm.trans hfirst)

theorem first_eq (h : Watched s) {c i j : ℕ} {sessionId : String}
    (hpc : s.deleteSession c = .removing sessionId i)
    (hfind : s.findSession sessionId = some j) : j = i := by
  rcases h.held c _ (held_of_removing hpc) with hnone | hsome
  · cases hnone.symm.trans hfind
  · exact Option.some.inj (hfind.symm.trans hsome)

theorem remove (h : Watched s) {c i j : ℕ} {sessionId : String}
    (hpc : s.deleteSession c = .removing sessionId i) (hfind : s.findSession sessionId = some j)
    (hC : s.HeldByOther c sessionId → (s.removeFirst sessionId).findSession sessionId = none) :
    Watched { (s.setDeleteSession c .returned).removeFirst sessionId with
      removals := s.removals ++ [⟨i, j, s.status j⟩] } := by
  have hsame := h.first_eq hpc hfind
  have hothers : (s.setDeleteSession c .returned).Held sessionId → s.HeldByOther c sessionId := by
    rintro ⟨d, entry, hd, hid⟩
    rw [setDeleteSession_deleteSession] at hd
    split at hd
    · cases hd
    next hne => exact ⟨d, entry, hne, hd, hid⟩
  have hrest := (h.returned c).removeFirst fun hheld => hC (hothers hheld)
  refine ⟨?_, hrest.held, hrest.exited⟩
  intro removal hremoval
  rcases List.mem_append.mp hremoval with hremoval | hremoval
  · exact h.removals removal hremoval
  · rw [List.mem_singleton.mp hremoval, hsame]
    rw [hsame] at hfind
    exact ⟨rfl, h.exited c sessionId i hpc hfind⟩

end Watched

theorem step_watched {t : SessionTable} {a : Act} (hs : Watched s) (hC : s.Undisturbed D a)
    (h : (machine D).step s a = some t) : Watched t := by
  cases change_of_step h with
  | taken hfind => exact hs.of_same rfl rfl rfl rfl
  | free hfind => exact hs.of_same rfl rfl rfl rfl
  | createFails c => exact hs.of_same rfl rfl rfl rfl
  | create hpc hnew =>
      -- A session that is only being made is not in the list.
      refine Watched.of_same (hs.setSession ?_) rfl rfl rfl rfl
      intro c sessionId hremoving hfirst
      have hstatus := hs.exited c sessionId _ hremoving hfirst
      rw [status, hnew] at hstatus
      cases hstatus
  | push hpc => exact Watched.of_same (hs.push (hC _ _ hpc)) rfl rfl rfl rfl
  | found hfind =>
      refine hs.setDeleteSession ?_ ?_
      · intro entry hheld
        cases hheld
        exact .inr hfind
      · intro sessionId i hpc
        cases hpc
  | notFound => exact hs.returned _
  | running => exact hs.returned _
  | gone => exact hs.returned _
  | exited hpc hstatus =>
      refine hs.setDeleteSession ?_ ?_
      · intro entry hheld
        exact hs.held _ entry ((congrArg DeleteSessionPc.held hpc).trans hheld)
      · intro sessionId i hremoving
        cases hremoving
        exact hstatus
  | removed hpc hfind => exact hs.remove hpc hfind (hC _ _ hpc)
  | session hv hstep =>
      exact hs.setSession fun c sessionId hremoving hfirst =>
        hC c sessionId _ _ hremoving hfirst hv hstep

/-- The session that is about to be removed is the one that was found exited. -/
theorem Watched.exited_of_first (h : Watched s) {c i j : ℕ} {sessionId : String}
    (hpc : s.deleteSession c = .removing sessionId i) (hfind : s.findSession sessionId = some j) :
    s.status j = some .exited := by
  obtain rfl := h.first_eq hpc hfind
  exact h.exited c sessionId j hpc hfind

theorem watched_of_run {acts : List Act} {t : SessionTable}
    (hmeets : (machine D).Meets (Undisturbed D) init acts)
    (hrun : (machine D).run init acts = some t) : Watched t :=
  (machine D).run_invariant (fun _ _ _ hs hC h => step_watched hs hC h) watched_init hmeets hrun

/-! ## The children of an exited session -/

/-- What the process of each session keeps, where its starts do not overlap. -/
def Tracked (s : SessionTable) : Prop := ∀ i session, s.session i = some session → session.Tracked

theorem Tracked.setSession (hs : s.Tracked) {i : ℕ} {session : Lifetime}
    (h : session.Tracked) : Tracked (s.setSession i session) := by
  intro j v hv
  simp only [SessionTable.setSession, Function.update_apply] at hv
  split at hv
  · cases hv
    exact h
  · exact hs j v hv

theorem step_tracked {t : SessionTable} {a : Act} (hs : s.Tracked) (hC : s.OneAtATime a)
    (h : (machine D).step s a = some t) : t.Tracked := by
  cases change_of_step h with
  | create hpc hnew => exact hs.setSession (Lifetime.tracked_init _ _ _ _ _)
  | @session i a v w hv hstep =>
      exact hs.setSession (Lifetime.step_tracked (hs i v hv) (hC v hv) hstep)
  | _ => exact hs

theorem tracked_of_run {acts : List Act} {t : SessionTable}
    (hmeets : (machine D).Meets OneAtATime init acts)
    (hrun : (machine D).run init acts = some t) : t.Tracked :=
  (machine D).run_invariant (fun _ _ _ hs hC h => step_tracked hs hC h)
    (fun i session h => by cases h) hmeets hrun

theorem noneRunning_of_tracked {acts : List Act}
    (hmeets : (machine D).Meets (Undisturbed D) init acts)
    (hstarts : (machine D).Meets OneAtATime init acts) : NoneRunning D acts := by
  rintro as bs c u sessionId i j session rfl hu hpc hfind hsession k
  have hexited := (watched_of_run hmeets.of_append hu).exited_of_first hpc hfind
  rw [status, hsession] at hexited
  exact (tracked_of_run hstarts.of_append hu j session hsession).not_running
    (Option.some.inj hexited) k

/-- In every run in which nothing comes between the calls of `delete_session` and their
sessions, they remove what they have looked at, and it has exited; no child of it runs, if the
starts of a session are called one after the other. -/
theorem soundRemovals_of_undisturbed (D : Codecs) (acts : List Act) {t : SessionTable}
    (hmeets : (machine D).Meets (Undisturbed D) init acts)
    (hrun : (machine D).run init acts = some t) :
    SoundRemovals t ∧ ((machine D).Meets OneAtATime init acts → NoneRunning D acts) :=
  ⟨(watched_of_run hmeets hrun).removals, noneRunning_of_tracked hmeets⟩

/-- A session is created and its kernel could not be spawned. -/
def failing : List Act :=
  [.newSession 0 "a", making 0 0, .push 0, .session 0 (.start 0),
    .session 0 (.launch 0 (.mark sampleHost)),
    .session 0 (.launch 0 (.spawnFails "not found" sampleHost))]

def deletedAfter : List Act := failing ++ [Act.deleteSession 0 "a", .readStatus 0, .remove 0]

/-- The session is started again once its status was read. -/
def startedAgain : List Act :=
  failing ++ [Act.deleteSession 0 "a", .readStatus 0, .session 0 (.start 1),
    .session 0 (.launch 1 (.mark sampleHost)), .remove 0]

/-- The session is deleted twice, and one with its ID is created in between. -/
def recreated : List Act :=
  failing ++ [Act.deleteSession 0 "a", .readStatus 0, .deleteSession 1 "a", .readStatus 1,
    .remove 1, .newSession 1 "a", making 1 1, .push 1, .remove 0]

theorem undisturbed_of_absent (h : ∀ c, s.deleteSession c = .absent) (a : Act) :
    s.Undisturbed D a := by
  cases a with
  | session i a =>
      intro c sessionId v w hpc
      cases (h c).symm.trans hpc
  | push c =>
      rintro sessionId i - ⟨d, entry, hd, -⟩
      rw [h d] at hd
      cases hd
  | remove c =>
      intro sessionId i hpc
      cases (h c).symm.trans hpc
  | _ => trivial

theorem soundRemovals_of_undisturbed_deletedAfter :
    ∃ t, (machine WireMessage.sampleCodecs).run init deletedAfter = some t ∧
      t.kernelSessions = [] ∧ t.removals = [⟨0, 0, some .exited⟩] ∧ SoundRemovals t := by
  have hmeets : (machine WireMessage.sampleCodecs).Meets (Undisturbed WireMessage.sampleCodecs)
      init deletedAfter := by
    refine ⟨undisturbed_of_absent (fun _ => rfl) _, fun t ht => ?_⟩
    cases ht
    refine ⟨undisturbed_of_absent (fun _ => rfl) _, fun t ht => ?_⟩
    cases ht
    refine ⟨undisturbed_of_absent (fun _ => rfl) _, fun t ht => ?_⟩
    cases ht
    refine ⟨undisturbed_of_absent (fun _ => rfl) _, fun t ht => ?_⟩
    cases ht
    refine ⟨undisturbed_of_absent (fun _ => rfl) _, fun t ht => ?_⟩
    cases ht
    refine ⟨undisturbed_of_absent (fun _ => rfl) _, fun t ht => ?_⟩
    cases ht
    refine ⟨trivial, fun t ht => ⟨trivial, fun u hu => ⟨?_, fun _ _ => trivial⟩⟩⟩
    cases ht
    cases hu
    rintro sessionId i hpc -
    cases hpc
    rfl
  exact ⟨_, rfl, rfl, rfl, (soundRemovals_of_undisturbed _ _ hmeets rfl).1⟩

/-- A session that is starting is removed, and one that nobody has looked at. -/
theorem not_soundRemovals_startedAgain :
    (∃ t, (machine WireMessage.sampleCodecs).run init startedAgain = some t ∧
      t.removals = [⟨0, 0, some .starting⟩] ∧ ¬ SoundRemovals t) ∧
    ∃ t, (machine WireMessage.sampleCodecs).run init recreated = some t ∧
      t.removals = [⟨0, 0, some .exited⟩, ⟨0, 1, some .idle⟩] ∧ ¬ SoundRemovals t := by
  refine ⟨⟨_, rfl, rfl, fun h => ?_⟩, ⟨_, rfl, rfl, fun h => ?_⟩⟩
  · cases (h ⟨0, 0, some .starting⟩ List.mem_cons_self).2
  · cases (h ⟨0, 1, some .idle⟩ (List.mem_cons_of_mem _ List.mem_cons_self)).1

end SessionTable

end Kallichore
