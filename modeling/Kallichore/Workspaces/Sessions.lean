import Kallichore.Workspaces.Registry

/-!
# The sessions a workspace can reach

A tool call acts for one workspace and picks a session among those visible to it:
the sessions the workspace created, and those it claims that no registered
workspace owns. `Agree` relates two states of the server that differ only in what
belongs to another workspace; what is visible, and what `resolve_session` picks, is
the same in both.
-/

namespace Kallichore

/-- A session, as far as tool calls choose among them. -/
structure KernelSession where
  sessionId : String
  /-- The workspace that created the session. -/
  workspaceId : Option String
  displayName : String
  language : String
  deriving DecidableEq

namespace Workspaces

variable (workspaces : Workspaces)

/-- The sessions a workspace says it holds. -/
def sessionIds (workspaceId : String) : List String :=
  ((workspaces.lookup workspaceId).map Workspace.sessionIds).getD []

/-- The session a workspace's windows last reported as foreground. -/
def foregroundSession (workspaceId : String) : Option String :=
  (workspaces.lookup workspaceId).bind Workspace.foregroundSessionId

/-- No registered workspace owns the session. -/
def unowned (session : KernelSession) : Bool :=
  match session.workspaceId with
  | none => true
  | some owner => owner ∉ workspaces.keys

def isVisible (workspaceId : String) (session : KernelSession) : Bool :=
  session.workspaceId == some workspaceId ||
    workspaces.unowned session && (workspaces.sessionIds workspaceId).contains session.sessionId

/-- The sessions the workspace can reach, and how many of the others there are. -/
def visibleSessions (sessions : List KernelSession) (workspaceId : String) :
    List KernelSession × ℕ :=
  let visible := sessions.filter (workspaces.isVisible workspaceId)
  (visible, sessions.length - visible.length)

def notVisibleError (sessionId : String) : Value :=
  .object [("status", .string "error"), ("code", .string "SESSION_NOT_VISIBLE"),
    ("session_id", .string sessionId),
    ("message", .string ("That session belongs to one of the user's other Positron " ++
      "workspaces. You can only reach the sessions of the workspace you are attached to."))]

def notFoundError (sessionId : String) : Value :=
  .object [("status", .string "error"), ("code", .string "SESSION_NOT_FOUND"),
    ("session_id", .string sessionId),
    ("message", .string ("No session has that session_id. Call list_sessions to see the " ++
      "sessions that are running."))]

def noSessionError (elsewhere : ℕ) : Value :=
  .object [("status", .string "error"), ("code", .string "NO_SESSION_SELECTED"),
    ("message", .string (if 0 < elsewhere then
      "This Positron workspace has no interpreter sessions running; the ones in the user's " ++
      "other workspaces are not yours to use. Start one with run_positron_command using " ++
      "workbench.action.language.runtime.startNewConsoleSession."
    else
      "No interpreter sessions are running. Start one with run_positron_command using " ++
      "workbench.action.language.runtime.startNewConsoleSession.")),
    ("candidates", .array [])]

def candidate (session : KernelSession) : Value :=
  .object [("session_id", .string session.sessionId),
    ("display_name", .string session.displayName), ("language", .string session.language)]

def severalSessionsError (sessions : List KernelSession) : Value :=
  .object [("status", .string "error"), ("code", .string "NO_SESSION_SELECTED"),
    ("message", .string ("Several sessions are running and none is in the foreground. Pass " ++
      "session_id explicitly.")),
    ("candidates", .array (sessions.map candidate))]

def onlySession (visible : List KernelSession) (elsewhere : ℕ) : Except Value KernelSession :=
  match visible with
  | [session] => .ok session
  | [] => .error (noSessionError elsewhere)
  | sessions => .error (severalSessionsError sessions)

/-- Pick the session a tool call should target: an explicit ID, or the foreground
session, or the only one. -/
def resolveSession (sessions : List KernelSession) (workspaceId : String)
    (requested : Option String) : Except Value KernelSession :=
  let (visible, elsewhere) := workspaces.visibleSessions sessions workspaceId
  match requested with
  | some sessionId =>
      match visible.find? fun session => session.sessionId == sessionId with
      | some session => .ok session
      | none =>
          .error (if sessions.any fun session => session.sessionId == sessionId then
            notVisibleError sessionId else notFoundError sessionId)
  | none =>
      match (workspaces.foregroundSession workspaceId).bind fun foreground =>
          visible.find? fun session => session.sessionId == foreground with
      | some session => .ok session
      | none => onlySession visible elsewhere

/-- Two states of the server that differ in the sessions that the workspace `other`
owns and in its record, which there is in both. -/
structure Agree (other : String) (workspaces workspaces' : Workspaces)
    (sessions sessions' : List KernelSession) : Prop where
  registered : other ∈ workspaces ∧ other ∈ workspaces'
  records : ∀ id, id ≠ other → workspaces'.lookup id = workspaces.lookup id
  sessions : (sessions'.filter fun session => session.workspaceId != some other) =
    sessions.filter fun session => session.workspaceId != some other

variable {workspaces}

theorem isVisible_iff {workspaceId : String} {session : KernelSession} :
    workspaces.isVisible workspaceId session = true ↔
      session.workspaceId = some workspaceId ∨
        (∀ owner, session.workspaceId = some owner → owner ∉ workspaces) ∧
          session.sessionId ∈ workspaces.sessionIds workspaceId := by
  unfold isVisible unowned
  cases session.workspaceId with
  | none => simp
  | some owner => simp [AList.mem_keys]

theorem isVisible_of_owned {workspaceId other : String} {session : KernelSession}
    (hother : other ∈ workspaces) (hne : workspaceId ≠ other)
    (howner : session.workspaceId = some other) :
    workspaces.isVisible workspaceId session = false := by
  rw [← Bool.not_eq_true, isVisible_iff]
  rintro (h | ⟨hunowned, -⟩)
  · exact hne (Option.some.inj (h.symm.trans howner))
  · exact hunowned other howner hother

namespace Agree

variable {other workspaceId : String} {workspaces' : Workspaces}
  {sessions sessions' : List KernelSession}

theorem mem_iff (h : Agree other workspaces workspaces' sessions sessions') (id : String) :
    id ∈ workspaces' ↔ id ∈ workspaces := by
  by_cases hid : id = other
  · rw [hid]
    exact iff_of_true h.registered.2 h.registered.1
  · rw [← AList.lookup_isSome, ← AList.lookup_isSome, h.records id hid]

/-- What a workspace can see of a session does not depend on the other one. -/
theorem isVisible_eq (h : Agree other workspaces workspaces' sessions sessions')
    (hne : workspaceId ≠ other) (session : KernelSession) :
    workspaces'.isVisible workspaceId session = workspaces.isVisible workspaceId session := by
  rw [Bool.eq_iff_iff, isVisible_iff, isVisible_iff]
  simp only [sessionIds, h.records workspaceId hne, h.mem_iff]

theorem visible_eq (h : Agree other workspaces workspaces' sessions sessions')
    (hne : workspaceId ≠ other) :
    (workspaces'.visibleSessions sessions' workspaceId).1 =
      (workspaces.visibleSessions sessions workspaceId).1 := by
  -- those that the other workspace owns are filtered out anyway
  have hfilter : ∀ list : List KernelSession,
      list.filter (workspaces.isVisible workspaceId) =
        (list.filter fun session => session.workspaceId != some other).filter
          (workspaces.isVisible workspaceId) := by
    intro list
    rw [List.filter_filter]
    apply List.filter_congr
    intro session _
    by_cases howner : session.workspaceId = some other
    · simp [isVisible_of_owned h.registered.1 hne howner]
    · simp [howner]
  have hsame : workspaces'.isVisible workspaceId = workspaces.isVisible workspaceId :=
    funext (h.isVisible_eq hne)
  simp only [visibleSessions]
  rw [hsame, hfilter sessions', hfilter sessions, h.sessions]

end Agree

/-- The session that is picked, if one is, depends on what is visible and on the
workspace's own record only. -/
theorem toOption_resolveSession (sessions : List KernelSession) (workspaceId : String)
    (requested : Option String) :
    (workspaces.resolveSession sessions workspaceId requested).toOption =
      match requested with
      | some sessionId => (workspaces.visibleSessions sessions workspaceId).1.find?
          fun session => session.sessionId == sessionId
      | none =>
          ((workspaces.foregroundSession workspaceId).bind fun foreground =>
            (workspaces.visibleSessions sessions workspaceId).1.find?
              fun session => session.sessionId == foreground) <|>
          (onlySession (workspaces.visibleSessions sessions workspaceId).1 0).toOption := by
  cases requested with
  | some sessionId =>
      simp only [resolveSession]
      split
      · rename_i session hfind
        rw [hfind]
        rfl
      · rename_i hfind
        rw [hfind]
        rfl
  | none =>
      simp only [resolveSession]
      split
      · rename_i session hfind
        rw [hfind]
        rfl
      · rename_i hfind
        rw [hfind]
        unfold onlySession
        split <;> rfl

/-- Of two registered workspaces, neither sees the sessions the other owns; a
session that both see has no registered owner and is claimed by both; and what one
of them picks is not changed by what the other has. -/
theorem workspaces_isolated (workspaces : Workspaces) (sessions : List KernelSession)
    {w₁ w₂ : String} (h₁ : w₁ ∈ workspaces) (h₂ : w₂ ∈ workspaces) (hne : w₁ ≠ w₂) :
    (∀ session ∈ (workspaces.visibleSessions sessions w₁).1, session.workspaceId ≠ some w₂) ∧
    (∀ session, session ∈ (workspaces.visibleSessions sessions w₁).1 →
      session ∈ (workspaces.visibleSessions sessions w₂).1 →
        (∀ owner, session.workspaceId = some owner → owner ∉ workspaces) ∧
        session.sessionId ∈ workspaces.sessionIds w₁ ∧
        session.sessionId ∈ workspaces.sessionIds w₂) ∧
    ∀ workspaces' sessions' requested, Agree w₂ workspaces workspaces' sessions sessions' →
      (workspaces'.resolveSession sessions' w₁ requested).toOption =
        (workspaces.resolveSession sessions w₁ requested).toOption := by
  refine ⟨?_, ?_, ?_⟩
  · intro session hmem howner
    have hvisible := (List.mem_filter.mp hmem).2
    rw [isVisible_of_owned h₂ hne howner] at hvisible
    cases hvisible
  · intro session hmem₁ hmem₂
    have hvisible₁ := isVisible_iff.mp (List.mem_filter.mp hmem₁).2
    have hvisible₂ := isVisible_iff.mp (List.mem_filter.mp hmem₂).2
    obtain howner₁ | ⟨hunowned, hclaimed₁⟩ := hvisible₁
    · obtain howner₂ | ⟨hunowned, -⟩ := hvisible₂
      · exact absurd (Option.some.inj (howner₁.symm.trans howner₂)) hne
      · exact absurd h₁ (hunowned w₁ howner₁)
    · obtain howner₂ | ⟨-, hclaimed₂⟩ := hvisible₂
      · exact absurd h₂ (hunowned w₂ howner₂)
      · exact ⟨hunowned, hclaimed₁, hclaimed₂⟩
  · intro workspaces' sessions' requested hagree
    rw [toOption_resolveSession, toOption_resolveSession, hagree.visible_eq hne]
    simp only [foregroundSession, hagree.records w₁ hne]

/-- Workspace `a` claims its own session and one of `b`'s, and gets its own as the
only one, also after `b` has closed a session. -/
theorem workspaces_isolated_claimed :
    ∃ workspaces : Workspaces, ∃ sessions sessions' : List KernelSession,
      "a" ∈ workspaces ∧ "b" ∈ workspaces ∧
      workspaces.sessionIds "a" = ["s", "t"] ∧ sessions ≠ sessions' ∧
      (workspaces.resolveSession sessions "a" none).toOption =
        some ⟨"s", some "a", "S", "R"⟩ ∧
      (workspaces.resolveSession sessions' "a" none).toOption =
        (workspaces.resolveSession sessions "a" none).toOption := by
  refine ⟨AList.insert "a" { Workspace.new "A" "x" with sessionIds := ["s", "t"] }
      (AList.insert "b" (Workspace.new "B" "y") ∅),
    [⟨"s", some "a", "S", "R"⟩, ⟨"t", some "b", "T", "R"⟩], [⟨"s", some "a", "S", "R"⟩],
    by decide, by decide, rfl, by decide, by rfl, ?_⟩
  refine (workspaces_isolated _ _ (show "a" ∈ _ by decide) (show "b" ∈ _ by decide)
    (by decide)).2.2 _ _ _ ?_
  exact ⟨by decide, fun _ _ => rfl, by decide⟩

end Workspaces

end Kallichore
