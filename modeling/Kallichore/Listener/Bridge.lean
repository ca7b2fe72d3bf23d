import Kallichore.Listener.Route

/-!
# Two readings of one path

The stdio bridge takes an endpoint's path apart as the listener does, to keep a kernel's
session named when its workspace has moved to another port. It looks for the segment in
the whole path, and the slash that ends the prefix can be the beginning of one: that is the
case for one workspace ID.
-/

namespace Kallichore

namespace Listener

open StdioBridge

/-- The bridge reads the endpoint of a session as the listener does, and names the session
at the workspace's plain endpoint so that the listener finds it. -/
structure ReadsAlike (w s : String) (endpoint plain : Endpoint) : Prop where
  workspaceId : endpoint.workspaceId = some w
  callerSuffix : endpoint.callerSuffix = some (callerPathSegment ++ s.toList)
  routed : route (plain.withCaller endpoint.callerSuffix).path =
    some ⟨w.toList, some s.toList, false, false⟩

/-- An ASCII letter, a digit or a hyphen. -/
def isIdChar (c : Char) : Bool := c.isAlphanum || c == '-'

theorem plain_of_isIdChar {c : Char} (h : isIdChar c = true) : Plain c := by
  refine ⟨?_, ?_, ?_⟩
  all_goals
    rintro rfl
    cases h

theorem splitCaller_ne_some_nil (endpoint : List Char) : (splitCaller endpoint).2 ≠ some [] := by
  intro h
  rw [splitCaller] at h
  split at h
  · obtain ⟨hne, h⟩ := Option.ite_none_left_eq_some.mp h
    simp only [Option.some.injEq] at h
    rw [h] at hne
    exact hne rfl
  · cases h

theorem route_ne_some_nil {rest w : List Char} {card presence : Bool} :
    route (mcpPathPrefix ++ rest) ≠ some ⟨w, some [], card, presence⟩ := by
  intro h
  obtain ⟨-, h⟩ := Option.ite_none_left_eq_some.mp ((route_append rest).symm.trans h)
  simp only [Option.some.injEq, Route.mk.injEq] at h
  exact splitCaller_ne_some_nil _ h.2.1

theorem mcpPathPrefix_append (rest : List Char) :
    mcpPathPrefix ++ rest = '/' :: 'm' :: 'c' :: 'p' :: '/' :: 'w' :: '/' :: rest := rfl

theorem segment_isPrefixOf_iff {w : List Char} (hw : '/' ∉ w) (s : List Char) :
    callerPathSegment.isPrefixOf ('/' :: (w ++ callerPathSegment ++ s)) = true ↔ w = ['s'] := by
  have hsegment : callerPathSegment = ['/', 's', '/'] := rfl
  rw [List.isPrefixOf_iff_prefix, hsegment]
  constructor
  · rintro ⟨rest, hrest⟩
    cases w with
    | nil => cases hrest
    | cons c w =>
        cases w with
        | nil =>
            simp only [List.cons_append, List.cons.injEq, true_and] at hrest
            rw [← hrest.1]
        | cons d w =>
            simp only [List.cons_append, List.cons.injEq, true_and] at hrest
            rw [← hrest.2.1] at hw
            simp at hw
  · rintro rfl
    exact ⟨'s' :: '/' :: s, rfl⟩

/-- The whole path has the segment where the workspace's ID ends, unless the ID is the
segment's own letter. -/
theorem splitAtSegment_path {w : List Char} (hw : '/' ∉ w) (s : List Char) :
    splitAtSegment callerPathSegment (mcpPathPrefix ++ (w ++ callerPathSegment ++ s)) =
      if w = ['s'] then some ("/mcp/w".toList, callerPathSegment ++ 's' :: '/' :: s)
      else some (mcpPathPrefix ++ w, callerPathSegment ++ s) := by
  have hskip : splitAtSegment callerPathSegment (mcpPathPrefix ++ (w ++ callerPathSegment ++ s)) =
      (splitAtSegment callerPathSegment ('/' :: (w ++ callerPathSegment ++ s))).map
        fun split => ("/mcp/w".toList ++ split.1, split.2) := by
    rw [mcpPathPrefix_append]
    simp [splitAtSegment, callerPathSegment, Function.comp_def]
  have hrest : splitAtSegment callerPathSegment (w ++ callerPathSegment ++ s) =
      some (w, callerPathSegment ++ s) := splitAtSegment_append hw
  rw [hskip, splitAtSegment, hrest]
  split
  next hprefix =>
    rw [segment_isPrefixOf_iff hw] at hprefix
    rw [if_pos hprefix, hprefix]
    rfl
  next hprefix =>
    rw [segment_isPrefixOf_iff hw] at hprefix
    rw [if_neg hprefix]
    rfl

/-! ## Where the readings agree -/

theorem suffix_cons_iff_eq {suffix s : List Char} (hs : '/' ∉ s) :
    '/' :: suffix <:+ '/' :: s ↔ suffix = s := by
  constructor
  · intro h
    rcases List.suffix_cons_iff.mp h with heq | hin
    · exact List.cons_injective heq
    · exact absurd (hin.subset List.mem_cons_self) hs
  · rintro rfl
    exact List.suffix_rfl

/-- The workspace's ID is read from what follows the prefix, and is always the right one. -/
theorem workspaceId_eq {w : String} {s : List Char} {endpoint : Endpoint}
    (hw : Workspaces.isValidId w = true)
    (hpath : endpoint.path = mcpPathPrefix ++ (w.toList ++ callerPathSegment ++ s)) :
    endpoint.workspaceId = some w := by
  obtain ⟨hne, hplain⟩ := plain_of_isValidId hw
  have hslash : '/' ∉ w.toList := fun h => (hplain '/' h).1 rfl
  have hdrop : endpoint.path.dropPrefix? mcpPathPrefix =
      some (w.toList ++ callerPathSegment ++ s) := by
    rw [hpath]
    exact List.dropPrefix?_append_of_beq _ (beq_self_eq_true mcpPathPrefix)
  have hsplit : splitAtSegment callerPathSegment (w.toList ++ callerPathSegment ++ s) =
      some (w.toList, callerPathSegment ++ s) := splitAtSegment_append hslash
  rw [Endpoint.workspaceId, hdrop]
  simp only [Option.bind_some, hsplit, Option.map_some, Option.getD_some,
    rdropWhile_of_notMem hslash, List.isEmpty_iff, hne, if_false, String.ofList_toList]

theorem callerSuffix_eq_iff {w s : List Char} {endpoint : Endpoint} (hw : '/' ∉ w)
    (hpath : endpoint.path = mcpPathPrefix ++ (w ++ callerPathSegment ++ s)) :
    endpoint.callerSuffix = some (callerPathSegment ++ s) ↔ w ≠ ['s'] := by
  rw [Endpoint.callerSuffix, hpath, splitAtSegment_path hw]
  split
  next heq =>
    refine iff_of_false ?_ (not_not.mpr heq)
    intro h
    have hlength := congrArg List.length (Option.some.inj h)
    simp only [List.length_append, List.length_cons] at hlength
    omega
  next hne => exact iff_of_true rfl hne

/-- The listener's reading of the plain endpoint with the session named there. -/
theorem route_withCaller_iff {w s : List Char} {plain : Endpoint} (hw : '/' ∉ w) (hne : w ≠ [])
    (hs : '/' ∉ s) (hcard : s ≠ "server-card".toList) (hpresence : s ≠ "presence".toList)
    (hpath : plain.path = mcpPathPrefix ++ w) :
    route (plain.withCaller (some (callerPathSegment ++ s))).path =
      some ⟨w, some s, false, false⟩ ↔ s ≠ [] := by
  have htrim : (mcpPathPrefix ++ w).rdropWhile (· == '/') = mcpPathPrefix ++ w := by
    rw [List.rdropWhile_eq_self_iff]
    intro hl hlast
    rw [List.getLast_append_of_ne_nil hl hne] at hlast
    exact hw (beq_iff_eq.mp hlast ▸ List.getLast_mem hne)
  have hroute : (plain.withCaller (some (callerPathSegment ++ s))).path =
      mcpPathPrefix ++ (w ++ callerPathSegment ++ s) := by
    simp only [Endpoint.withCaller, hpath, htrim, List.append_assoc]
  rw [hroute]
  constructor
  · rintro h rfl
    exact route_ne_some_nil h
  · intro hsne
    rw [route_eq_session_iff hw hsne, cardPathSuffix_eq, presencePathSuffix_eq,
      suffix_cons_iff_eq hs, suffix_cons_iff_eq hs]
    refine ⟨?_, hcard.symm, hpresence.symm⟩
    rw [List.rdropWhile_eq_self_iff]
    intro hl hlast
    rw [List.getLast_append_of_ne_nil hl hsne] at hlast
    exact hs (beq_iff_eq.mp hlast ▸ List.getLast_mem hsne)

/-- The bridge and the listener read a session's endpoint alike, exactly if the workspace's
ID is not the segment's own letter and a session is named. -/
theorem readsAlike_iff (port port' : UInt16) (w s : String) (endpoint plain : Endpoint)
    (hw : Workspaces.isValidId w = true) (hs : ∀ c ∈ s.toList, isIdChar c = true)
    (hpresence : s ≠ "presence") (hcard : s ≠ "server-card")
    (hpath : endpoint.path = uriPath (sessionEndpointUrl port w s))
    (hplain : plain.path = uriPath (endpointUrl port' w)) :
    ReadsAlike w s endpoint plain ↔ w ≠ "s" ∧ s ≠ "" := by
  obtain ⟨hne, hchars⟩ := plain_of_isValidId hw
  have hslash : '/' ∉ w.toList := fun h => (hchars '/' h).1 rfl
  have hsslash : '/' ∉ s.toList := fun h => (plain_of_isIdChar (hs '/' h)).1 rfl
  have htake : (s.toList.takeWhile fun c => c ≠ '?' ∧ c ≠ '#') = s.toList :=
    List.takeWhile_eq_self_iff.mpr fun c hc => decide_eq_true (plain_of_isIdChar (hs c hc)).2
  rw [uriPath_sessionEndpointUrl port hchars, htake] at hpath
  have hplain' : plain.path = mcpPathPrefix ++ w.toList := by
    have h := uriPath_endpointUrl port' hchars []
    rw [List.append_nil, List.takeWhile_nil, List.append_nil] at h
    exact hplain.trans h
  have hid := workspaceId_eq hw hpath
  have hsuffix := callerSuffix_eq_iff hslash hpath
  have hroute := route_withCaller_iff hslash hne hsslash
    (fun h => hcard (String.toList_injective h))
    (fun h => hpresence (String.toList_injective h)) hplain'
  have hletter : w.toList ≠ ['s'] ↔ w ≠ "s" := not_congr (@String.toList_inj w "s")
  have hempty : s.toList ≠ [] ↔ s ≠ "" := not_congr String.toList_eq_nil_iff
  rw [← hletter, ← hempty, ← hsuffix]
  constructor
  · intro h
    have hrouted := h.routed
    rw [h.callerSuffix] at hrouted
    exact ⟨h.callerSuffix, hroute.mp hrouted⟩
  · rintro ⟨hcaller, hnamed⟩
    refine ⟨hid, hcaller, ?_⟩
    rw [hcaller]
    exact hroute.mpr hnamed

/-- The endpoint of a kernel's session, and the workspace's at another port. -/
theorem readsAlike_iff_moved :
    ReadsAlike "my-project-h7k2qa" "python-1"
      ⟨"127.0.0.1", 4567, uriPath (sessionEndpointUrl 4567 "my-project-h7k2qa" "python-1"), "t"⟩
      ⟨"127.0.0.1", 5678, uriPath (endpointUrl 5678 "my-project-h7k2qa"), "t"⟩ :=
  (readsAlike_iff 4567 5678 "my-project-h7k2qa" "python-1" _ _ (by decide)
    (forall_mem_of_all (by decide)) (by decide) (by decide) rfl rfl).mpr ⟨by decide, by decide⟩

/-- In the workspace `s` the first segment is the one that the prefix ends with, and the
session is called by another name. -/
theorem not_readsAlike_letter :
    let endpoint : Endpoint :=
      ⟨"127.0.0.1", 4567, uriPath (sessionEndpointUrl 4567 "s" "x"), "t"⟩
    let plain : Endpoint := ⟨"127.0.0.1", 5678, uriPath (endpointUrl 5678 "s"), "t"⟩
    Workspaces.isValidId "s" = true ∧ endpoint.callerSuffix = some "/s/s/x".toList ∧
      route (plain.withCaller endpoint.callerSuffix).path =
        some ⟨"s".toList, some "s/x".toList, false, false⟩ ∧
      ¬ ReadsAlike "s" "x" endpoint plain := by
  refine ⟨by decide, by decide +kernel, by decide +kernel, fun h => ?_⟩
  have heq := h.callerSuffix
  revert heq
  decide +kernel

end Listener

end Kallichore
