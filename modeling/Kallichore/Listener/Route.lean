import Kallichore.StdioBridge.Link
import Kallichore.Workspaces.Registry

/-!
# Where a request to the MCP listener goes

An endpoint's URL is put together by concatenation: the address of the listener, a prefix,
the ID of the workspace, and for a client inside a kernel a segment and the session's ID.
The listener takes the path of a request apart again: it trims slashes at the end, takes
off the suffixes of the server card and of the presence stream, and splits what is left at
the first segment. A workspace's ID is checked for what it is made of. A session's ID is
not, and `routesBack_iff_nameable` says which of them come back.

The bridge reads the same paths on its own, from the whole path and not from what follows
the prefix.
-/

namespace Kallichore

namespace Listener

open StdioBridge

def cardPathSuffix : List Char := "/server-card".toList

def presencePathSuffix : List Char := "/presence".toList

def httpScheme : List Char := "http://".toList

def loopbackAddress : List Char := "127.0.0.1:".toList

def endpointUrl (port : UInt16) (workspaceId : String) : List Char :=
  httpScheme ++ loopbackAddress ++ port.toNat.repr.toList ++ mcpPathPrefix ++ workspaceId.toList

/-- The URL handed to a kernel: the workspace's endpoint, with the kernel's own session
named. -/
def sessionEndpointUrl (port : UInt16) (workspaceId sessionId : String) : List Char :=
  endpointUrl port workspaceId ++ callerPathSegment ++ sessionId.toList

/-- The path of a URL: the text between the authority and the first `?` or `#`. -/
def uriPath (url : List Char) : List Char :=
  let rest := (url.dropPrefix? httpScheme).getD url
  (rest.dropWhile fun c => c ≠ '/' ∧ c ≠ '?' ∧ c ≠ '#').takeWhile fun c => c ≠ '?' ∧ c ≠ '#'

structure Route where
  /-- The workspace. -/
  addressed : List Char
  /-- The session that the caller says it is running in. -/
  caller : Option (List Char)
  card : Bool
  presence : Bool
  deriving DecidableEq, Repr

/-- The text without a suffix, and whether it had it. -/
def stripSuffix (suffix text : List Char) : List Char × Bool :=
  match text.dropSuffix? suffix with
  | some rest => (rest, true)
  | none => (text, false)

/-- The workspace, and the session named after it. -/
def splitCaller (endpoint : List Char) : List Char × Option (List Char) :=
  match splitAtSegment callerPathSegment endpoint with
  | some (workspace, rest) =>
      let session := rest.drop callerPathSegment.length
      (workspace, if session.isEmpty then none else some session)
  | none => (endpoint, none)

/-- How `McpConnectionService::call` takes a path apart; there is no endpoint at the
others. -/
def route (path : List Char) : Option Route :=
  ((path.dropPrefix? mcpPathPrefix).map (List.rdropWhile (· == '/'))).bind fun endpoint =>
    if endpoint.isEmpty then none
    else
      let (endpoint, card) := stripSuffix cardPathSuffix endpoint
      let (endpoint, presence) := stripSuffix presencePathSuffix endpoint
      let (addressed, caller) := splitCaller endpoint
      some { addressed, caller, card, presence }

/-! ## The first segment of a text -/

theorem eq_append_of_splitAtSegment {segment text before rest : List Char}
    (h : splitAtSegment segment text = some (before, rest)) :
    text = before ++ rest ∧ segment <+: rest := by
  induction text generalizing before rest with
  | nil => cases h
  | cons c text ih =>
      rw [splitAtSegment] at h
      split at h
      next hprefix =>
        cases h
        exact ⟨rfl, List.isPrefixOf_iff_prefix.mp hprefix⟩
      next hprefix =>
        obtain ⟨⟨before', rest'⟩, hrest, heq⟩ := Option.map_eq_some_iff.mp h
        cases heq
        obtain ⟨rfl, hsegment⟩ := ih hrest
        exact ⟨rfl, hsegment⟩

theorem splitAtSegment_append {c : Char} {segment before rest : List Char} (h : c ∉ before) :
    splitAtSegment (c :: segment) (before ++ (c :: segment) ++ rest) =
      some (before, (c :: segment) ++ rest) := by
  induction before with
  | nil => simp [splitAtSegment]
  | cons d before ih =>
      rw [List.mem_cons, not_or] at h
      rw [List.cons_append, List.cons_append, splitAtSegment, if_neg, ih h.2]
      · rfl
      · simp [h.1]

theorem splitAtSegment_eq_none {c : Char} {segment text : List Char} (h : c ∉ text) :
    splitAtSegment (c :: segment) text = none := by
  induction text with
  | nil => rfl
  | cons d text ih =>
      rw [List.mem_cons, not_or] at h
      rw [splitAtSegment, if_neg, ih h.2]
      · rfl
      · simp [h.1]

/-! ## Suffixes -/

theorem rdropWhile_of_notMem {c : Char} {text : List Char} (h : c ∉ text) :
    text.rdropWhile (· == c) = text := by
  rw [List.rdropWhile_eq_self_iff]
  intro hne hlast
  exact h (eq_of_beq hlast ▸ List.getLast_mem hne)

theorem stripSuffix_of_suffix {suffix text : List Char} (h : suffix <:+ text) :
    (stripSuffix suffix text).2 = true := by
  obtain ⟨rest, rfl⟩ := h
  simp only [stripSuffix]
  have hsome : (rest ++ suffix).dropSuffix? suffix = some rest :=
    List.dropSuffix?_eq_some_iff.mpr ⟨suffix, rfl, by simp⟩
  rw [hsome]

theorem stripSuffix_of_not {suffix text : List Char} (h : ¬ suffix <:+ text) :
    stripSuffix suffix text = (text, false) := by
  simp only [stripSuffix]
  cases hstrip : text.dropSuffix? suffix with
  | none => rfl
  | some rest =>
      obtain ⟨suffix', rfl, hsame⟩ := List.dropSuffix?_eq_some_iff.mp hstrip
      rw [eq_of_beq hsame] at h
      exact absurd (List.suffix_append rest suffix) h

/-- A suffix that has one slash, in front, is found in the text after the last slash and
with it. -/
theorem suffix_append_slash_iff {suffix text rest : List Char} (h : '/' ∉ suffix) :
    '/' :: suffix <:+ text ++ '/' :: rest ↔ '/' :: suffix <:+ '/' :: rest := by
  constructor
  · intro hsuffix
    rcases List.suffix_or_suffix_of_suffix hsuffix (List.suffix_append text ('/' :: rest)) with
      hshort | hlong
    · exact hshort
    · rcases List.suffix_cons_iff.mp hlong with heq | hin
      · exact heq ▸ List.suffix_rfl
      · exact absurd (hin.subset List.mem_cons_self) h
  · intro hsuffix
    exact hsuffix.trans (List.suffix_append text ('/' :: rest))

/-! ## The path of an endpoint's URL -/

/-- The character neither separates a path nor ends it. -/
def Plain (c : Char) : Prop := c ≠ '/' ∧ c ≠ '?' ∧ c ≠ '#'

theorem plain_of_isDigit {c : Char} (h : c.isDigit = true) : Plain c := by
  refine ⟨?_, ?_, ?_⟩
  all_goals
    rintro rfl
    cases h

theorem plain_of_isLower {c : Char} (h : c.isLower = true) : Plain c := by
  refine ⟨?_, ?_, ?_⟩
  all_goals
    rintro rfl
    cases h

theorem plain_of_isValidId {w : String} (h : Workspaces.isValidId w = true) :
    w.toList ≠ [] ∧ ∀ c ∈ w.toList, Plain c := by
  simp only [Workspaces.isValidId, Bool.and_eq_true, List.all_eq_true, Bool.not_eq_true',
    List.isEmpty_eq_false_iff, Bool.or_eq_true, beq_iff_eq] at h
  obtain ⟨⟨⟨⟨hne, -⟩, -⟩, -⟩, hchars⟩ := h
  refine ⟨hne, fun c hc => ?_⟩
  rcases hchars c hc with (hlower | hdigit) | rfl
  · exact plain_of_isLower hlower
  · exact plain_of_isDigit hdigit
  · exact ⟨by decide, by decide, by decide⟩

theorem plain_of_mem_repr {n : ℕ} {c : Char} (h : c ∈ n.repr.toList) : Plain c := by
  apply plain_of_isDigit
  rw [Nat.toList_repr] at h
  exact Nat.isDigit_of_mem_toDigits (by decide) (by decide) h

theorem forall_mem_of_all {P : Char → Prop} [DecidablePred P] {text : List Char}
    (h : text.all (fun c => decide (P c)) = true) : ∀ c ∈ text, P c := by
  intro c hc
  exact of_decide_eq_true (List.all_eq_true.mp h c hc)

theorem plain_of_mem_address : ∀ c ∈ loopbackAddress, Plain c := by
  simp only [Plain]
  exact forall_mem_of_all (by decide)

theorem mem_mcpPathPrefix : ∀ c ∈ mcpPathPrefix, c ≠ '?' ∧ c ≠ '#' := by
  exact forall_mem_of_all (by decide)

theorem endpointUrl_append (port : UInt16) (w : String) (rest : List Char) :
    endpointUrl port w ++ rest = httpScheme ++
      ((loopbackAddress ++ port.toNat.repr.toList) ++
        (mcpPathPrefix ++ w.toList ++ rest)) := by
  simp only [endpointUrl, List.append_assoc]

theorem uriPath_endpointUrl (port : UInt16) {w : String} (hw : ∀ c ∈ w.toList, Plain c)
    (rest : List Char) :
    uriPath (endpointUrl port w ++ rest) =
      mcpPathPrefix ++ w.toList ++ rest.takeWhile fun c => c ≠ '?' ∧ c ≠ '#' := by
  have hauthority : ∀ c ∈ loopbackAddress ++ port.toNat.repr.toList,
      decide (c ≠ '/' ∧ c ≠ '?' ∧ c ≠ '#') = true := by
    intro c hc
    rw [decide_eq_true_eq]
    rcases List.mem_append.mp hc with hc | hc
    · exact plain_of_mem_address c hc
    · exact plain_of_mem_repr hc
  have hpath : ∀ c ∈ mcpPathPrefix ++ w.toList, decide (c ≠ '?' ∧ c ≠ '#') = true := by
    intro c hc
    rw [decide_eq_true_eq]
    rcases List.mem_append.mp hc with hc | hc
    · exact mem_mcpPathPrefix c hc
    · exact (hw c hc).2
  have hslash : (mcpPathPrefix ++ w.toList ++ rest).dropWhile
      (fun c => decide (c ≠ '/' ∧ c ≠ '?' ∧ c ≠ '#')) = mcpPathPrefix ++ w.toList ++ rest := rfl
  have hdrop : (endpointUrl port w ++ rest).dropPrefix? httpScheme =
      some ((loopbackAddress ++ port.toNat.repr.toList) ++
        (mcpPathPrefix ++ w.toList ++ rest)) := by
    rw [endpointUrl_append]
    exact List.dropPrefix?_append_of_beq _ (beq_self_eq_true _)
  simp only [uriPath, hdrop, Option.getD_some]
  rw [List.dropWhile_append_of_pos hauthority, hslash, List.takeWhile_append_of_pos hpath]

theorem callerPathSegment_eq : callerPathSegment = '/' :: "s/".toList := rfl

theorem cardPathSuffix_eq : cardPathSuffix = '/' :: "server-card".toList := rfl

theorem presencePathSuffix_eq : presencePathSuffix = '/' :: "presence".toList := rfl

/-- Where a session is named, a suffix is found in its name, and with the slash before. -/
theorem suffix_segment_iff {suffix w s : List Char} (h : '/' ∉ suffix) :
    '/' :: suffix <:+ w ++ callerPathSegment ++ s ↔ '/' :: suffix <:+ '/' :: s := by
  have hsegment : w ++ callerPathSegment ++ s = (w ++ ['/', 's']) ++ '/' :: s := by
    simp [callerPathSegment]
  rw [hsegment, suffix_append_slash_iff h]

/-! ## What comes back -/

theorem splitCaller_append {w s : List Char} (hw : '/' ∉ w) (hs : s ≠ []) :
    splitCaller (w ++ callerPathSegment ++ s) = (w, some s) := by
  have hsplit : splitAtSegment callerPathSegment (w ++ callerPathSegment ++ s) =
      some (w, callerPathSegment ++ s) := splitAtSegment_append hw
  rw [splitCaller, hsplit]
  simp [hs]

theorem eq_append_of_splitCaller {endpoint w s : List Char}
    (h : splitCaller endpoint = (w, some s)) : endpoint = w ++ callerPathSegment ++ s := by
  rw [splitCaller] at h
  split at h
  next workspace rest hsplit =>
    obtain ⟨rfl, ⟨session, rfl⟩⟩ := eq_append_of_splitAtSegment hsplit
    rw [List.drop_left] at h
    simp only [Prod.mk.injEq] at h
    obtain ⟨rfl, h⟩ := h
    obtain ⟨-, h⟩ := Option.ite_none_left_eq_some.mp h
    cases h
    exact (List.append_assoc _ _ _).symm
  · cases h

theorem route_append (rest : List Char) :
    route (mcpPathPrefix ++ rest) =
      let endpoint := rest.rdropWhile (· == '/')
      if endpoint.isEmpty then none
      else
        let (endpoint, card) := stripSuffix cardPathSuffix endpoint
        let (endpoint, presence) := stripSuffix presencePathSuffix endpoint
        let (addressed, caller) := splitCaller endpoint
        some { addressed, caller, card, presence } := by
  have hdrop : (mcpPathPrefix ++ rest).dropPrefix? mcpPathPrefix = some rest :=
    List.dropPrefix?_append_of_beq rest (beq_self_eq_true mcpPathPrefix)
  rw [route, hdrop]
  rfl

theorem route_of_plain {rest : List Char} (hne : rest.rdropWhile (· == '/') ≠ [])
    (hcard : ¬ cardPathSuffix <:+ rest.rdropWhile (· == '/'))
    (hpresence : ¬ presencePathSuffix <:+ rest.rdropWhile (· == '/')) :
    route (mcpPathPrefix ++ rest) =
      some ⟨(splitCaller (rest.rdropWhile (· == '/'))).1,
        (splitCaller (rest.rdropWhile (· == '/'))).2, false, false⟩ := by
  rw [route_append]
  simp only [List.isEmpty_iff, hne, if_false, stripSuffix_of_not hcard,
    stripSuffix_of_not hpresence]

theorem not_suffix_of_route {rest w : List Char} {caller : Option (List Char)}
    (h : route (mcpPathPrefix ++ rest) = some ⟨w, caller, false, false⟩) :
    ¬ cardPathSuffix <:+ rest.rdropWhile (· == '/') ∧
      ¬ presencePathSuffix <:+ rest.rdropWhile (· == '/') := by
  obtain ⟨-, h⟩ := Option.ite_none_left_eq_some.mp ((route_append rest).symm.trans h)
  have hcard : ¬ cardPathSuffix <:+ rest.rdropWhile (· == '/') := by
    intro hsuffix
    have hstrip := stripSuffix_of_suffix hsuffix
    simp only [Option.some.injEq, Route.mk.injEq] at h
    cases hstrip.symm.trans h.2.2.1
  rw [stripSuffix_of_not hcard] at h
  refine ⟨hcard, fun hsuffix => ?_⟩
  have hstrip := stripSuffix_of_suffix hsuffix
  simp only [Option.some.injEq, Route.mk.injEq] at h
  cases hstrip.symm.trans h.2.2.2

/-- A path that is read as one with a caller, and as neither a card's nor a presence
stream's. -/
theorem route_eq_session_iff {rest w s : List Char} (hw : '/' ∉ w) (hs : s ≠ []) :
    route (mcpPathPrefix ++ rest) = some ⟨w, some s, false, false⟩ ↔
      rest.rdropWhile (· == '/') = w ++ callerPathSegment ++ s ∧
        ¬ cardPathSuffix <:+ '/' :: s ∧ ¬ presencePathSuffix <:+ '/' :: s := by
  have hcard : cardPathSuffix <:+ w ++ callerPathSegment ++ s ↔ cardPathSuffix <:+ '/' :: s := by
    rw [cardPathSuffix_eq]
    exact suffix_segment_iff (by decide)
  have hpresence : presencePathSuffix <:+ w ++ callerPathSegment ++ s ↔
      presencePathSuffix <:+ '/' :: s := by
    rw [presencePathSuffix_eq]
    exact suffix_segment_iff (by decide)
  constructor
  · intro h
    obtain ⟨hnocard, hnopresence⟩ := not_suffix_of_route h
    obtain ⟨hne, -⟩ := Option.ite_none_left_eq_some.mp ((route_append rest).symm.trans h)
    rw [route_of_plain (by simpa using hne) hnocard hnopresence] at h
    simp only [Option.some.injEq, Route.mk.injEq, and_true] at h
    have hrest := eq_append_of_splitCaller (Prod.ext h.1 h.2)
    rw [hrest] at hnocard hnopresence
    exact ⟨hrest, fun hc => hnocard (hcard.mpr hc), fun hp => hnopresence (hpresence.mpr hp)⟩
  · rintro ⟨hrest, hnocard, hnopresence⟩
    rw [← hcard, ← hrest] at hnocard
    rw [← hpresence, ← hrest] at hnopresence
    rw [route_of_plain _ hnocard hnopresence, hrest, splitCaller_append hw hs]
    rw [hrest]
    simp [hs]

/-- The URLs of a workspace's endpoint lead back to the workspace, and to the session where
one is named. -/
structure RoutesBack (port : UInt16) (w s : String) : Prop where
  session : route (uriPath (sessionEndpointUrl port w s)) =
    some ⟨w.toList, some s.toList, false, false⟩
  workspace : route (uriPath (endpointUrl port w)) = some ⟨w.toList, none, false, false⟩

/-- The session's ID can be named in a path: nothing in it ends the path, it does not end in
a slash, and its last part is not one of the listener's own. -/
structure Nameable (s : String) : Prop where
  inPath : ∀ c ∈ s.toList, c ≠ '?' ∧ c ≠ '#'
  trimmed : s.toList.getLast? ≠ some '/'
  card : ¬ cardPathSuffix <:+ '/' :: s.toList
  presence : ¬ presencePathSuffix <:+ '/' :: s.toList

theorem uriPath_sessionEndpointUrl (port : UInt16) {w : String} (hw : ∀ c ∈ w.toList, Plain c)
    (s : String) :
    uriPath (sessionEndpointUrl port w s) = mcpPathPrefix ++
      (w.toList ++ callerPathSegment ++ s.toList.takeWhile fun c => c ≠ '?' ∧ c ≠ '#') := by
  have hsegment : ∀ c ∈ callerPathSegment, decide (c ≠ '?' ∧ c ≠ '#') = true :=
    forall_mem_of_all (by decide)
  rw [sessionEndpointUrl, List.append_assoc, uriPath_endpointUrl port hw,
    List.takeWhile_append_of_pos hsegment]
  simp only [List.append_assoc]

theorem route_endpointUrl (port : UInt16) {w : String} (hw : Workspaces.isValidId w = true) :
    route (uriPath (endpointUrl port w)) = some ⟨w.toList, none, false, false⟩ := by
  obtain ⟨hne, hplain⟩ := plain_of_isValidId hw
  have hslash : '/' ∉ w.toList := fun h => (hplain '/' h).1 rfl
  have hpath : uriPath (endpointUrl port w) = mcpPathPrefix ++ w.toList := by
    have h := uriPath_endpointUrl port hplain []
    rwa [List.append_nil, List.takeWhile_nil, List.append_nil] at h
  have htrim : w.toList.rdropWhile (· == '/') = w.toList := rdropWhile_of_notMem hslash
  have hsuffix : ∀ suffix : List Char, ¬ '/' :: suffix <:+ w.toList :=
    fun suffix h => hslash (h.subset List.mem_cons_self)
  have hsplit : splitCaller w.toList = (w.toList, none) := by
    rw [splitCaller, callerPathSegment_eq, splitAtSegment_eq_none hslash]
  rw [hpath, route_of_plain, htrim, hsplit]
  · rw [htrim]
    exact hne
  · rw [htrim]
    exact hsuffix _
  · rw [htrim]
    exact hsuffix _

theorem rdropWhile_takeWhile_iff {text s : List Char} (hs : s ≠ []) :
    (text ++ s.takeWhile fun c => c ≠ '?' ∧ c ≠ '#').rdropWhile (· == '/') = text ++ s ↔
      (∀ c ∈ s, c ≠ '?' ∧ c ≠ '#') ∧ s.getLast? ≠ some '/' := by
  have hlast : (text ++ s).rdropWhile (· == '/') = text ++ s ↔ s.getLast? ≠ some '/' := by
    rw [List.rdropWhile_eq_self_iff, List.getLast?_eq_some_getLast hs]
    simp [hs]
  constructor
  · intro h
    have hprefix : text ++ s <+: text ++ s.takeWhile fun c => c ≠ '?' ∧ c ≠ '#' := by
      rw [← h]
      exact List.rdropWhile_prefix _ _
    have heq : (s.takeWhile fun c => c ≠ '?' ∧ c ≠ '#') = s :=
      (List.takeWhile_prefix _).eq_of_length_le
        ((List.prefix_append_right_inj text).mp hprefix).length_le
    rw [heq] at h
    refine ⟨?_, hlast.mp h⟩
    intro c hc
    have hall := List.takeWhile_eq_self_iff.mp heq c hc
    exact of_decide_eq_true hall
  · rintro ⟨hpath, htrim⟩
    have heq : (s.takeWhile fun c => c ≠ '?' ∧ c ≠ '#') = s :=
      List.takeWhile_eq_self_iff.mpr fun c hc => decide_eq_true (hpath c hc)
    rw [heq]
    exact hlast.mpr htrim

/-- The URLs of a workspace's endpoint lead back exactly if the session's ID can be named in
a path. -/
theorem routesBack_iff_nameable (port : UInt16) (w s : String)
    (hw : Workspaces.isValidId w = true) (hs : s ≠ "") : RoutesBack port w s ↔ Nameable s := by
  obtain ⟨-, hplain⟩ := plain_of_isValidId hw
  have hslash : '/' ∉ w.toList := fun h => (hplain '/' h).1 rfl
  have hne : s.toList ≠ [] := by simpa using hs
  have hroute := @route_eq_session_iff
    (w.toList ++ callerPathSegment ++ s.toList.takeWhile fun c => c ≠ '?' ∧ c ≠ '#')
    w.toList s.toList hslash hne
  rw [← uriPath_sessionEndpointUrl port hplain, rdropWhile_takeWhile_iff hne] at hroute
  constructor
  · intro h
    obtain ⟨⟨hpath, htrim⟩, hcard, hpresence⟩ := hroute.mp h.session
    exact ⟨hpath, htrim, hcard, hpresence⟩
  · intro h
    exact ⟨hroute.mpr ⟨⟨h.inPath, h.trimmed⟩, h.card, h.presence⟩, route_endpointUrl port hw⟩

theorem routesBack_iff_nameable_hyphen :
    Workspaces.isValidId "my-project-h7k2qa" = true ∧
      RoutesBack 4567 "my-project-h7k2qa" "python-1" := by
  have hvalid : Workspaces.isValidId "my-project-h7k2qa" = true := by decide
  refine ⟨hvalid, (routesBack_iff_nameable 4567 _ "python-1" hvalid (by decide)).mpr ?_⟩
  exact ⟨forall_mem_of_all (by decide), by decide, by decide, by decide⟩

/-- A session that is named like the presence stream. -/
theorem not_routesBack_presence :
    Workspaces.isValidId "w" = true ∧
      route (uriPath (sessionEndpointUrl 4567 "w" "presence")) =
        some ⟨"w/s".toList, none, false, true⟩ ∧
      ¬ RoutesBack 4567 "w" "presence" := by
  have hroute : route (uriPath (sessionEndpointUrl 4567 "w" "presence")) =
      some ⟨"w/s".toList, none, false, true⟩ := by decide +kernel
  refine ⟨by decide, hroute, fun h => ?_⟩
  cases hroute.symm.trans h.session

end Listener

end Kallichore
