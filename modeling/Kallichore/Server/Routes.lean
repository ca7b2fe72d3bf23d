import Kallichore.Listener.Presence

/-!
# From the client's path to the operation

The generated client writes the ID of a session or a workspace into a path, percent-encoded
for a set that has neither the percent sign nor any of the characters that end a segment or a
path. The generated server matches the path against one pattern for each kind of path, takes
the first operation whose method and pattern fit, and decodes what stands for the ID. In front
of it, requests for a websocket are taken out by patterns of their own.

IDs of sessions are chosen by clients and not checked. `served_clientRequest_iff` says which
of them can be used with the operations, at the root of a server, and `serve_eq` that taking the websockets out agrees
with the generated matching.
-/

namespace Kallichore

namespace Routes

open Kallichore.Listener

inductive Method
  | get
  | put
  | post
  | delete
  | other
  deriving DecidableEq, Repr

/-- The operations of the API, without what they are given. -/
inductive OperationId
  | clientHeartbeat
  | getServerConfiguration
  | listSessions
  | newSession
  | registerMcpWorkspace
  | serverStatus
  | setServerConfiguration
  | shutdownServer
  | adoptSession
  | channelsUpgrade
  | connectionInfo
  | deleteSession
  | deregisterMcpWorkspace
  | executeCode
  | getSession
  | getSessionHistory
  | interruptSession
  | killSession
  | mcpWorkspaceChannel
  | restartSession
  | startSession
  deriving DecidableEq, Repr

/-- A pattern of paths: a text, or an ID between two texts. -/
inductive Pattern
  | fixed (path : List Char)
  | withId (before after : List Char)
  deriving DecidableEq, Repr

def sessionsPath : List Char := "/sessions/".toList

def workspacesPath : List Char := "/mcp/workspaces/".toList

namespace OperationId

def method : OperationId → Method
  | clientHeartbeat | registerMcpWorkspace | setServerConfiguration | shutdownServer
  | executeCode | interruptSession | killSession | restartSession | startSession => .post
  | getServerConfiguration | listSessions | serverStatus | channelsUpgrade | connectionInfo
  | getSession | getSessionHistory | mcpWorkspaceChannel => .get
  | newSession | adoptSession => .put
  | deleteSession | deregisterMcpWorkspace => .delete

def pattern : OperationId → Pattern
  | clientHeartbeat => .fixed "/client_heartbeat".toList
  | getServerConfiguration | setServerConfiguration => .fixed "/server_configuration".toList
  | listSessions | newSession => .fixed "/sessions".toList
  | registerMcpWorkspace => .fixed "/mcp/workspaces".toList
  | serverStatus => .fixed "/status".toList
  | shutdownServer => .fixed "/shutdown".toList
  | adoptSession => .withId sessionsPath "/adopt".toList
  | channelsUpgrade => .withId sessionsPath "/channels".toList
  | connectionInfo => .withId sessionsPath "/connection_info".toList
  | deleteSession | getSession => .withId sessionsPath []
  | deregisterMcpWorkspace => .withId workspacesPath []
  | executeCode => .withId sessionsPath "/execute".toList
  | getSessionHistory => .withId sessionsPath "/history".toList
  | interruptSession => .withId sessionsPath "/interrupt".toList
  | killSession => .withId sessionsPath "/kill".toList
  | mcpWorkspaceChannel => .withId workspacesPath "/channel".toList
  | restartSession => .withId sessionsPath "/restart".toList
  | startSession => .withId sessionsPath "/start".toList

/-- The operations in the order in which a request is tried. -/
def all : List OperationId :=
  [clientHeartbeat, getServerConfiguration, listSessions, newSession, registerMcpWorkspace,
    serverStatus, setServerConfiguration, shutdownServer, adoptSession, channelsUpgrade,
    connectionInfo, deleteSession, deregisterMcpWorkspace, executeCode, getSession,
    getSessionHistory, interruptSession, killSession, mcpWorkspaceChannel, restartSession,
    startSession]

end OperationId

/-! ## The client -/

/-- `ID_ENCODE_SET`: controls, the space, and `"`, `<`, `>`, the backtick and `|`. -/
def idEncodeSet (b : UInt8) : Bool :=
  b.toNat < 0x20 || b.toNat == 0x7F || (" \"<>`|".toList.map Percent.byteOf).contains b

/-- The path that the client puts an ID into. -/
def Pattern.render (crates : Crates) (id : List Char) : Pattern → List Char
  | .fixed path => path
  | .withId before after => before ++ crates.percentEncode idEncodeSet id ++ after

/-- The request for an operation, if one can be built. -/
def clientRequest (crates : Crates) (basePath : List Char) (op : OperationId) (id : String) :
    Option (Method × List Char) :=
  (crates.parseUri (basePath ++ op.pattern.render crates id.toList)).map fun uri =>
    (op.method, uri.path)

/-! ## The server -/

def isIdPart (c : Char) : Bool := c ≠ '/' && c ≠ '?' && c ≠ '#'

/-- What of the path stands for the ID, if the path fits: nothing if there is none. -/
def Pattern.captures (path : List Char) : Pattern → Option (List Char)
  | .fixed text => if path = text then some [] else none
  | .withId before after =>
      (path.dropPrefix? before).bind fun rest =>
        (rest.dropSuffix? after).bind fun id => if id.all isIdPart then some id else none

/-- `decode_utf8`: the text that bytes are the encoding of, if they are. -/
def decodeUtf8 (bytes : List UInt8) : Option String :=
  if Utf8.encode (Utf8.lossy bytes) = bytes then some (String.ofList (Utf8.lossy bytes)) else none

def decodeId (crates : Crates) (captured : List Char) : Option String :=
  decodeUtf8 (crates.percentDecode captured)

inductive Served
  | operation (op : OperationId) (id : Option String)
  | sessionChannels (id : String)
  | mcpWorkspaceChannel (id : String)
  /-- The ID is no text. -/
  | badRequest
  | methodNotAllowed
  | notFound
  deriving DecidableEq

/-- The arms of the generated service that have a method and a path. -/
def fits (method : Method) (path : List Char) (op : OperationId) : Bool :=
  op.method = method && (op.pattern.captures path).isSome

def route (crates : Crates) (method : Method) (path : List Char) : Served :=
  match OperationId.all.find? (fits method path) with
  | some op =>
      match op.pattern with
      | .fixed _ => .operation op none
      | .withId _ _ =>
          match (op.pattern.captures path).bind (decodeId crates) with
          | some id => .operation op (some id)
          | none => .badRequest
  | none =>
      if OperationId.all.any fun op => (op.pattern.captures path).isSome then .methodNotAllowed
      else .notFound

/-- Extract and decode what a pattern of the interceptor captures, which is not empty. -/
def captureId (crates : Crates) (before after path : List Char) : Option String :=
  ((Pattern.withId before after).captures path).bind fun id =>
    if id.isEmpty then none else decodeId crates id

/-- The requests that the interceptor handles itself. -/
def websocketRoute (crates : Crates) (path : List Char) : Option Served :=
  match captureId crates sessionsPath "/channels".toList path with
  | some id => some (.sessionChannels id)
  | none => (captureId crates workspacesPath "/channel".toList path).map .mcpWorkspaceChannel

/-- The interceptor in front of the generated service. -/
def serve (crates : Crates) (interceptSessionChannels : Bool) (method : Method)
    (path : List Char) : Served :=
  let handled :=
    if method = .get then
      match websocketRoute crates path with
      | some (.sessionChannels id) =>
          if interceptSessionChannels then some (Served.sessionChannels id) else none
      | handled => handled
    else none
  match handled with
  | some served => served
  | none => route crates method path

/-! ## Patterns -/

theorem captures_withId_iff {before after path id : List Char} :
    (Pattern.withId before after).captures path = some id ↔
      path = before ++ id ++ after ∧ id.all isIdPart = true := by
  rw [Pattern.captures, Option.bind_eq_some_iff]
  constructor
  · rintro ⟨rest, hrest, h⟩
    obtain ⟨id', hid, h⟩ := Option.bind_eq_some_iff.mp h
    obtain ⟨hparts, heq⟩ := Option.ite_none_right_eq_some.mp h
    cases heq
    obtain ⟨before', rfl, hbefore⟩ := List.dropPrefix?_eq_some_iff.mp hrest
    obtain ⟨after', rfl, hafter⟩ := List.dropSuffix?_eq_some_iff.mp hid
    rw [eq_of_beq hbefore, eq_of_beq hafter]
    exact ⟨(List.append_assoc _ _ _).symm, hparts⟩
  · rintro ⟨rfl, hparts⟩
    refine ⟨id ++ after, ?_, Option.bind_eq_some_iff.mpr ⟨id, ?_, if_pos hparts⟩⟩
    · rw [List.append_assoc]
      exact List.dropPrefix?_append_of_beq _ (beq_self_eq_true before)
    · exact List.dropSuffix?_eq_some_iff.mpr ⟨after, rfl, beq_self_eq_true after⟩

/-- Where the ID stands in a pattern of an operation: in one of two places, and with nothing
or another segment after it. -/
structure Pattern.Segmented (before after : List Char) : Prop where
  place : before = sessionsPath ∨ before = workspacesPath
  next : after = [] ∨ ∃ rest, after = '/' :: rest

theorem segmented_of_pattern {op : OperationId} {before after : List Char}
    (h : op.pattern = .withId before after) : Pattern.Segmented before after := by
  cases op
  all_goals
    cases h <;>
    exact ⟨by first | exact Or.inl rfl | exact Or.inr rfl,
      by first | exact Or.inl rfl | exact Or.inr ⟨_, rfl⟩⟩

theorem takeWhile_segment {id after : List Char} (hid : id.all isIdPart = true)
    (h : after = [] ∨ ∃ rest, after = '/' :: rest) :
    (id ++ after).takeWhile isIdPart = id := by
  rw [List.takeWhile_append_of_pos (List.all_eq_true.mp hid)]
  rcases h with rfl | ⟨rest, rfl⟩
  · exact List.append_nil id
  · rw [List.takeWhile_cons_of_neg (by decide), List.append_nil]

theorem Pattern.Segmented.unique {before after before' after' id id' : List Char}
    (h : Segmented before after) (h' : Segmented before' after')
    (hid : id.all isIdPart = true) (hid' : id'.all isIdPart = true)
    (heq : before ++ id ++ after = before' ++ id' ++ after') :
    before = before' ∧ after = after' := by
  have hplace : before = before' := by
    rcases h.place with rfl | rfl
    · rcases h'.place with rfl | rfl
      · rfl
      · cases heq
    · rcases h'.place with rfl | rfl
      · cases heq
      · rfl
  subst hplace
  rw [List.append_assoc, List.append_assoc, List.append_cancel_left_eq] at heq
  have hsame : id = id' := by
    rw [← takeWhile_segment hid h.next, heq, takeWhile_segment hid' h'.next]
  subst hsame
  exact ⟨rfl, List.append_cancel_left heq⟩

theorem not_prefix_of_fixed {op : OperationId} {path : List Char} (h : op.pattern = .fixed path) :
    ¬ sessionsPath <+: path ∧ ¬ workspacesPath <+: path := by
  cases op
  all_goals
    cases h <;>
    decide +kernel

theorem pattern_eq_of_captures {op op' : OperationId} {path : List Char}
    (h : (op.pattern.captures path).isSome = true)
    (h' : (op'.pattern.captures path).isSome = true) : op.pattern = op'.pattern := by
  obtain ⟨id, hid⟩ := Option.isSome_iff_exists.mp h
  obtain ⟨id', hid'⟩ := Option.isSome_iff_exists.mp h'
  -- a fixed path and one with an ID exclude each other by the place of the ID
  have hmixed : ∀ {op op' : OperationId} {text before after id : List Char},
      op.pattern = .fixed text → op'.pattern = .withId before after →
      text ≠ before ++ id ++ after := by
    intro op op' text before after id hfixed hwith heq
    have hprefix : before <+: text := ⟨id ++ after, by rw [heq, List.append_assoc]⟩
    rcases (segmented_of_pattern hwith).place with rfl | rfl
    · exact (not_prefix_of_fixed hfixed).1 hprefix
    · exact (not_prefix_of_fixed hfixed).2 hprefix
  cases hop : op.pattern with
  | fixed text =>
      rw [hop] at hid
      obtain ⟨rfl, -⟩ := Option.ite_none_right_eq_some.mp hid
      cases hop' : op'.pattern with
      | fixed text' =>
          rw [hop'] at hid'
          obtain ⟨rfl, -⟩ := Option.ite_none_right_eq_some.mp hid'
          rfl
      | withId before after =>
          rw [hop', captures_withId_iff] at hid'
          exact absurd hid'.1 (hmixed hop hop')
  | withId before after =>
      rw [hop, captures_withId_iff] at hid
      cases hop' : op'.pattern with
      | fixed text' =>
          rw [hop'] at hid'
          obtain ⟨rfl, -⟩ := Option.ite_none_right_eq_some.mp hid'
          exact absurd hid.1 (hmixed hop' hop)
      | withId before' after' =>
          rw [hop', captures_withId_iff] at hid'
          obtain ⟨rfl, rfl⟩ := (segmented_of_pattern hop).unique (segmented_of_pattern hop') hid.2
            hid'.2 (hid.1.symm.trans hid'.1)
          rfl

theorem find?_method_pattern (op : OperationId) :
    (OperationId.all.find? fun op' => op'.method = op.method && op'.pattern = op.pattern) =
      some op := by
  cases op
  all_goals decide +kernel

theorem eq_of_fits {method : Method} {path : List Char} {op op' : OperationId}
    (h : fits method path op = true) (h' : fits method path op' = true) : op = op' := by
  rw [fits, Bool.and_eq_true, decide_eq_true_eq] at h h'
  have hmethod : op.method = op'.method := h.1.trans h'.1.symm
  have hpattern := pattern_eq_of_captures h.2 h'.2
  have hfind := find?_method_pattern op
  rw [hmethod, hpattern, find?_method_pattern op'] at hfind
  exact (Option.some.inj hfind).symm

theorem mem_all (op : OperationId) : op ∈ OperationId.all :=
  List.mem_of_find?_eq_some (find?_method_pattern op)

theorem find?_fits_iff {method : Method} {path : List Char} {op : OperationId} :
    OperationId.all.find? (fits method path) = some op ↔ fits method path op = true := by
  constructor
  · exact List.find?_some
  · intro h
    cases hfind : OperationId.all.find? (fits method path) with
    | none => exact absurd h (List.find?_eq_none.mp hfind op (mem_all op))
    | some op' => rw [eq_of_fits (List.find?_some hfind) h]

/-! ## The ID in a path -/

theorem decodeUtf8_eq_some_iff {bytes : List UInt8} {text : String} :
    decodeUtf8 bytes = some text ↔ bytes = Utf8.encode text.toList := by
  rw [decodeUtf8]
  constructor
  · intro h
    obtain ⟨hvalid, htext⟩ := Option.ite_none_right_eq_some.mp h
    cases htext
    rw [String.toList_ofList, hvalid]
  · rintro rfl
    rw [if_pos (by rw [Utf8.lossy_encode]), Utf8.lossy_encode, String.ofList_toList]

variable {crates : Crates} (hcrates : crates.Documented)

include hcrates in
theorem route_eq_operation_iff {op : OperationId} {before after path : List Char} {id : String}
    (hop : op.pattern = .withId before after) :
    route crates op.method path = .operation op (some id) ↔
      ∃ captured, path = before ++ captured ++ after ∧ captured.all isIdPart = true ∧
        Percent.decode captured = Utf8.encode id.toList := by
  constructor
  · intro h
    rw [route] at h
    split at h
    next op' hfind =>
      split at h
      next => cases h
      next =>
        split at h
        next id' hid =>
          cases h
          obtain ⟨captured, hcaptured, hdecode⟩ := Option.bind_eq_some_iff.mp hid
          rw [hop, captures_withId_iff] at hcaptured
          rw [decodeId, hcrates.percentDecode] at hdecode
          exact ⟨captured, hcaptured.1, hcaptured.2, decodeUtf8_eq_some_iff.mp hdecode⟩
        next => cases h
    next =>
      split at h
      · cases h
      · cases h
  · rintro ⟨captured, hpath, hparts, hdecode⟩
    have hcaptures : op.pattern.captures path = some captured := by
      rw [hop, captures_withId_iff]
      exact ⟨hpath, hparts⟩
    have hfits : fits op.method path op = true := by
      rw [fits, hcaptures, decide_eq_true rfl]
      rfl
    have hid : decodeId crates captured = some id := by
      rw [decodeId, hcrates.percentDecode]
      exact decodeUtf8_eq_some_iff.mpr hdecode
    rw [route, find?_fits_iff.mpr hfits]
    simp only [hcaptures, Option.bind_some, hid]
    rw [hop]

theorem bare_idEncodeSet : Percent.Bare idEncodeSet where
  sign := by decide
  digit b := by
    have hall : ∀ n < 256, Percent.isHex (UInt8.ofNat n) = true →
        idEncodeSet (UInt8.ofNat n) = false := by
      decide +kernel
    have hb := hall b.toNat b.toNat_lt
    rw [UInt8.ofNat_toNat] at hb
    exact hb

theorem separates_of_ends {c : Char} (h : c ∈ ['/', '?', '#']) :
    Percent.Separates c ∧ idEncodeSet (Percent.byteOf c) = false := by
  simp only [List.mem_cons, List.not_mem_nil, or_false] at h
  rcases h with rfl | rfl | rfl
  all_goals exact ⟨⟨by decide, by decide, by decide⟩, by decide⟩

/-- The characters that would end the ID, or the path, are left as they are. -/
theorem mem_encode_id_iff {c : Char} (h : c ∈ ['/', '?', '#']) {text : List Char} :
    c ∈ Percent.encode idEncodeSet text ↔ c ∈ text := by
  rw [Percent.mem_encode_iff (separates_of_ends h).1]
  exact and_iff_left (separates_of_ends h).2

theorem isTarget_char {c : Char} {id : List Char} (h : c ∈ Percent.encode idEncodeSet id) :
    isPathChar c = true ∧ isQueryChar c = true := by
  obtain ⟨b, hb, rfl⟩ := List.mem_map.mp h
  obtain ⟨x, -, hx⟩ := List.mem_flatMap.mp hb
  have hall : ∀ n < 256, (Percent.keeps idEncodeSet (UInt8.ofNat n) = true ∨
      UInt8.ofNat n = Percent.sign ∨ Percent.isHex (UInt8.ofNat n) = true) →
      isPathChar (Char.ofNat (UInt8.ofNat n).toNat) = true ∧
        isQueryChar (Char.ofNat (UInt8.ofNat n).toNat) = true := by
    decide +kernel
  have hb := hall b.toNat b.toNat_lt
  rw [UInt8.ofNat_toNat] at hb
  apply hb
  rcases Percent.mem_encodeByte hx with ⟨rfl, hkeeps⟩ | hsign | hhex
  · exact Or.inl hkeeps
  · exact Or.inr (Or.inl hsign)
  · exact Or.inr (Or.inr hhex)

theorem forall_mem_pattern {op : OperationId} {before after : List Char}
    (h : op.pattern = .withId before after) :
    before.head? = some '/' ∧ ∀ c ∈ before ++ after,
      isPathChar c = true ∧ isQueryChar c = true ∧ c ≠ '?' ∧ c ≠ '#' := by
  cases op
  all_goals
    cases h <;>
    exact ⟨by decide, forall_mem_of_all (by decide)⟩

theorem uriPath_of_head? {target : List Char} (h : target.head? = some '/') :
    uriPath target = target.takeWhile fun c => c ≠ '?' ∧ c ≠ '#' := by
  obtain ⟨rest, rfl⟩ : ∃ rest, target = '/' :: rest := by
    cases target with
    | nil => cases h
    | cons c rest => exact ⟨rest, congrArg (· :: rest) (Option.some.inj h)⟩
  have hdrop : ('/' :: rest).dropPrefix? httpScheme = none := rfl
  simp only [uriPath, hdrop, Option.getD_none]
  rw [List.dropWhile_cons_of_neg (by decide)]

/-- The URI of an operation with an ID, behind the address of the server. -/
def uriOf (basePath before after : List Char) (id : String) : List Char :=
  basePath ++ (before ++ Percent.encode idEncodeSet id.toList ++ after)

include hcrates in
theorem clientRequest_eq {basePath : List Char} (hbase : IsOrigin basePath) {op : OperationId}
    {before after : List Char} (id : String) (hop : op.pattern = .withId before after) :
    clientRequest crates basePath op id =
      if (Utf8.encode (uriOf basePath before after id)).length ≤ maxUriLength then
        some (op.method, before ++ (Percent.encode idEncodeSet id.toList ++ after).takeWhile
          fun c => c ≠ '?' ∧ c ≠ '#')
      else none := by
  obtain ⟨hhead, hchars⟩ := forall_mem_pattern hop
  have hrender : op.pattern.render crates id.toList =
      before ++ (Percent.encode idEncodeSet id.toList ++ after) := by
    rw [hop, Pattern.render, hcrates.percentEncode, List.append_assoc]
  have huri : uriOf basePath before after id =
      basePath ++ (before ++ (Percent.encode idEncodeSet id.toList ++ after)) := by
    rw [uriOf, List.append_assoc]
  have hslash : (before ++ (Percent.encode idEncodeSet id.toList ++ after)).head? = some '/' := by
    rw [List.head?_append, hhead]
    rfl
  have hall : ∀ c ∈ before ++ (Percent.encode idEncodeSet id.toList ++ after),
      isPathChar c = true ∧ isQueryChar c = true := by
    intro c hc
    rcases List.mem_append.mp hc with hc | hc
    · exact ⟨(hchars c (List.mem_append_left _ hc)).1, (hchars c (List.mem_append_left _ hc)).2.1⟩
    · rcases List.mem_append.mp hc with hc | hc
      · exact isTarget_char hc
      · exact ⟨(hchars c (List.mem_append_right _ hc)).1,
          (hchars c (List.mem_append_right _ hc)).2.1⟩
  have htarget :
      isTarget (before ++ (Percent.encode idEncodeSet id.toList ++ after)) = true := by
    rw [isTarget, uriPath_of_head? hslash, Bool.and_eq_true, List.all_eq_true, List.all_eq_true]
    constructor
    · exact fun c hc => (hall c ((List.takeWhile_sublist _).subset hc)).1
    · intro c hc
      have hin := (List.dropWhile_sublist _).subset ((List.drop_sublist 1 _).subset hc)
      exact (hall c ((List.takeWhile_sublist _).subset hin)).2
  have hbefore : ∀ c ∈ before, decide (c ≠ '?' ∧ c ≠ '#') = true :=
    fun c hc => decide_eq_true (hchars c (List.mem_append_left _ hc)).2.2
  rw [clientRequest, hrender, hcrates.parseUri basePath _ hbase hslash, huri]
  by_cases hlength : (Utf8.encode (basePath ++
      (before ++ (Percent.encode idEncodeSet id.toList ++ after)))).length ≤ maxUriLength
  · rw [if_pos ⟨hlength, htarget⟩, if_pos hlength, Option.map_some, uriPath_of_head? hslash,
      List.takeWhile_append_of_pos hbefore]
  · rw [if_neg fun h => hlength h.1, if_neg hlength, Option.map_none]

/-- An ID that every operation can be used with. -/
structure Addressable (id : String) : Prop where
  segment : ∀ c ∈ ['/', '?', '#'], c ∉ id.toList
  unescaped : ¬ Percent.EscapedText id.toList

/-- What is left of an encoded ID where a character ends the path decodes to less than the
ID. -/
theorem length_decode_lt {text captured after : List Char}
    (hend : ∃ c ∈ ['?', '#'], c ∈ text)
    (hafter : after = [] ∨ ∃ rest, after = '/' :: rest)
    (h : (Percent.encode idEncodeSet text ++ after).takeWhile (fun c => c ≠ '?' ∧ c ≠ '#') =
      captured ++ after) :
    (Percent.decode captured).length < (Utf8.encode text).length := by
  obtain ⟨d, hd, hmem⟩ := hend
  have hin : d ∈ Percent.encode idEncodeSet text :=
    (mem_encode_id_iff (List.mem_cons_of_mem '/' hd)).mpr hmem
  obtain ⟨u, c, v, hsplit, hu, hc⟩ : ∃ u c v, Percent.encode idEncodeSet text = u ++ c :: v ∧
      (∀ x ∈ u, decide (x ≠ '?' ∧ x ≠ '#') = true) ∧ c ∈ ['?', '#'] := by
    let inner : Char → Bool := fun x => decide (x ≠ '?' ∧ x ≠ '#')
    have hrest : (Percent.encode idEncodeSet text).dropWhile inner ≠ [] := by
      intro hnil
      have hinner := List.dropWhile_eq_nil_iff.mp hnil d hin
      revert hinner hd
      simp only [List.mem_cons, List.not_mem_nil, or_false]
      rintro (rfl | rfl)
      all_goals decide
    obtain ⟨c, v, hcons⟩ := List.exists_cons_of_ne_nil hrest
    have hhead := List.head_dropWhile_not inner hrest
    refine ⟨(Percent.encode idEncodeSet text).takeWhile inner, c, v, ?_, ?_, ?_⟩
    · rw [← hcons, List.takeWhile_append_dropWhile]
    · intro x hx
      have hinner : inner x = true := List.mem_takeWhile_imp hx
      exact hinner
    · simp only [hcons, List.head_cons, inner, decide_eq_false_iff_not] at hhead
      simp only [List.mem_cons, List.not_mem_nil, or_false]
      tauto
  have hcaptured : u = captured ++ after := by
    rw [hsplit, List.append_assoc, List.takeWhile_append_of_pos hu, List.cons_append,
      List.takeWhile_cons_of_neg, List.append_nil] at h
    · exact h
    · revert hc
      simp only [List.mem_cons, List.not_mem_nil, or_false]
      rintro (rfl | rfl)
      all_goals decide
  have hwhole : (Percent.decode u).length < (Utf8.encode text).length := by
    have hdecode := bare_idEncodeSet.decode_encode text
    rw [hsplit, (separates_of_ends (List.mem_cons_of_mem '/' hc)).1.decode_append_cons] at hdecode
    have hle := Percent.length_decode_le text
    rw [← hdecode, List.length_append, List.length_cons] at hle
    omega
  refine Nat.lt_of_le_of_lt ?_ hwhole
  rw [hcaptured]
  rcases hafter with rfl | ⟨rest, rfl⟩
  · rw [List.append_nil]
  · rw [(separates_of_ends (by decide : '/' ∈ ['/', '?', '#'])).1.decode_append_cons,
      List.length_append]
    omega

include hcrates in
/-- The ID of a request comes back, with the operation, exactly if it can be used. -/
theorem routed_clientRequest_iff {basePath : List Char} (hbase : IsOrigin basePath)
    {op : OperationId} {before after : List Char} (id : String)
    (hop : op.pattern = .withId before after) :
    (∃ request, clientRequest crates basePath op id = some request ∧
      route crates request.1 request.2 = .operation op (some id)) ↔
        Addressable id ∧
          (Utf8.encode (uriOf basePath before after id)).length ≤ maxUriLength := by
  have hclient := clientRequest_eq hcrates hbase id hop
  obtain ⟨-, hchars⟩ := forall_mem_pattern hop
  have hnext := (segmented_of_pattern hop).next
  have hafter : ∀ c ∈ after, decide (c ≠ '?' ∧ c ≠ '#') = true :=
    fun c hc => decide_eq_true (hchars c (List.mem_append_right _ hc)).2.2
  -- where nothing ends the path, all of the encoded ID is in it
  have hwhole : (∀ c ∈ ['?', '#'], c ∉ id.toList) →
      (Percent.encode idEncodeSet id.toList ++ after).takeWhile (fun c => c ≠ '?' ∧ c ≠ '#') =
        Percent.encode idEncodeSet id.toList ++ after := by
    intro hnone
    rw [List.takeWhile_eq_self_iff]
    intro c hc
    rcases List.mem_append.mp hc with hc | hc
    · rw [decide_eq_true_eq]
      constructor
      · rintro rfl
        exact hnone '?' (by decide) ((mem_encode_id_iff (by decide)).mp hc)
      · rintro rfl
        exact hnone '#' (by decide) ((mem_encode_id_iff (by decide)).mp hc)
    · exact hafter c hc
  constructor
  · rintro ⟨request, hrequest, hroute⟩
    obtain ⟨hlength, hrequest⟩ :=
      Option.ite_none_right_eq_some.mp (hclient.symm.trans hrequest)
    cases hrequest
    refine ⟨?_, hlength⟩
    obtain ⟨captured, hpath, hparts, hdecode⟩ := (route_eq_operation_iff hcrates hop).mp hroute
    rw [List.append_assoc, List.append_cancel_left_eq] at hpath
    have hnone : ∀ c ∈ ['?', '#'], c ∉ id.toList := by
      intro c hc hmem
      have hlt := length_decode_lt ⟨c, hc, hmem⟩ hnext hpath
      rw [hdecode] at hlt
      exact absurd hlt (Nat.lt_irrefl _)
    rw [hwhole hnone, List.append_cancel_right_eq] at hpath
    subst hpath
    refine ⟨?_, (bare_idEncodeSet.decode_encode_iff id.toList).mp hdecode⟩
    intro c hc hmem
    rcases List.mem_cons.mp hc with rfl | hc
    · have hslash := List.all_eq_true.mp hparts '/' ((mem_encode_id_iff (by decide)).mpr hmem)
      cases hslash
    · exact hnone c hc hmem
  · rintro ⟨h, hlength⟩
    refine ⟨_, hclient.trans (if_pos hlength), (route_eq_operation_iff hcrates hop).mpr
      ⟨Percent.encode idEncodeSet id.toList, ?_, ?_, ?_⟩⟩
    · rw [hwhole fun c hc => h.segment c (List.mem_cons_of_mem '/' hc), List.append_assoc]
    · rw [List.all_eq_true]
      intro c hc
      have hother : ∀ d ∈ ['/', '?', '#'], c ≠ d := by
        rintro d hd rfl
        exact h.segment c hd ((mem_encode_id_iff hd).mp hc)
      simp [isIdPart, hother '/' (by decide), hother '?' (by decide), hother '#' (by decide)]
    · exact (bare_idEncodeSet.decode_encode_iff id.toList).mpr h.unescaped

/-! ## The interceptor -/

theorem decode_eq_nil_iff {text : List Char} : Percent.decode text = [] ↔ text = [] := by
  constructor
  · intro h
    cases text with
    | nil => rfl
    | cons c text =>
        obtain ⟨b, rest, henc, -⟩ := Percent.exists_utf8_cons c text
        rw [Percent.decode, henc] at h
        exact absurd h (Percent.decodeBytes_cons_ne_nil b rest)
  · rintro rfl
    rfl

theorem utf8_eq_nil_iff {text : String} : Utf8.encode text.toList = [] ↔ text = "" := by
  rw [← String.toList_eq_nil_iff]
  cases text.toList with
  | nil => simp [Utf8.encode]
  | cons c rest =>
      obtain ⟨b, more, henc, -⟩ := Percent.exists_utf8_cons c rest
      simp [henc]

include hcrates in
/-- A pattern of the interceptor captures what the operation would be given, if that is not
empty. -/
theorem captureId_eq_some_iff {op : OperationId} {before after path : List Char} {id : String}
    (hop : op.pattern = .withId before after) :
    captureId crates before after path = some id ↔
      route crates op.method path = .operation op (some id) ∧ id ≠ "" := by
  rw [route_eq_operation_iff hcrates hop, captureId, Option.bind_eq_some_iff]
  constructor
  · rintro ⟨captured, hcaptured, h⟩
    obtain ⟨hne, h⟩ := Option.ite_none_left_eq_some.mp h
    obtain ⟨hpath, hparts⟩ := captures_withId_iff.mp hcaptured
    rw [decodeId, hcrates.percentDecode] at h
    have hdecode := decodeUtf8_eq_some_iff.mp h
    refine ⟨⟨captured, hpath, hparts, hdecode⟩, ?_⟩
    intro hempty
    rw [utf8_eq_nil_iff.mpr hempty, decode_eq_nil_iff] at hdecode
    exact hne (by simp [hdecode])
  · rintro ⟨⟨captured, hpath, hparts, hdecode⟩, hne⟩
    refine ⟨captured, captures_withId_iff.mpr ⟨hpath, hparts⟩, ?_⟩
    rw [if_neg]
    · rw [decodeId, hcrates.percentDecode]
      exact decodeUtf8_eq_some_iff.mpr hdecode
    · intro hempty
      rw [List.isEmpty_iff] at hempty
      rw [hempty] at hdecode
      exact hne (utf8_eq_nil_iff.mp hdecode.symm)

/-- What the interceptor makes of what the generated service would do. -/
def intercepted (interceptSessionChannels : Bool) : Served → Served
  | .operation .channelsUpgrade (some id) =>
      if interceptSessionChannels ∧ id ≠ "" then .sessionChannels id
      else .operation .channelsUpgrade (some id)
  | .operation .mcpWorkspaceChannel (some id) =>
      if id ≠ "" then .mcpWorkspaceChannel id else .operation .mcpWorkspaceChannel (some id)
  | served => served

theorem intercepted_eq_self {interceptSessionChannels : Bool} {served : Served}
    (hsessions : ∀ id, served = .operation .channelsUpgrade (some id) →
      ¬ (interceptSessionChannels = true ∧ id ≠ ""))
    (hworkspaces : ∀ id, served = .operation .mcpWorkspaceChannel (some id) → ¬ id ≠ "") :
    intercepted interceptSessionChannels served = served := by
  rw [intercepted.eq_def]
  split
  next id => exact if_neg (hsessions id rfl)
  next id => exact if_neg (hworkspaces id rfl)
  next => rfl

/-- The generated service does not go beyond the operations of the method. -/
theorem method_of_route {method : Method} {path : List Char} {op : OperationId}
    {id : Option String} (h : route crates method path = .operation op id) : op.method = method := by
  have hfind : OperationId.all.find? (fits method path) = some op := by
    rw [route] at h
    split at h
    next op' hfind =>
      rw [hfind]
      split at h
      next =>
        cases h
        rfl
      next =>
        split at h
        next =>
          cases h
          rfl
        next => cases h
    next =>
      split at h
      · cases h
      · cases h
  have hfits := find?_fits_iff.mp hfind
  rw [fits, Bool.and_eq_true, decide_eq_true_eq] at hfits
  exact hfits.1

include hcrates in
/-- Taking the websockets out agrees with the generated matching, for every method and path:
the interceptor handles itself what would reach the two operations with an ID that is not
empty, and with the same ID, and nothing else. -/
theorem serve_eq (interceptSessionChannels : Bool) (method : Method) (path : List Char) :
    serve crates interceptSessionChannels method path =
      intercepted interceptSessionChannels (route crates method path) := by
  by_cases hget : method = .get
  · subst hget
    have hsessions := fun id => @captureId_eq_some_iff crates hcrates .channelsUpgrade _ _ path id rfl
    have hworkspaces := fun id => @captureId_eq_some_iff crates hcrates .mcpWorkspaceChannel _ _ path id rfl
    simp only [serve, websocketRoute, if_true]
    cases hsession : captureId crates sessionsPath "/channels".toList path with
    | some id =>
        obtain ⟨hroute, hne⟩ := (hsessions id).mp hsession
        have hroute : route crates .get path = .operation .channelsUpgrade (some id) := hroute
        rw [hroute]
        cases interceptSessionChannels with
        | true => simp [intercepted, hne]
        | false => simp [intercepted]
    | none =>
        have hnone : ∀ id, route crates .get path = .operation .channelsUpgrade (some id) →
            ¬ (interceptSessionChannels = true ∧ id ≠ "") := by
          rintro id hroute ⟨-, hne⟩
          cases hsession.symm.trans ((hsessions id).mpr ⟨hroute, hne⟩)
        cases hworkspace : captureId crates workspacesPath "/channel".toList path with
        | some id =>
            obtain ⟨hroute, hne⟩ := (hworkspaces id).mp hworkspace
            have hroute : route crates .get path = .operation .mcpWorkspaceChannel (some id) := hroute
            rw [hroute]
            simp [intercepted, hne]
        | none =>
            have hnone' : ∀ id, route crates .get path = .operation .mcpWorkspaceChannel (some id) →
                ¬ id ≠ "" := by
              intro id hroute hne
              cases hworkspace.symm.trans ((hworkspaces id).mpr ⟨hroute, hne⟩)
            rw [intercepted_eq_self hnone hnone']
            rfl
  · have hself : intercepted interceptSessionChannels (route crates method path) = route crates method path := by
      apply intercepted_eq_self
      · exact fun id hroute => absurd (method_of_route hroute).symm hget
      · exact fun id hroute => absurd (method_of_route hroute).symm hget
    simp only [serve, if_neg hget, hself]

/-- An operation with an ID, or the interceptor standing in for it. -/
def OperationId.served (interceptSessionChannels : Bool) (op : OperationId) (id : String) :
    Served :=
  intercepted interceptSessionChannels (.operation op (some id))

/-- The operation that the interceptor stands in for. -/
def restored : Served → Served
  | .sessionChannels id => .operation .channelsUpgrade (some id)
  | .mcpWorkspaceChannel id => .operation .mcpWorkspaceChannel (some id)
  | served => served

theorem restored_intercepted {interceptSessionChannels : Bool} {served : Served}
    (h : restored served = served) :
    restored (intercepted interceptSessionChannels served) = served := by
  rw [intercepted.eq_def]
  split
  next id =>
    split
    · rfl
    · rfl
  next id =>
    split
    · rfl
    · rfl
  next => exact h

theorem restored_route (method : Method) (path : List Char) :
    restored (route crates method path) = route crates method path := by
  rw [route]
  split
  next =>
    split
    next => rfl
    next =>
      split
      · rfl
      · rfl
  next =>
    split
    · rfl
    · rfl

theorem intercepted_route_iff {interceptSessionChannels : Bool} {method : Method}
    {path : List Char} {op : OperationId} {id : String} :
    intercepted interceptSessionChannels (route crates method path) =
        op.served interceptSessionChannels id ↔
      route crates method path = .operation op (some id) := by
  constructor
  · intro h
    rw [← restored_intercepted (restored_route method path), h, OperationId.served,
      restored_intercepted rfl]
  · intro h
    rw [h, OperationId.served]

include hcrates in
/-- A client's request with an ID reaches the operation with that ID, or the interceptor
standing in for it, exactly if the ID has no character that ends a segment or a path and no
percent sign that two digits follow, and its URI is not too long. -/
theorem served_clientRequest_iff {basePath : List Char} (hbase : IsOrigin basePath)
    (interceptSessionChannels : Bool) (op : OperationId) (id : String)
    {before after : List Char} (hop : op.pattern = .withId before after) :
    (∃ request, clientRequest crates basePath op id = some request ∧
      serve crates interceptSessionChannels request.1 request.2 =
        op.served interceptSessionChannels id) ↔
        Addressable id ∧
          (Utf8.encode (uriOf basePath before after id)).length ≤ maxUriLength := by
  rw [← routed_clientRequest_iff hcrates hbase id hop]
  refine exists_congr fun request => and_congr_right fun _ => ?_
  rw [serve_eq hcrates, intercepted_route_iff]

theorem served_clientRequest_kill :
    ∃ request, clientRequest sampleCrates "http://localhost".toList .killSession "R 4.5 100%" =
        some request ∧
      serve sampleCrates true request.1 request.2 =
        .operation .killSession (some "R 4.5 100%") := by
  have hbase : IsOrigin "http://localhost".toList :=
    IsOrigin.host (List.cons_ne_nil _ _) (by decide : "localhost".toList.all isHostChar = true)
  refine (served_clientRequest_iff documented_sampleCrates hbase true .killSession "R 4.5 100%"
    rfl).mpr ⟨⟨?_, ?_⟩, by decide +kernel⟩
  · intro c hc
    simp only [List.mem_cons, List.not_mem_nil, or_false] at hc
    rcases hc with rfl | rfl | rfl
    all_goals decide
  · rw [← Percent.escaped_utf8_iff, ← Percent.decodeBytes_eq_self_iff]
    decide

end Routes

end Kallichore
