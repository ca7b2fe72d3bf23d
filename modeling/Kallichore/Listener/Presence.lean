import Kallichore.Lib.Percent
import Kallichore.Listener.Call

/-!
# A client announces itself

For as long as it runs, the stdio bridge holds a presence stream at its endpoint, and the
listener lists the client for as long. What the list says about the client travels in the
query of the request: the bridge encodes every value, joins the pairs, and puts them behind
the path; the listener takes the target apart at the first `?`, at every `&` and at the first
`=`, and decodes. `listed_holdPresence` says that the record that is made is the one that was
sent, at the workspace and for the session of the endpoint.

Encoding, decoding and the parsing of URIs are the work of two crates, and are taken as they
are documented.
-/

namespace Kallichore

namespace Listener

open StdioBridge

/-! ## The crates -/

structure Uri where
  path : List Char
  query : List Char
  deriving DecidableEq, Repr

/-- `http` and `percent_encoding`, as far as a request is built and read with them. -/
structure Crates where
  /-- `Uri::from_str`. -/
  parseUri : List Char → Option Uri
  /-- `utf8_percent_encode`, with the bytes that it encodes. -/
  percentEncode : (UInt8 → Bool) → List Char → List Char
  percentDecode : List Char → List UInt8

def uriQuery (target : List Char) : List Char :=
  ((target.takeWhile (· ≠ '#')).dropWhile (· ≠ '?')).drop 1

/-- The character may stand in the path of a URI. -/
def isPathChar (c : Char) : Bool := 0x20 < c.toNat && !"<>`".toList.contains c

/-- The character may stand in the query of a URI. -/
def isQueryChar (c : Char) : Bool := 0x20 < c.toNat && !"<>\"".toList.contains c

def isTarget (target : List Char) : Bool :=
  (uriPath target).all isPathChar && (uriQuery target).all isQueryChar

def maxUriLength : ℕ := 65534

def isHostChar (c : Char) : Bool := c.isAlphanum || c = '.' || c = '-'

/-- What is in front of the path of a URI: nothing, or the address of a server. -/
inductive IsOrigin : List Char → Prop
  | none : IsOrigin []
  | host {host : List Char} (hne : host ≠ []) (hhost : host.all isHostChar = true) :
      IsOrigin (httpScheme ++ host)
  | port {host : List Char} (hne : host ≠ []) (hhost : host.all isHostChar = true)
      (port : UInt16) : IsOrigin (httpScheme ++ (host ++ ':' :: port.toNat.repr.toList))

/-- What the crates document. A URI is refused if it is too long or has a character where it
must not stand. -/
structure Crates.Documented (crates : Crates) : Prop where
  parseUri : ∀ origin target, IsOrigin origin → target.head? = some '/' →
    crates.parseUri (origin ++ target) =
      if (Utf8.encode (origin ++ target)).length ≤ maxUriLength ∧ isTarget target = true then
        some ⟨uriPath target, uriQuery target⟩
      else none
  percentEncode : crates.percentEncode = Percent.encode
  percentDecode : crates.percentDecode = Percent.decode

/-! ## The bridge's request -/

structure ClientInfo where
  name : String
  version : Option String

/-- `NON_ALPHANUMERIC`: every ASCII byte but letters and digits. -/
def nonAlphanumeric (b : UInt8) : Bool := !(Char.ofNat b.toNat).isAlphanum

def presenceQuery (pid : UInt32) (clientInfo : Option ClientInfo) (workingDir : Option String) :
    List (String × String) :=
  [("pid", pid.toNat.repr)] ++
    (match clientInfo with
    | none => []
    | some info => ("name", info.name) :: info.version.toList.map fun version =>
        ("version", version)) ++
    workingDir.toList.map fun dir => ("cwd", dir)

def renderPair (crates : Crates) (pair : String × String) : List Char :=
  pair.1.toList ++ '=' :: crates.percentEncode nonAlphanumeric pair.2.toList

def renderQuery (crates : Crates) (pairs : List (String × String)) : List Char :=
  List.intercalate ['&'] (pairs.map (renderPair crates))

def presenceTarget (crates : Crates) (endpoint : Endpoint) (pairs : List (String × String)) :
    List Char :=
  endpoint.path.rdropWhile (· == '/') ++ presencePathSuffix ++ '?' :: renderQuery crates pairs

def bridgeHeaders (endpoint : Endpoint) : HeaderMap
  | .host => some (Utf8.encode (endpoint.host.toList ++ ':' :: endpoint.port.toNat.repr.toList))
  | .authorization => some (Utf8.encode ("Bearer ".toList ++ endpoint.token.toList))
  | .origin => none

structure QueryRequest extends Request where
  query : List Char

/-- The request that `hold_presence` sends, if one can be built. -/
def holdPresence (crates : Crates) (endpoint : Endpoint) (pid : UInt32)
    (clientInfo : Option ClientInfo) (workingDir : Option String) : Option QueryRequest :=
  (crates.parseUri (presenceTarget crates endpoint
    (presenceQuery pid clientInfo workingDir))).map fun uri =>
      { isGet := true
        path := uri.path
        headers := bridgeHeaders endpoint
        query := uri.query }

/-! ## The listener's reading -/

def decodePart (crates : Crates) (text : List Char) : String :=
  String.ofList (Utf8.lossy (crates.percentDecode (text.map fun c => if c = '+' then ' ' else c)))

/-- The two sides of the first `=`. -/
def splitPair (crates : Crates) (pair : List Char) : String × String :=
  match splitAtSegment ['='] pair with
  | some (key, rest) => (decodePart crates key, decodePart crates (rest.drop 1))
  | none => (decodePart crates pair, "")

/-- The decoded key-value pairs of a query string. -/
def queryPairs (crates : Crates) (query : List Char) : List (String × String) :=
  ((query.splitOn '&').filter fun pair => !pair.isEmpty).map (splitPair crates)

def describe (identity : McpClient) (pair : String × String) : McpClient :=
  if pair.1 = "name" then { identity with name := some pair.2 }
  else if pair.1 = "version" then { identity with version := some pair.2 }
  else if pair.1 = "pid" then { identity with pid := Words.parseSigned 32 pair.2.toList }
  else if pair.1 = "cwd" then { identity with workingDirectory := some pair.2 }
  else identity

/-- A client of which nothing is known but the session it runs in. -/
def anonymous (caller : Option (List Char)) : McpClient where
  id := 0
  name := none
  version := none
  pid := none
  workingDirectory := none
  sessionId := caller.map String.ofList
  connectedAt := 0

def identify (crates : Crates) (caller : Option (List Char)) (query : List Char) : McpClient :=
  (queryPairs crates query).foldl describe (anonymous caller)

/-- The workspace that lists a client because of a request, and its record with the client. -/
def presenceLease (crates : Crates) (state : McpState) (request : QueryRequest)
    (lease now : ℕ) : Option (String × Workspace) :=
  match call state request.toRequest with
  | .presence workspaceId caller =>
      (state.workspaces.lookup workspaceId).map fun w =>
        (workspaceId, (w.addClient lease now (identify crates caller request.query)).1)
  | _ => none

/-! ## Parts of a query -/

theorem separates_of_mem {c : Char} (h : c ∈ ['&', '=', '+', '?', '#']) : Percent.Separates c := by
  simp only [List.mem_cons, List.not_mem_nil, or_false] at h
  rcases h with rfl | rfl | rfl | rfl | rfl
  all_goals exact ⟨by decide, by decide, by decide⟩

theorem notMem_encode {c : Char} (h : c ∈ ['&', '=', '+', '?', '#']) (text : List Char) :
    c ∉ Percent.encode nonAlphanumeric text := by
  rw [Percent.mem_encode_iff (separates_of_mem h)]
  rintro ⟨-, hset⟩
  revert h hset
  simp only [List.mem_cons, List.not_mem_nil, or_false]
  rintro (rfl | rfl | rfl | rfl | rfl)
  all_goals decide

theorem map_plus_of_notMem {text : List Char} (h : '+' ∉ text) :
    (text.map fun c => if c = '+' then ' ' else c) = text := by
  conv_rhs => rw [← List.map_id text]
  refine List.map_congr_left fun c hc => if_neg ?_
  rintro rfl
  exact h hc

/-- The key is a word, and says nothing about where it ends. -/
def IsKey (key : String) : Prop := ∀ c ∈ key.toList, c.isAlphanum = true

theorem IsKey.notMem {key : String} (h : IsKey key) {c : Char} (hc : c.isAlphanum = false) :
    c ∉ key.toList := by
  intro hmem
  rw [h c hmem] at hc
  cases hc

variable {crates : Crates} (hcrates : crates.Documented)

include hcrates

theorem decodePart_encode (text : String) :
    decodePart crates (crates.percentEncode nonAlphanumeric text.toList) = text := by
  have hsign : nonAlphanumeric Percent.sign = true := by decide
  rw [decodePart, hcrates.percentEncode, hcrates.percentDecode, map_plus_of_notMem (notMem_encode (by decide) _), Percent.decode_encode hsign,
    Utf8.lossy_encode, String.ofList_toList]

/-- A text without the two characters that mean something stands for itself. -/
theorem decodePart_of_notMem {text : String} (hplus : '+' ∉ text.toList)
    (hsign : '%' ∉ text.toList) : decodePart crates text.toList = text := by
  have hself : Percent.decode text.toList = Utf8.encode text.toList := by
    rw [Percent.decode, Percent.decodeBytes_eq_self_iff, Percent.escaped_utf8_iff]
    rintro ⟨high, low, hinside, -⟩
    exact hsign (hinside.subset List.mem_cons_self)
  rw [decodePart, hcrates.percentDecode, map_plus_of_notMem hplus, hself, Utf8.lossy_encode, String.ofList_toList]

theorem splitPair_renderPair {pair : String × String} (h : IsKey pair.1) :
    splitPair crates (renderPair crates pair) = pair := by
  have hsplit : splitAtSegment ['='] (renderPair crates pair) =
      some (pair.1.toList, ['='] ++ crates.percentEncode nonAlphanumeric pair.2.toList) := by
    have happend := @splitAtSegment_append '=' [] pair.1.toList
      (crates.percentEncode nonAlphanumeric pair.2.toList) (h.notMem rfl)
    rwa [List.append_assoc] at happend
  rw [splitPair, hsplit]
  simp only [List.singleton_append, List.drop_succ_cons, List.drop_zero]
  rw [decodePart_of_notMem hcrates (h.notMem rfl) (h.notMem rfl), decodePart_encode hcrates]

theorem notMem_renderPair {pair : String × String} (h : IsKey pair.1) {c : Char}
    (hc : c ∈ ['&', '?', '#']) : c ∉ renderPair crates pair := by
  have hmem : c ∈ ['&', '=', '+', '?', '#'] := by
    revert hc
    simp only [List.mem_cons, List.not_mem_nil, or_false]
    tauto
  have hother : c.isAlphanum = false ∧ c ≠ '=' := by
    revert hc
    simp only [List.mem_cons, List.not_mem_nil, or_false]
    rintro (rfl | rfl | rfl)
    all_goals exact ⟨rfl, by decide⟩
  rw [renderPair, hcrates.percentEncode, List.mem_append, List.mem_cons]
  rintro (hkey | heq | hvalue)
  · exact h.notMem hother.1 hkey
  · exact hother.2 heq
  · exact notMem_encode hmem _ hvalue

theorem queryPairs_renderQuery {pairs : List (String × String)} (hne : pairs ≠ [])
    (h : ∀ pair ∈ pairs, IsKey pair.1) :
    queryPairs crates (renderQuery crates pairs) = pairs := by
  have hamp : ∀ part ∈ pairs.map (renderPair crates), '&' ∉ part := by
    intro part hpart
    obtain ⟨pair, hpair, rfl⟩ := List.mem_map.mp hpart
    exact notMem_renderPair hcrates (h pair hpair) (by decide)
  have hsplit : (renderQuery crates pairs).splitOn '&' = pairs.map (renderPair crates) :=
    List.splitOn_intercalate '&' hamp (by simpa using hne)
  have hfilter : ((pairs.map (renderPair crates)).filter fun pair => !pair.isEmpty) =
      pairs.map (renderPair crates) := by
    rw [List.filter_eq_self]
    intro part hpart
    obtain ⟨pair, -, rfl⟩ := List.mem_map.mp hpart
    simp [renderPair]
  rw [queryPairs, hsplit, hfilter, List.map_map]
  conv_rhs => rw [← List.map_id pairs]
  exact List.map_congr_left fun pair hpair => splitPair_renderPair hcrates (h pair hpair)

theorem notMem_renderQuery {pairs : List (String × String)} (h : ∀ pair ∈ pairs, IsKey pair.1)
    {c : Char} (hc : c ∈ ['?', '#']) : c ∉ renderQuery crates pairs := by
  have hmem : c ∈ ['&', '?', '#'] := List.mem_cons_of_mem _ hc
  have hne : c ≠ '&' := by
    rintro rfl
    revert hc
    decide
  intro hin
  rcases Words.mem_intercalate hin with heq | ⟨part, hpart, hin⟩
  · exact hne heq
  · obtain ⟨pair, hpair, rfl⟩ := List.mem_map.mp hpart
    exact notMem_renderPair hcrates (h pair hpair) hmem hin

omit hcrates

/-- What a client says of itself, as the list shows it. A process ID that is no `i32` is not
shown. -/
def described (pid : UInt32) (clientInfo : Option ClientInfo) (workingDir : Option String)
    (caller : Option (List Char)) : McpClient :=
  { anonymous caller with
    name := clientInfo.map ClientInfo.name
    version := clientInfo.bind ClientInfo.version
    pid := if pid.toNat < 2 ^ 31 then some (pid.toNat : ℤ) else none
    workingDirectory := workingDir }

theorem parseSigned_repr (n : ℕ) :
    Words.parseSigned 32 n.repr.toList = if n < 2 ^ 31 then some (n : ℤ) else none := by
  have hnumeral := Words.isNumeral_repr n
  simp only [Words.parseSigned, if_neg (hnumeral.head?_ne (rfl : '-'.isDigit = false)),
    if_neg (hnumeral.head?_ne (rfl : '+'.isDigit = false)), hnumeral.digitsValue_eq]
  by_cases hlt : n < 2 ^ 31
  · rw [Option.filter_some, if_pos (decide_eq_true hlt), if_pos hlt]
    rfl
  · rw [Option.filter_some, if_neg (by simpa using hlt), if_neg hlt]
    rfl

theorem isKey_of_mem_presenceQuery {pid : UInt32} {clientInfo : Option ClientInfo}
    {workingDir : Option String} :
    ∀ pair ∈ presenceQuery pid clientInfo workingDir, IsKey pair.1 := by
  have hall : ((presenceQuery pid clientInfo workingDir).all
      fun pair => pair.1.toList.all Char.isAlphanum) = true := by
    rcases clientInfo with _ | ⟨name, _ | version⟩
    all_goals
      cases workingDir
      all_goals
        simp only [presenceQuery, Option.toList_none, Option.toList_some, List.map_nil,
          List.map_cons, List.all_append, List.all_cons, List.all_nil]
        decide
  intro pair hpair
  exact List.all_eq_true.mp (List.all_eq_true.mp hall pair hpair)

include hcrates in
theorem identify_presenceQuery (pid : UInt32) (clientInfo : Option ClientInfo)
    (workingDir : Option String) (caller : Option (List Char)) :
    identify crates caller (renderQuery crates (presenceQuery pid clientInfo workingDir)) =
      described pid clientInfo workingDir caller := by
  have hne : presenceQuery pid clientInfo workingDir ≠ [] := by simp [presenceQuery]
  rw [identify, queryPairs_renderQuery hcrates hne isKey_of_mem_presenceQuery]
  rcases clientInfo with _ | ⟨name, _ | version⟩
  all_goals
    cases workingDir
    all_goals
      simp only [presenceQuery, Option.toList, List.map_nil, List.map_cons, List.append_nil,
        List.cons_append, List.nil_append, List.foldl_cons, List.foldl_nil, describe,
        parseSigned_repr, described]
      rfl

/-! ## The target of the request -/

theorem uriPath_target {path query : List Char} (hslash : path.head? = some '/')
    (h : ∀ c ∈ path, c ≠ '?' ∧ c ≠ '#') : uriPath (path ++ '?' :: query) = path := by
  obtain ⟨rest, rfl⟩ : ∃ rest, path = '/' :: rest := by
    cases path with
    | nil => cases hslash
    | cons c rest => exact ⟨rest, congrArg (· :: rest) (Option.some.inj hslash)⟩
  have hdrop : ('/' :: rest ++ '?' :: query).dropPrefix? httpScheme = none := rfl
  have hpath : ∀ c ∈ '/' :: rest, decide (c ≠ '?' ∧ c ≠ '#') = true :=
    fun c hc => decide_eq_true (h c hc)
  simp only [uriPath, hdrop, Option.getD_none]
  rw [List.cons_append, List.dropWhile_cons_of_neg (by decide), ← List.cons_append,
    List.takeWhile_append_of_pos hpath, List.takeWhile_cons_of_neg (by decide), List.append_nil]

theorem uriQuery_target {path query : List Char} (h : ∀ c ∈ path, c ≠ '?' ∧ c ≠ '#')
    (hquery : '#' ∉ query) : uriQuery (path ++ '?' :: query) = query := by
  have hwhole : ∀ c ∈ path ++ '?' :: query, decide (c ≠ '#') = true := by
    intro c hc
    rw [decide_eq_true_eq]
    rintro rfl
    rcases List.mem_append.mp hc with hin | hin
    · exact (h '#' hin).2 rfl
    · rcases List.mem_cons.mp hin with heq | hin
      · cases heq
      · exact hquery hin
  have hpath : ∀ c ∈ path, decide (c ≠ '?') = true := fun c hc => decide_eq_true (h c hc).1
  rw [uriQuery, List.takeWhile_eq_self_iff.mpr hwhole, List.dropWhile_append_of_pos hpath,
    List.dropWhile_cons_of_neg (by decide)]
  rfl

/-- The session can be named in the path of a request. -/
structure InPath (s : String) : Prop where
  ne_empty : s ≠ ""
  chars : ∀ c ∈ s.toList, isPathChar c = true ∧ c ≠ '?' ∧ c ≠ '#'
  trimmed : s.toList.getLast? ≠ some '/'

/-- The URL of an endpoint, for a client in a session or in none. -/
def urlFor (port : UInt16) (w : String) : Option String → List Char
  | none => endpointUrl port w
  | some s => sessionEndpointUrl port w s

/-- The endpoint that is published for a client, as `Endpoint::parse` reads it. -/
def endpointAt (port : UInt16) (w : String) (session : Option String) (token : String) :
    Endpoint where
  host := "127.0.0.1"
  port := port
  path := uriPath (urlFor port w session)
  token := token

/-- What follows the prefix in the path of an endpoint. -/
def endpointName (w : String) : Option String → List Char
  | none => w.toList
  | some s => w.toList ++ callerPathSegment ++ s.toList

theorem lt_toNat_of_isAlphanum {c : Char} (h : c.isAlphanum = true) : 0x20 < c.toNat := by
  change (decide ('A'.val ≤ c.val ∧ c.val ≤ 'Z'.val) ||
    decide ('a'.val ≤ c.val) && decide (c.val ≤ 'z'.val) ||
    decide ('0'.val ≤ c.val) && decide (c.val ≤ '9'.val)) = true at h
  simp only [Bool.or_eq_true, Bool.and_eq_true, decide_eq_true_eq, UInt32.le_iff_toNat_le] at h
  have hnat : c.toNat = c.val.toNat := rfl
  have hupper : 'A'.val.toNat = 65 := rfl
  have hlower : 'a'.val.toNat = 97 := rfl
  have hdigit : '0'.val.toNat = 48 := rfl
  omega

theorem isPathChar_of_isAlphanum {c : Char} (h : c.isAlphanum = true) :
    isPathChar c = true ∧ c ≠ '?' ∧ c ≠ '#' := by
  have hother : ∀ d ∈ "<>`".toList, d.isAlphanum = false := forall_mem_of_all (by decide)
  refine ⟨?_, ?_, ?_⟩
  · rw [isPathChar, decide_eq_true (lt_toNat_of_isAlphanum h), Bool.true_and, Bool.not_eq_true',
      List.contains_eq_mem, decide_eq_false_iff_not]
    intro hmem
    rw [hother c hmem] at h
    cases h
  · rintro rfl
    cases h
  · rintro rfl
    cases h

theorem isQueryChar_of_isAlphanum {c : Char} (h : c.isAlphanum = true) :
    isQueryChar c = true := by
  have hother : ∀ d ∈ "<>\"".toList, d.isAlphanum = false := forall_mem_of_all (by decide)
  rw [isQueryChar, decide_eq_true (lt_toNat_of_isAlphanum h), Bool.true_and, Bool.not_eq_true',
    List.contains_eq_mem, decide_eq_false_iff_not]
  intro hmem
  rw [hother c hmem] at h
  cases h

theorem isQueryChar_of_mem_encode {c : Char} {text : List Char}
    (h : c ∈ Percent.encode nonAlphanumeric text) : isQueryChar c = true := by
  obtain ⟨b, hb, rfl⟩ := List.mem_map.mp h
  obtain ⟨x, -, hx⟩ := List.mem_flatMap.mp hb
  rcases Percent.mem_encodeByte hx with ⟨rfl, hkeeps⟩ | rfl | hhex
  · rw [Percent.keeps, Bool.and_eq_true, nonAlphanumeric, Bool.not_not] at hkeeps
    exact isQueryChar_of_isAlphanum hkeeps.2
  · decide
  · have hdigits : ∀ n < 256, Percent.isHex (UInt8.ofNat n) = true →
        isQueryChar (Char.ofNat (UInt8.ofNat n).toNat) = true := by
      decide +kernel
    have hb := hdigits b.toNat b.toNat_lt
    rw [UInt8.ofNat_toNat] at hb
    exact hb hhex

include hcrates in
theorem isQueryChar_of_mem_renderQuery {pairs : List (String × String)}
    (h : ∀ pair ∈ pairs, IsKey pair.1) {c : Char} (hc : c ∈ renderQuery crates pairs) :
    isQueryChar c = true := by
  rcases Words.mem_intercalate hc with rfl | ⟨part, hpart, hin⟩
  · decide
  · obtain ⟨pair, hpair, rfl⟩ := List.mem_map.mp hpart
    rw [renderPair, hcrates.percentEncode, List.mem_append, List.mem_cons] at hin
    rcases hin with hkey | rfl | hvalue
    · exact isQueryChar_of_isAlphanum (h pair hpair c hkey)
    · decide
    · exact isQueryChar_of_mem_encode hvalue

/-! ## The path of an endpoint -/

variable {port : UInt16} {w token : String} {session : Option String}

theorem path_endpointAt (hw : Workspaces.isValidId w = true) (hs : ∀ s ∈ session, InPath s) :
    (endpointAt port w session token).path = mcpPathPrefix ++ endpointName w session := by
  obtain ⟨-, hplain⟩ := plain_of_isValidId hw
  cases session with
  | none =>
      have h := uriPath_endpointUrl port hplain []
      rwa [List.append_nil, List.takeWhile_nil, List.append_nil] at h
  | some s =>
      have hself : (s.toList.takeWhile fun c => c ≠ '?' ∧ c ≠ '#') = s.toList :=
        List.takeWhile_eq_self_iff.mpr fun c hc => decide_eq_true ((hs s rfl).chars c hc).2
      have h := uriPath_sessionEndpointUrl port hplain s
      rwa [hself] at h

theorem isPathChar_of_mem (hw : Workspaces.isValidId w = true) (hs : ∀ s ∈ session, InPath s) :
    ∀ c ∈ mcpPathPrefix ++ endpointName w session ++ presencePathSuffix,
      isPathChar c = true ∧ c ≠ '?' ∧ c ≠ '#' := by
  have hliteral : ∀ c ∈ mcpPathPrefix ++ callerPathSegment ++ presencePathSuffix,
      isPathChar c = true ∧ c ≠ '?' ∧ c ≠ '#' := forall_mem_of_all (by decide)
  have hid : ∀ c ∈ w.toList, isPathChar c = true ∧ c ≠ '?' ∧ c ≠ '#' := by
    intro c hc
    simp only [Workspaces.isValidId, Bool.and_eq_true, List.all_eq_true, Bool.or_eq_true,
      beq_iff_eq] at hw
    rcases hw.2 c hc with (hlower | hdigit) | rfl
    · refine isPathChar_of_isAlphanum ?_
      change (c.isUpper || c.isLower || c.isDigit) = true
      rw [hlower, Bool.or_true, Bool.true_or]
    · refine isPathChar_of_isAlphanum ?_
      change (c.isAlpha || c.isDigit) = true
      rw [hdigit, Bool.or_true]
    · decide
  intro c hc
  rcases List.mem_append.mp hc with hc | hc
  · rcases List.mem_append.mp hc with hc | hc
    · exact hliteral c (List.mem_append_left _ (List.mem_append_left _ hc))
    · cases session with
      | none => exact hid c hc
      | some s =>
          rcases List.mem_append.mp hc with hc | hc
          · rcases List.mem_append.mp hc with hc | hc
            · exact hid c hc
            · exact hliteral c (List.mem_append_left _ (List.mem_append_right _ hc))
          · exact (hs s rfl).chars c hc
  · exact hliteral c (List.mem_append_right _ hc)

theorem endpointName_ne_nil (hw : Workspaces.isValidId w = true) :
    endpointName w session ≠ [] := by
  obtain ⟨hne, -⟩ := plain_of_isValidId hw
  cases session with
  | none => exact hne
  | some s => simp [endpointName, hne]

theorem rdropWhile_endpointName (hw : Workspaces.isValidId w = true)
    (hs : ∀ s ∈ session, InPath s) :
    (mcpPathPrefix ++ endpointName w session).rdropWhile (· == '/') =
      mcpPathPrefix ++ endpointName w session := by
  obtain ⟨hne, hplain⟩ := plain_of_isValidId hw
  have hslash : '/' ∉ w.toList := fun h => (hplain '/' h).1 rfl
  have hlast : (endpointName w session).getLast? ≠ some '/' := by
    cases session with
    | none => exact fun h => hslash (List.mem_of_getLast? h)
    | some s =>
        have hnil : s.toList ≠ [] := by simpa using (hs s rfl).ne_empty
        have hsome := (hs s rfl).trimmed
        rw [endpointName, List.getLast?_append_of_ne_nil _ hnil]
        exact hsome
  rw [List.rdropWhile_eq_self_iff]
  intro hnil hslash
  apply hlast
  rw [← List.getLast?_append_of_ne_nil mcpPathPrefix (endpointName_ne_nil hw),
    List.getLast?_eq_some_getLast hnil]
  exact congrArg some (eq_of_beq hslash)

theorem stripSuffix_append (rest suffix : List Char) :
    stripSuffix suffix (rest ++ suffix) = (rest, true) := by
  have hsome : (rest ++ suffix).dropSuffix? suffix = some rest :=
    List.dropSuffix?_eq_some_iff.mpr ⟨suffix, rfl, by simp⟩
  rw [stripSuffix, hsome]

theorem splitCaller_endpointName (hw : Workspaces.isValidId w = true)
    (hs : ∀ s ∈ session, InPath s) :
    splitCaller (endpointName w session) = (w.toList, session.map String.toList) := by
  obtain ⟨-, hplain⟩ := plain_of_isValidId hw
  have hslash : '/' ∉ w.toList := fun h => (hplain '/' h).1 rfl
  cases session with
  | none =>
      rw [endpointName, splitCaller, callerPathSegment_eq, splitAtSegment_eq_none hslash]
      rfl
  | some s => exact splitCaller_append hslash (by simpa using (hs s rfl).ne_empty)

/-- The listener reads the path of a presence stream as the endpoint it is held at. -/
theorem route_presence (hw : Workspaces.isValidId w = true) (hs : ∀ s ∈ session, InPath s) :
    route (mcpPathPrefix ++ endpointName w session ++ presencePathSuffix) =
      some ⟨w.toList, session.map String.toList, false, true⟩ := by
  have htrim : (endpointName w session ++ presencePathSuffix).rdropWhile (· == '/') =
      endpointName w session ++ presencePathSuffix := by
    rw [List.rdropWhile_eq_self_iff]
    intro hne hlast
    rw [List.getLast_append_of_ne_nil _ (by decide)] at hlast
    revert hlast
    decide
  have hcard : ¬ cardPathSuffix <:+ endpointName w session ++ presencePathSuffix := by
    rw [cardPathSuffix_eq, presencePathSuffix_eq, suffix_append_slash_iff (by decide)]
    decide
  have hne : (endpointName w session ++ presencePathSuffix).isEmpty = false := by
    rw [List.isEmpty_eq_false_iff]
    exact List.append_ne_nil_of_left_ne_nil (endpointName_ne_nil hw) _
  rw [List.append_assoc, route_append]
  simp only [htrim, hne, Bool.false_eq_true, if_false, stripSuffix_of_not hcard,
    stripSuffix_append, splitCaller_endpointName hw hs]

/-! ## The headers of the request -/

theorem toStr_utf8 {text : List Char} (h : ∀ c ∈ text, 32 ≤ c.toNat ∧ c.toNat < 127) :
    HeaderValue.toStr (Utf8.encode text) = some text := by
  have hascii : ∀ c ∈ text, c.toNat < 0x80 := fun c hc => Nat.lt_succ_of_lt (h c hc).2
  have hbytes : Utf8.encode text = text.map Percent.byteOf := by
    induction text with
    | nil => rfl
    | cons c text ih =>
        obtain ⟨hc, hrest⟩ := List.forall_mem_cons.mp hascii
        rw [Percent.utf8_cons, Percent.utf8EncodeChar_of_ascii hc,
          ih (fun d hd => h d (List.mem_cons_of_mem c hd)) hrest]
        rfl
  have hvisible : ((text.map Percent.byteOf).all
      fun b => (32 ≤ b && b < 127) || b == 9) = true := by
    rw [List.all_map, List.all_eq_true]
    intro c hc
    have hbyte := Percent.toNat_byteOf (hascii c hc)
    obtain ⟨hlow, hhigh⟩ := h c hc
    simp only [Function.comp_apply, Bool.or_eq_true, Bool.and_eq_true, decide_eq_true_eq,
      UInt8.le_iff_toNat_le, UInt8.lt_iff_toNat_lt, hbyte]
    exact Or.inl ⟨hlow, hhigh⟩
  rw [HeaderValue.toStr, hbytes, if_pos hvisible, List.map_map]
  conv_rhs => rw [← List.map_id text]
  exact congrArg some (List.map_congr_left fun c hc => Percent.charOf_byteOf (hascii c hc))

theorem isLoopbackAuthority_address (port : UInt16) :
    isLoopbackAuthority ("127.0.0.1".toList ++ ':' :: port.toNat.repr.toList) = true := by
  have hdigits : ∀ c ∈ port.toNat.repr.toList, c.isDigit = true :=
    (Words.isNumeral_repr port.toNat).digits
  let authority : Authority :=
    ⟨.ipv4 "127.0.0.1".toList (by decide), some ⟨port.toNat.repr.toList, hdigits⟩⟩
  have hrender : authority.render = "127.0.0.1".toList ++ ':' :: port.toNat.repr.toList := rfl
  have hhost : IsLoopbackHost "127.0.0.1".toList :=
    Or.inr ⟨.v4 ⟨127, 0, 0, 1⟩, by decide, by decide⟩
  rw [← hrender, isLoopbackAuthority_iff, trimBrackets_hostPart_render]
  exact hhost

theorem toNat_of_isAsciiHexdigit {c : Char} (h : Workspaces.isAsciiHexdigit c = true) :
    0x30 ≤ c.toNat ∧ c.toNat ≤ 0x66 := by
  have hnat : c.toNat = c.val.toNat := rfl
  have hlow : 'a'.val.toNat = 97 ∧ 'f'.val.toNat = 102 := ⟨rfl, rfl⟩
  have hup : 'A'.val.toNat = 65 ∧ 'F'.val.toNat = 70 := ⟨rfl, rfl⟩
  have hdigit : '0'.val.toNat = 48 ∧ '9'.val.toNat = 57 := ⟨rfl, rfl⟩
  simp only [Workspaces.isAsciiHexdigit, Char.isDigit, Bool.or_eq_true, Bool.and_eq_true,
    decide_eq_true_eq, Char.le_def, ge_iff_le, UInt32.le_iff_toNat_le] at h
  omega

theorem toNat_of_isDigit {c : Char} (h : c.isDigit = true) : 32 ≤ c.toNat ∧ c.toNat < 127 := by
  have hhex : Workspaces.isAsciiHexdigit c = true := by simp [Workspaces.isAsciiHexdigit, h]
  have hrange := toNat_of_isAsciiHexdigit hhex
  omega

theorem not_isWhitespace_of_le {c : Char} (h : 0x30 ≤ c.toNat ∧ c.toNat ≤ 0x66) :
    Words.isWhitespace c = false := by
  rw [← Bool.not_eq_true]
  simp only [Words.isWhitespace, Bool.or_eq_true, Bool.and_eq_true, decide_eq_true_eq, beq_iff_eq]
  omega

theorem trim_of_not_isWhitespace {text : List Char}
    (h : ∀ c ∈ text, Words.isWhitespace c = false) :
    (text.dropWhile Words.isWhitespace).rdropWhile Words.isWhitespace = text := by
  have hdrop : text.dropWhile Words.isWhitespace = text := by
    cases text with
    | nil => rfl
    | cons c text => exact List.dropWhile_cons_of_neg (by simp [h c List.mem_cons_self])
  rw [hdrop, List.rdropWhile_eq_self_iff]
  intro hne hlast
  rw [h _ (List.getLast_mem hne)] at hlast
  cases hlast

theorem checkRequest_bridgeHeaders (htoken : Workspaces.isValidToken token = true) :
    checkRequest (bridgeHeaders (endpointAt port w session token)) = .ok token.toList := by
  rw [Workspaces.isValidToken, Bool.and_eq_true, List.all_eq_true, beq_iff_eq] at htoken
  have hrange : ∀ c ∈ token.toList, 0x30 ≤ c.toNat ∧ c.toNat ≤ 0x66 :=
    fun c hc => toNat_of_isAsciiHexdigit (htoken.2 c hc)
  have hne : token.toList ≠ [] := by
    intro hnil
    rw [hnil] at htoken
    cases htoken.1
  have hliteral : ∀ c ∈ "127.0.0.1".toList ++ "Bearer ".toList, 32 ≤ c.toNat ∧ c.toNat < 127 :=
    forall_mem_of_all (by decide)
  have hhost : HeaderValue.toStr (Utf8.encode ("127.0.0.1".toList ++
      ':' :: port.toNat.repr.toList)) = some ("127.0.0.1".toList ++
        ':' :: port.toNat.repr.toList) := by
    apply toStr_utf8
    intro c hc
    rcases List.mem_append.mp hc with hc | hc
    · exact hliteral c (List.mem_append_left _ hc)
    · rcases List.mem_cons.mp hc with rfl | hc
      · decide
      · exact toNat_of_isDigit ((Words.isNumeral_repr port.toNat).digits c hc)
  have hbearer : bearerToken (bridgeHeaders (endpointAt port w session token)) =
      some token.toList := by
    have htext : HeaderValue.toStr (Utf8.encode ("Bearer ".toList ++ token.toList)) =
        some ("Bearer ".toList ++ token.toList) := by
      apply toStr_utf8
      intro c hc
      rcases List.mem_append.mp hc with hc | hc
      · exact hliteral c (List.mem_append_right _ hc)
      · have hc := hrange c hc
        omega
    have hsplit : splitAtSegment [' '] ("Bearer ".toList ++ token.toList) =
        some ("Bearer".toList, ' ' :: token.toList) :=
      @splitAtSegment_append ' ' [] "Bearer".toList token.toList (by decide)
    have hscheme : eqIgnoreAsciiCase "Bearer".toList "bearer".toList = true := by decide
    have htrim := trim_of_not_isWhitespace fun c hc => not_isWhitespace_of_le (hrange c hc)
    have hheader : bridgeHeaders (endpointAt port w session token) .authorization =
        some (Utf8.encode ("Bearer ".toList ++ token.toList)) := rfl
    simp only [bearerToken, hheader, Option.bind_eq_bind, Option.bind_some, htext, hsplit,
      hscheme, Bool.not_true, Bool.false_eq_true, if_false, List.drop_succ_cons, List.drop_zero,
      htrim, List.isEmpty_iff, if_neg hne]
  have hguard : checkLoopback (bridgeHeaders (endpointAt port w session token)) = .ok () := by
    rw [checkLoopback_eq_ok_iff]
    refine ⟨?_, fun v hv => by cases hv⟩
    intro v hv
    cases hv
    exact ⟨_, hhost, isLoopbackAuthority_address port⟩
  rw [checkRequest, andThen_eq_ok_iff]
  exact ⟨hguard, by rw [hbearer]⟩

/-! ## From the bridge to the list -/

variable {state : McpState}

theorem presenceTarget_endpointAt (pairs : List (String × String))
    (hw : Workspaces.isValidId w = true) (hs : ∀ s ∈ session, InPath s) :
    presenceTarget crates (endpointAt port w session token) pairs =
      (mcpPathPrefix ++ endpointName w session ++ presencePathSuffix) ++
        '?' :: renderQuery crates pairs := by
  rw [presenceTarget, path_endpointAt hw hs, rdropWhile_endpointName hw hs]

include hcrates

theorem holdPresence_endpointAt (pid : UInt32) (clientInfo : Option ClientInfo)
    (workingDir : Option String) (hw : Workspaces.isValidId w = true)
    (hs : ∀ s ∈ session, InPath s)
    (hlength : (Utf8.encode (presenceTarget crates (endpointAt port w session token)
      (presenceQuery pid clientInfo workingDir))).length ≤ maxUriLength) :
    holdPresence crates (endpointAt port w session token) pid clientInfo workingDir = some
      { isGet := true
        path := mcpPathPrefix ++ endpointName w session ++ presencePathSuffix
        headers := bridgeHeaders (endpointAt port w session token)
        query := renderQuery crates (presenceQuery pid clientInfo workingDir) } := by
  have hkeys := @isKey_of_mem_presenceQuery pid clientInfo workingDir
  have hchars := isPathChar_of_mem hw hs
  have hinner := fun c hc => (hchars c hc).2
  have hpath := @uriPath_target _ (renderQuery crates (presenceQuery pid clientInfo workingDir))
    rfl hinner
  have hquery := uriQuery_target hinner (notMem_renderQuery hcrates hkeys (by decide))
  have htarget := @presenceTarget_endpointAt crates port w token session
    (presenceQuery pid clientInfo workingDir) hw hs
  rw [htarget] at hlength
  have haccepted : isTarget ((mcpPathPrefix ++ endpointName w session ++ presencePathSuffix) ++
      '?' :: renderQuery crates (presenceQuery pid clientInfo workingDir)) = true := by
    rw [isTarget, hpath, hquery, Bool.and_eq_true, List.all_eq_true, List.all_eq_true]
    exact ⟨fun c hc => (hchars c hc).1,
      fun c hc => isQueryChar_of_mem_renderQuery hcrates hkeys hc⟩
  have hparse := hcrates.parseUri [] _ .none
    (rfl : ((mcpPathPrefix ++ endpointName w session ++ presencePathSuffix) ++
      '?' :: renderQuery crates (presenceQuery pid clientInfo workingDir)).head? = some '/')
  rw [List.nil_append, if_pos ⟨hlength, haccepted⟩, hpath, hquery] at hparse
  rw [holdPresence, htarget, hparse]
  rfl

/-- The client that holds a presence stream is listed by the workspace of its endpoint, once
and behind the clients that were there, as the client that it said it is and in the session
that its endpoint names. -/
theorem listed_holdPresence (pid : UInt32) (clientInfo : Option ClientInfo)
    (workingDir : Option String) (lease now : ℕ) (record : Workspace)
    (hw : Workspaces.isValidId w = true) (hs : ∀ s ∈ session, InPath s)
    (hlength : (Utf8.encode (presenceTarget crates (endpointAt port w session token)
      (presenceQuery pid clientInfo workingDir))).length ≤ maxUriLength)
    (htoken : Workspaces.isValidToken token = true)
    (hreaches : state.workspaces.workspaceForToken state.order token = some w)
    (hrecord : state.workspaces.lookup w = some record) :
    ∃ request updated,
      holdPresence crates (endpointAt port w session token) pid clientInfo workingDir =
        some request ∧
      presenceLease crates state request lease now = some (w, updated) ∧
      updated.clientList = record.clientList ++
        [{ described pid clientInfo workingDir (session.map String.toList) with
            id := record.nextClientId + 1
            connectedAt := now }] := by
  refine ⟨_, (record.addClient lease now
    (described pid clientInfo workingDir (session.map String.toList))).1,
    holdPresence_endpointAt hcrates pid clientInfo workingDir hw hs hlength, ?_, ?_⟩
  · have hcall : call state
        { isGet := true
          path := mcpPathPrefix ++ endpointName w session ++ presencePathSuffix
          headers := bridgeHeaders (endpointAt port w session token) } =
        .presence w (session.map String.toList) := by
      simp only [call, route_presence hw hs, Bool.false_eq_true, if_false,
        checkRequest_bridgeHeaders htoken, String.ofList_toList, hreaches, ne_eq, not_true_eq_false,
        if_true, presenceResponse, Bool.not_true, hrecord]
    rw [presenceLease, hcall]
    simp only [hrecord, Option.map_some, identify_presenceQuery hcrates]
  · simp [Workspace.clientList, Workspace.addClient]

omit hcrates

/-! ## Crates that do as documented -/

def sampleCrates : Crates where
  parseUri text :=
    let target := ((text.dropPrefix? httpScheme).getD text).dropWhile
      fun c => c ≠ '/' ∧ c ≠ '?' ∧ c ≠ '#'
    if (Utf8.encode text).length ≤ maxUriLength ∧ isTarget target = true then
      some ⟨uriPath target, uriQuery target⟩
    else none
  percentEncode := Percent.encode
  percentDecode := Percent.decode

theorem dropWhile_target {target : List Char} (htarget : target.head? = some '/') :
    target.dropPrefix? httpScheme = none ∧
      target.dropWhile (fun c => c ≠ '/' ∧ c ≠ '?' ∧ c ≠ '#') = target := by
  cases target with
  | nil => cases htarget
  | cons c rest =>
      obtain rfl : c = '/' := Option.some.inj htarget
      exact ⟨rfl, List.dropWhile_cons_of_neg (by decide)⟩

theorem dropWhile_address {address target : List Char} (haddress : ∀ c ∈ address, Plain c)
    (htarget : target.head? = some '/') :
    (((httpScheme ++ address ++ target).dropPrefix? httpScheme).getD
      (httpScheme ++ address ++ target)).dropWhile (fun c => c ≠ '/' ∧ c ≠ '?' ∧ c ≠ '#') =
        target := by
  have hdrop : (httpScheme ++ address ++ target).dropPrefix? httpScheme =
      some (address ++ target) := by
    rw [List.append_assoc]
    exact List.dropPrefix?_append_of_beq _ (beq_self_eq_true _)
  have hinner : ∀ c ∈ address, decide (c ≠ '/' ∧ c ≠ '?' ∧ c ≠ '#') = true :=
    fun c hc => decide_eq_true (haddress c hc)
  rw [hdrop, Option.getD_some, List.dropWhile_append_of_pos hinner]
  exact (dropWhile_target htarget).2

theorem plain_of_isHostChar {c : Char} (h : isHostChar c = true) : Plain c := by
  refine ⟨?_, ?_, ?_⟩
  all_goals
    rintro rfl
    revert h
    decide

theorem documented_sampleCrates : sampleCrates.Documented where
  parseUri origin target horigin htarget := by
    have hrest : (((origin ++ target).dropPrefix? httpScheme).getD (origin ++ target)).dropWhile
        (fun c => c ≠ '/' ∧ c ≠ '?' ∧ c ≠ '#') = target := by
      cases horigin with
      | none =>
          rw [List.nil_append, (dropWhile_target htarget).1, Option.getD_none]
          exact (dropWhile_target htarget).2
      | host hne hhost =>
          exact dropWhile_address
            (fun c hc => plain_of_isHostChar (List.all_eq_true.mp hhost c hc)) htarget
      | port hne hhost port =>
          refine dropWhile_address (fun c hc => ?_) htarget
          rcases List.mem_append.mp hc with hc | hc
          · exact plain_of_isHostChar (List.all_eq_true.mp hhost c hc)
          · rcases List.mem_cons.mp hc with rfl | hc
            · exact ⟨by decide, by decide, by decide⟩
            · exact plain_of_mem_repr hc
    simp only [sampleCrates, hrest]
  percentEncode := rfl
  percentDecode := rfl

def quietState : McpState where
  workspaces := AList.insert "w" (.new "W" (String.ofList (List.replicate 64 'a'))) ∅
  order := ["w"]
  port := some 4567
  serves := fun _ _ => true

theorem listed_holdPresence_quiet :
    ∃ request updated,
      holdPresence sampleCrates (endpointAt 4567 "w" (some "python-1") (String.ofList (List.replicate 64 'a')))
        77 (some ⟨"agent & co", none⟩) (some "/home/ü") = some request ∧
      presenceLease sampleCrates quietState request 0 5 = some ("w", updated) ∧
      updated.clientList = [] ++
        [{ described 77 (some ⟨"agent & co", none⟩) (some "/home/ü") (some "python-1".toList) with
            id := 1
            connectedAt := 5 }] := by
  refine listed_holdPresence documented_sampleCrates 77 (some ⟨"agent & co", none⟩)
    (some "/home/ü") 0 5 (.new "W" (String.ofList (List.replicate 64 'a'))) (by decide) ?_
    (by decide +kernel) (by decide) (by decide) rfl
  rintro s ⟨⟩
  exact ⟨by decide, forall_mem_of_all (by decide), by decide⟩

end Listener

end Kallichore
