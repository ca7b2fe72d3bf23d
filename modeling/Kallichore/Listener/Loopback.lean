import Kallichore.Lib.IpAddr
import Kallichore.Listener.Route

/-!
# Requests from this machine

The MCP listener is bound to a loopback address, but a browser on the same machine can be
led to it by a page from anywhere. So a request whose `Host` or `Origin` header does not name
this machine is refused before anything else about it is looked at.

The host of an authority is what is before the last colon, if what is after it can be a port,
and without brackets. That is not a parser of authorities, and it takes texts for hosts that
are none; of an authority it is the host.
-/

namespace Kallichore

namespace Listener

open Words Net StdioBridge

/-- Texts that are equal up to the case of ASCII letters. -/
def eqIgnoreAsciiCase (a b : List Char) : Bool := a.map Char.toLower == b.map Char.toLower

/-- What `is_loopback_authority` takes for the host: an IPv6 literal keeps its brackets, and
a bare `[::1]` has no port. -/
def hostPart (authority : List Char) : List Char :=
  match rsplitOnce ':' authority with
  | some (host, port) =>
      if host.getLast? ≠ some '[' ∧ port.all Char.isDigit = true then host else authority
  | none => authority

def trimBrackets (host : List Char) : List Char :=
  (host.dropWhile (· == '[')).rdropWhile (· == ']')

/-- Whether a `Host` header value names the local machine. -/
def isLoopbackAuthority (authority : List Char) : Bool :=
  let host := trimBrackets (hostPart authority)
  if eqIgnoreAsciiCase host "localhost".toList then true
  else
    match IpAddr.fromStr host with
    | some addr => addr.isLoopback
    | none => false

/-- Whether an `Origin` header value names a loopback origin. -/
def isLoopbackOrigin (origin : List Char) : Bool :=
  match splitAtSegment "://".toList origin with
  | none => false
  | some (scheme, rest) =>
      if !eqIgnoreAsciiCase scheme "http".toList && !eqIgnoreAsciiCase scheme "https".toList then
        false
      else isLoopbackAuthority (rest.drop 3)

/-! ## The guards of a request -/

inductive HeaderName
  | host
  | origin
  | authorization
  deriving DecidableEq, Repr

abbrev HeaderValue := List UInt8

/-- The headers of a request, by the value that is got for a name. -/
abbrev HeaderMap := HeaderName → Option HeaderValue

/-- `HeaderValue::to_str`: the value as text, if it is visible ASCII. -/
def HeaderValue.toStr (value : HeaderValue) : Option (List Char) :=
  if value.all fun b => (32 ≤ b && b < 127) || b == 9 then
    some (value.map fun b => Char.ofNat b.toNat)
  else none

inductive AuthRejection
  /-- The `Host` or `Origin` header did not name a loopback address. -/
  | forbidden (reason : String)
  /-- No usable bearer token was presented. -/
  | unauthorized (reason : String)
  deriving DecidableEq, Repr

/-- A header is accepted if it is absent, or text that passes. -/
def checkHeader (value : Option HeaderValue) (passes : List Char → Bool) (notText : String)
    (refusal : String → String) : Except AuthRejection Unit :=
  match value with
  | none => .ok ()
  | some value =>
      match HeaderValue.toStr value with
      | none => .error (.forbidden notText)
      | some text =>
          if passes text then .ok () else .error (.forbidden (refusal (String.ofList text)))

def checkLoopback (headers : HeaderMap) : Except AuthRejection Unit := do
  checkHeader (headers .host) isLoopbackAuthority "Host header is not valid text" fun host =>
    "Host '" ++ host ++ "' is not a loopback address"
  checkHeader (headers .origin) isLoopbackOrigin "Origin header is not valid text" fun origin =>
    "Origin '" ++ origin ++ "' is not a loopback origin"

/-- Extract the token from an `Authorization: Bearer <token>` header. -/
def bearerToken (headers : HeaderMap) : Option (List Char) := do
  let value ← HeaderValue.toStr (← headers .authorization)
  let (scheme, rest) ← splitAtSegment [' '] value
  if !eqIgnoreAsciiCase scheme "bearer".toList then none
  else
    let token := ((rest.drop 1).dropWhile isWhitespace).rdropWhile isWhitespace
    if token.isEmpty then none else some token

/-- Apply the loopback guards and return the bearer token the request presented. -/
def checkRequest (headers : HeaderMap) : Except AuthRejection (List Char) := do
  checkLoopback headers
  match bearerToken headers with
  | some token => .ok token
  | none => .error (.unauthorized "No bearer token supplied")

/-! ## Authorities -/

/-- The characters of registered names: unreserved ones, delimiters inside a component, and
those of percent-encodings. -/
def isNameChar (c : Char) : Bool := c.isAlphanum || "-._~!$&'()*+,;=%".toList.contains c

/-- The host of an authority. A literal in brackets is an IPv6 literal. -/
inductive Host
  | regName (name : List Char) (chars : ∀ c ∈ name, isNameChar c = true)
  | ipv4 (literal : List Char) (valid : (Ipv4Addr.fromStr literal).isSome = true)
  | ipv6 (literal : List Char) (valid : (Ipv6Addr.fromStr literal).isSome = true)

structure Port where
  digits : List Char
  isDigit : ∀ c ∈ digits, c.isDigit = true

/-- An authority without user information. -/
structure Authority where
  host : Host
  port : Option Port

/-- The host without the brackets of an IPv6 literal. -/
def Host.text : Host → List Char
  | .regName name _ => name
  | .ipv4 literal _ => literal
  | .ipv6 literal _ => literal

def Host.render : Host → List Char
  | .regName name _ => name
  | .ipv4 literal _ => literal
  | .ipv6 literal _ => '[' :: (literal ++ [']'])

def Authority.render (authority : Authority) : List Char :=
  authority.host.render ++
    match authority.port with
    | none => []
    | some port => ':' :: port.digits

/-- The character has no meaning for where a host ends. -/
def Inner (c : Char) : Prop := c ≠ ':' ∧ c ≠ '[' ∧ c ≠ ']'

theorem inner_of_isNameChar {c : Char} (h : isNameChar c = true) : Inner c := by
  refine ⟨?_, ?_, ?_⟩
  all_goals
    rintro rfl
    revert h
    decide

theorem inner_of_isDigit {c : Char} (h : c.isDigit = true) : Inner c := by
  refine ⟨?_, ?_, ?_⟩
  all_goals
    rintro rfl
    cases h

theorem ne_bracket_of_isLiteralChar {c : Char} (h : isLiteralChar c = true) :
    c ≠ '[' ∧ c ≠ ']' := by
  constructor
  all_goals
    rintro rfl
    revert h
    decide

theorem dropWhile_of_notMem {c : Char} {text : List Char} (h : c ∉ text) :
    text.dropWhile (· == c) = text := by
  cases text with
  | nil => rfl
  | cons d text =>
      rw [List.mem_cons, not_or] at h
      exact List.dropWhile_cons_of_neg (by simpa using Ne.symm h.1)

theorem trimBrackets_of_notMem {host : List Char} (hopen : '[' ∉ host) (hclose : ']' ∉ host) :
    trimBrackets host = host := by
  rw [trimBrackets, dropWhile_of_notMem hopen, rdropWhile_of_notMem hclose]

theorem trimBrackets_brackets {host : List Char} (hopen : '[' ∉ host) (hclose : ']' ∉ host) :
    trimBrackets ('[' :: (host ++ [']'])) = host := by
  have hrest : '[' ∉ host ++ [']'] := by simpa using hopen
  rw [trimBrackets, List.dropWhile_cons_of_pos rfl, dropWhile_of_notMem hrest,
    List.rdropWhile_concat_pos _ _ _ rfl, rdropWhile_of_notMem hclose]

/-- What is after a colon inside brackets is no port, because of the closing bracket. -/
theorem hostPart_brackets (host : List Char) :
    hostPart ('[' :: (host ++ [']'])) = '[' :: (host ++ [']']) := by
  rw [hostPart]
  split
  next before after hsplit =>
    have heq := eq_append_of_rsplitOnce hsplit
    have hlast : (':' :: after).getLast? = some ']' := by
      have h := congrArg List.getLast? heq
      rw [← List.cons_append, List.getLast?_concat, List.getLast?_append_cons] at h
      exact h.symm
    have hmem : ']' ∈ after := by
      rcases List.mem_cons.mp (List.mem_of_getLast? hlast) with hcolon | hmem
      · cases hcolon
      · exact hmem
    refine if_neg fun h => ?_
    have hdigit := List.all_eq_true.mp h.2 ']' hmem
    cases hdigit
  next => rfl

theorem hostPart_of_notMem {host : List Char} (h : ':' ∉ host) : hostPart host = host := by
  rw [hostPart, rsplitOnce_eq_none h]

theorem hostPart_append_port {host : List Char} (hlast : host.getLast? ≠ some '[') (port : Port) :
    hostPart (host ++ ':' :: port.digits) = host := by
  have hcolon : ':' ∉ port.digits := fun hmem => (inner_of_isDigit (port.isDigit _ hmem)).1 rfl
  have hdigits : port.digits.all Char.isDigit = true := List.all_eq_true.mpr port.isDigit
  simp only [hostPart, rsplitOnce_append host hcolon]
  exact if_pos ⟨hlast, hdigits⟩

theorem hostPart_render {host : Host} (h : hostPart host.render = host.render)
    (hlast : host.render.getLast? ≠ some '[') (port : Option Port) :
    hostPart (Authority.render { host, port }) = host.render := by
  cases port with
  | none =>
      rw [Authority.render, List.append_nil]
      exact h
  | some port => exact hostPart_append_port hlast port

/-- A host that is not in brackets and has none of the characters that matter is found. -/
theorem trimBrackets_hostPart_of_inner {host : Host} (h : ∀ c ∈ host.render, Inner c)
    (port : Option Port) :
    trimBrackets (hostPart (Authority.render { host, port })) = host.render := by
  have hcolon : ':' ∉ host.render := fun hmem => (h _ hmem).1 rfl
  have hopen : '[' ∉ host.render := fun hmem => (h _ hmem).2.1 rfl
  have hclose : ']' ∉ host.render := fun hmem => (h _ hmem).2.2 rfl
  rw [hostPart_render (hostPart_of_notMem hcolon) _ port, trimBrackets_of_notMem hopen hclose]
  exact fun hlast => hopen (List.mem_of_getLast? hlast)

theorem trimBrackets_hostPart_render (authority : Authority) :
    trimBrackets (hostPart authority.render) = authority.host.text := by
  obtain ⟨host, port⟩ := authority
  cases host with
  | regName name chars =>
      have hinner : ∀ c ∈ (Host.regName name chars).render, Inner c :=
        fun c hc => inner_of_isNameChar (chars c hc)
      exact trimBrackets_hostPart_of_inner hinner port
  | ipv4 literal valid =>
      refine trimBrackets_hostPart_of_inner (fun c hc => ?_) port
      rcases Ipv4Addr.isDigit_of_fromStr valid c hc with hdigit | rfl
      · exact inner_of_isDigit hdigit
      · exact ⟨by decide, by decide, by decide⟩
  | ipv6 literal valid =>
      have hchars := Ipv6Addr.isLiteralChar_of_fromStr valid
      have hlast : (Host.ipv6 literal valid).render.getLast? ≠ some '[' := by
        rw [Host.render, ← List.cons_append, List.getLast?_concat]
        decide
      have hpart : hostPart (Host.ipv6 literal valid).render = (Host.ipv6 literal valid).render :=
        hostPart_brackets literal
      rw [hostPart_render hpart hlast port]
      apply trimBrackets_brackets
      · exact fun hmem => (ne_bracket_of_isLiteralChar (hchars _ hmem)).1 rfl
      · exact fun hmem => (ne_bracket_of_isLiteralChar (hchars _ hmem)).2 rfl

/-- A text that is read as a loopback host: the name, or a literal of a loopback address. -/
def IsLoopbackHost (host : List Char) : Prop :=
  eqIgnoreAsciiCase host "localhost".toList = true ∨
    ∃ addr, IpAddr.fromStr host = some addr ∧ addr.isLoopback = true

theorem isLoopbackAuthority_iff (authority : List Char) :
    isLoopbackAuthority authority = true ↔
      IsLoopbackHost (trimBrackets (hostPart authority)) := by
  simp only [isLoopbackAuthority, IsLoopbackHost]
  split
  next hname => exact iff_of_true rfl (Or.inl hname)
  next hname =>
    rw [or_iff_right hname]
    cases IpAddr.fromStr (trimBrackets (hostPart authority)) with
    | none => simp
    | some addr => simp

/-! ## Origins -/

def IsHttpScheme (scheme : List Char) : Prop :=
  eqIgnoreAsciiCase scheme "http".toList = true ∨ eqIgnoreAsciiCase scheme "https".toList = true

theorem otherScheme_iff (scheme : List Char) :
    (!eqIgnoreAsciiCase scheme "http".toList && !eqIgnoreAsciiCase scheme "https".toList) = true ↔
      ¬ IsHttpScheme scheme := by
  rw [Bool.and_eq_true, Bool.not_eq_true', Bool.not_eq_true', IsHttpScheme, not_or,
    Bool.not_eq_true, Bool.not_eq_true]

theorem colon_notMem_of_isHttpScheme {scheme : List Char} (h : IsHttpScheme scheme) :
    ':' ∉ scheme := by
  intro hmem
  have hlower : ':' ∈ scheme.map Char.toLower := List.mem_map.mpr ⟨':', hmem, rfl⟩
  rcases h with h | h
  · rw [eq_of_beq h] at hlower
    revert hlower
    decide
  · rw [eq_of_beq h] at hlower
    revert hlower
    decide

/-- An origin is accepted exactly if it is one of the two schemes and an authority that is. -/
theorem isLoopbackOrigin_iff (origin : List Char) :
    isLoopbackOrigin origin = true ↔
      ∃ scheme authority, origin = scheme ++ "://".toList ++ authority ∧
        IsHttpScheme scheme ∧ isLoopbackAuthority authority = true := by
  constructor
  · intro h
    rw [isLoopbackOrigin] at h
    split at h
    next => cases h
    next scheme rest hsplit =>
      obtain ⟨rfl, authority, rfl⟩ := eq_append_of_splitAtSegment hsplit
      split at h
      next => cases h
      next hscheme =>
        rw [otherScheme_iff, not_not] at hscheme
        exact ⟨scheme, authority, (List.append_assoc _ _ _).symm, hscheme, h⟩
  · rintro ⟨scheme, authority, rfl, hscheme, hauthority⟩
    have hsplit : splitAtSegment "://".toList (scheme ++ "://".toList ++ authority) =
        some (scheme, "://".toList ++ authority) :=
      splitAtSegment_append (colon_notMem_of_isHttpScheme hscheme)
    simp only [isLoopbackOrigin, hsplit]
    rw [if_neg fun hother => (otherScheme_iff scheme).mp hother hscheme]
    exact hauthority

/-! ## The guards are exact -/

/-- A header is absent, or text that passes. -/
def Accepted (value : Option HeaderValue) (passes : List Char → Bool) : Prop :=
  ∀ v, value = some v → ∃ text, HeaderValue.toStr v = some text ∧ passes text = true

theorem checkHeader_eq_ok_iff {value : Option HeaderValue} {passes : List Char → Bool}
    {notText : String} {refusal : String → String} :
    checkHeader value passes notText refusal = .ok () ↔ Accepted value passes := by
  cases value with
  | none => exact iff_of_true rfl fun v hv => by cases hv
  | some v =>
      have haccepted : Accepted (some v) passes ↔
          ∃ text, HeaderValue.toStr v = some text ∧ passes text = true := by
        simp [Accepted]
      rw [haccepted]
      simp only [checkHeader]
      cases HeaderValue.toStr v with
      | none => simp
      | some text => simp

theorem andThen_eq_ok_iff {ε α : Type} {x : Except ε Unit} {y : Except ε α} {a : α} :
    (x >>= fun _ => y) = .ok a ↔ x = .ok () ∧ y = .ok a := by
  cases x with
  | error e =>
      refine iff_of_false ?_ ?_
      · intro h
        cases h
      · rintro ⟨⟨⟩, -⟩
  | ok u => exact (and_iff_right rfl).symm

theorem checkLoopback_eq_ok_iff (headers : HeaderMap) :
    checkLoopback headers = .ok () ↔
      Accepted (headers .host) isLoopbackAuthority ∧
        Accepted (headers .origin) isLoopbackOrigin := by
  rw [checkLoopback, andThen_eq_ok_iff, checkHeader_eq_ok_iff, checkHeader_eq_ok_iff]

/-- The guards let through what names this machine: an authority exactly if its host is the
name in any case or a literal of a loopback address, an origin exactly if it has one of the
two schemes and such an authority, and a request exactly if each of the two headers is absent
or accepted. -/
theorem loopback_guards_exact :
    (∀ authority : Authority, isLoopbackAuthority authority.render = true ↔
      IsLoopbackHost authority.host.text) ∧
    (∀ origin : List Char, isLoopbackOrigin origin = true ↔
      ∃ scheme authority, origin = scheme ++ "://".toList ++ authority ∧
        IsHttpScheme scheme ∧ isLoopbackAuthority authority = true) ∧
    ∀ headers : HeaderMap, checkLoopback headers = .ok () ↔
      Accepted (headers .host) isLoopbackAuthority ∧
        Accepted (headers .origin) isLoopbackOrigin := by
  refine ⟨fun authority => ?_, isLoopbackOrigin_iff, checkLoopback_eq_ok_iff⟩
  rw [isLoopbackAuthority_iff, trimBrackets_hostPart_render]

example : isLoopbackAuthority "[0:0::1]:".toList = true ∧
    isLoopbackAuthority "[::1234]".toList = false ∧
    isLoopbackAuthority "LocalHost:5000".toList = true := by decide

end Listener

end Kallichore
