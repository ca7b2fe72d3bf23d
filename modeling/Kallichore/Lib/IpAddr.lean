import Kallichore.Lib.Words

/-!
# Literals of IP addresses

The texts that are read as addresses: four decimal numbers of at most 255, without leading
zeros; or eight groups of up to four hexadecimal digits, where two colons stand for at least
one group of zeros, once, and the last two groups may be written as an IPv4 address. Nothing
else is read, so brackets, ports, scopes and other bases are not.
-/

namespace Net

structure Ipv4Addr where
  a : UInt8
  b : UInt8
  c : UInt8
  d : UInt8
  deriving DecidableEq

structure Ipv6Addr where
  segments : List UInt16
  length_segments : segments.length = 8
  deriving DecidableEq

inductive IpAddr
  | v4 (addr : Ipv4Addr)
  | v6 (addr : Ipv6Addr)
  deriving DecidableEq

def Ipv4Addr.isLoopback (addr : Ipv4Addr) : Bool := addr.a == 127

def Ipv6Addr.isLoopback (addr : Ipv6Addr) : Bool := addr.segments == [0, 0, 0, 0, 0, 0, 0, 1]

def IpAddr.isLoopback : IpAddr → Bool
  | .v4 addr => addr.isLoopback
  | .v6 addr => addr.isLoopback

/-- A decimal number of at most 255, without leading zeros. -/
def parseOctet (text : List Char) : Option UInt8 :=
  if text.all Char.isDigit && 0 < text.length && text.length ≤ 3 &&
      (text.head? != some '0' || text.length == 1) && Nat.ofDigitChars 10 text 0 ≤ 255 then
    some (UInt8.ofNat (Nat.ofDigitChars 10 text 0))
  else none

/-- `Ipv4Addr::from_str`. -/
def Ipv4Addr.fromStr (text : List Char) : Option Ipv4Addr :=
  match text.splitOn '.' with
  | [a, b, c, d] => do
      some { a := ← parseOctet a, b := ← parseOctet b, c := ← parseOctet c, d := ← parseOctet d }
  | _ => none

def isHexDigit (c : Char) : Bool := c.isDigit || ('a' ≤ c && c ≤ 'f') || ('A' ≤ c && c ≤ 'F')

def hexDigitValue (c : Char) : ℕ :=
  if c.isDigit then c.toNat - 48 else if 'a' ≤ c then c.toNat - 87 else c.toNat - 55

def parseGroup (text : List Char) : Option UInt16 :=
  if text.all isHexDigit && 0 < text.length && text.length ≤ 4 then
    some (UInt16.ofNat (text.foldl (fun n c => 16 * n + hexDigitValue c) 0))
  else none

def Ipv4Addr.groups (addr : Ipv4Addr) : List UInt16 :=
  [UInt16.ofNat (256 * addr.a.toNat + addr.b.toNat),
    UInt16.ofNat (256 * addr.c.toNat + addr.d.toNat)]

/-- Groups, the last two of which may be an IPv4 address if that is allowed. -/
def parseGroups (allowIpv4 : Bool) : List (List Char) → Option (List UInt16)
  | [] => some []
  | [part] =>
      if allowIpv4 && part.contains '.' then (Ipv4Addr.fromStr part).map Ipv4Addr.groups
      else (parseGroup part).map fun group => [group]
  | part :: next :: parts => do
      let group ← parseGroup part
      let groups ← parseGroups allowIpv4 (next :: parts)
      some (group :: groups)

def splitColons (text : List Char) : List (List Char) :=
  if text.isEmpty then [] else text.splitOn ':'

/-- What is before the first two colons, and what is after them. -/
def splitGap : List Char → Option (List Char × List Char)
  | [] => none
  | c :: text =>
      if c = ':' ∧ text.head? = some ':' then some ([], text.tail)
      else (splitGap text).map fun (head, tail) => (c :: head, tail)

/-- Eight groups, none of which is left out. -/
def Ipv6Addr.ofGroups (groups : List UInt16) : Option Ipv6Addr :=
  if h : groups.length = 8 then some ⟨groups, h⟩ else none

/-- `Ipv6Addr::from_str`. -/
def Ipv6Addr.fromStr (text : List Char) : Option Ipv6Addr :=
  match splitGap text with
  | none => (parseGroups true (splitColons text)).bind Ipv6Addr.ofGroups
  | some (head, tail) => do
      let before ← parseGroups false (splitColons head)
      let after ← parseGroups true (splitColons tail)
      let left := 8 - (before.length + after.length)
      if left = 0 then none
      else Ipv6Addr.ofGroups (before ++ List.replicate left 0 ++ after)

/-- `IpAddr::from_str`. -/
def IpAddr.fromStr (text : List Char) : Option IpAddr :=
  match Ipv4Addr.fromStr text with
  | some addr => some (.v4 addr)
  | none => (Ipv6Addr.fromStr text).map .v6

/-! ## What literals are made of -/

theorem isDigit_of_parseOctet {text : List Char} (h : (parseOctet text).isSome = true) :
    ∀ c ∈ text, c.isDigit = true := by
  rw [parseOctet] at h
  split at h
  next hall =>
    simp only [Bool.and_eq_true, List.all_eq_true] at hall
    exact hall.1.1.1.1
  next => cases h

theorem isHexDigit_of_parseGroup {text : List Char} (h : (parseGroup text).isSome = true) :
    ∀ c ∈ text, isHexDigit c = true := by
  rw [parseGroup] at h
  split at h
  next hall =>
    simp only [Bool.and_eq_true, List.all_eq_true] at hall
    exact hall.1.1
  next => cases h

theorem eq_or_mem_splitOn (sep : Char) {c : Char} {text : List Char} (h : c ∈ text) :
    c = sep ∨ ∃ part ∈ text.splitOn sep, c ∈ part := by
  have htext : [sep].intercalate (text.splitOn sep) = text := List.intercalate_splitOn sep
  rw [← htext] at h
  exact Words.mem_intercalate h

theorem Ipv4Addr.isDigit_of_fromStr {text : List Char}
    (h : (Ipv4Addr.fromStr text).isSome = true) : ∀ c ∈ text, c.isDigit = true ∨ c = '.' := by
  intro c hc
  obtain ⟨addr, haddr⟩ := Option.isSome_iff_exists.mp h
  rw [Ipv4Addr.fromStr] at haddr
  split at haddr
  next p q r s hsplit =>
    simp only [Option.bind_eq_bind, Option.bind_eq_some_iff] at haddr
    obtain ⟨_, hp, _, hq, _, hr, _, hs, -⟩ := haddr
    rcases eq_or_mem_splitOn '.' hc with hdot | ⟨part, hpart, hin⟩
    · exact Or.inr hdot
    · rw [hsplit] at hpart
      have hsome : (parseOctet part).isSome = true := by
        simp only [List.mem_cons, List.not_mem_nil, or_false] at hpart
        rcases hpart with rfl | rfl | rfl | rfl
        · exact Option.isSome_of_eq_some hp
        · exact Option.isSome_of_eq_some hq
        · exact Option.isSome_of_eq_some hr
        · exact Option.isSome_of_eq_some hs
      exact Or.inl (isDigit_of_parseOctet hsome c hin)
  next => cases haddr

def isLiteralChar (c : Char) : Bool := isHexDigit c || c == '.' || c == ':'

theorem isLiteralChar_of_isDigit {c : Char} (h : c.isDigit = true) : isLiteralChar c = true := by
  simp [isLiteralChar, isHexDigit, h]

theorem isLiteralChar_of_isHexDigit {c : Char} (h : isHexDigit c = true) :
    isLiteralChar c = true := by
  simp [isLiteralChar, h]

theorem isLiteralChar_of_parseGroups {allowIpv4 : Bool} {parts : List (List Char)}
    (h : (parseGroups allowIpv4 parts).isSome = true) :
    ∀ part ∈ parts, ∀ c ∈ part, isLiteralChar c = true := by
  induction parts with
  | nil => simp
  | cons part parts ih =>
      intro other hother c hc
      cases parts with
      | nil =>
          rw [List.mem_singleton.mp hother] at hc
          rw [parseGroups] at h
          split at h
          next =>
            rw [Option.isSome_map] at h
            rcases Ipv4Addr.isDigit_of_fromStr h c hc with hdigit | rfl
            · exact isLiteralChar_of_isDigit hdigit
            · rfl
          next =>
            rw [Option.isSome_map] at h
            exact isLiteralChar_of_isHexDigit (isHexDigit_of_parseGroup h c hc)
      | cons next parts =>
          obtain ⟨groups, hgroups⟩ := Option.isSome_iff_exists.mp h
          simp only [parseGroups, Option.bind_eq_bind, Option.bind_eq_some_iff] at hgroups
          obtain ⟨group, hgroup, others, hothers, -⟩ := hgroups
          rcases List.mem_cons.mp hother with rfl | hother
          · exact isLiteralChar_of_isHexDigit
              (isHexDigit_of_parseGroup (Option.isSome_of_eq_some hgroup) c hc)
          · exact ih (Option.isSome_of_eq_some hothers) other hother c hc

theorem isLiteralChar_of_splitColons {allowIpv4 : Bool} {text : List Char}
    (h : (parseGroups allowIpv4 (splitColons text)).isSome = true) :
    ∀ c ∈ text, isLiteralChar c = true := by
  intro c hc
  have hcolons : splitColons text = text.splitOn ':' := by
    rw [splitColons, if_neg]
    simpa using List.ne_nil_of_mem hc
  rw [hcolons] at h
  rcases eq_or_mem_splitOn ':' hc with rfl | ⟨part, hpart, hin⟩
  · rfl
  · exact isLiteralChar_of_parseGroups h part hpart c hin

theorem eq_append_of_splitGap {text head tail : List Char} (h : splitGap text = some (head, tail)) :
    text = head ++ ':' :: ':' :: tail := by
  induction text generalizing head with
  | nil => cases h
  | cons c text ih =>
      rw [splitGap] at h
      split at h
      next hgap =>
        cases h
        obtain ⟨rest, hrest⟩ := List.head?_eq_some_iff.mp hgap.2
        rw [hgap.1, hrest]
        rfl
      next =>
        obtain ⟨⟨head', tail'⟩, hsplit, heq⟩ := Option.map_eq_some_iff.mp h
        cases heq
        rw [ih hsplit]
        rfl

theorem Ipv6Addr.isLiteralChar_of_fromStr {text : List Char}
    (h : (Ipv6Addr.fromStr text).isSome = true) : ∀ c ∈ text, isLiteralChar c = true := by
  obtain ⟨addr, haddr⟩ := Option.isSome_iff_exists.mp h
  rw [Ipv6Addr.fromStr] at haddr
  split at haddr
  next =>
    obtain ⟨groups, hgroups, -⟩ := Option.bind_eq_some_iff.mp haddr
    exact isLiteralChar_of_splitColons (Option.isSome_of_eq_some hgroups)
  next head tail hsplit =>
    simp only [Option.bind_eq_bind, Option.bind_eq_some_iff] at haddr
    obtain ⟨before, hbefore, after, hafter, -⟩ := haddr
    intro c hc
    rw [eq_append_of_splitGap hsplit] at hc
    simp only [List.mem_append, List.mem_cons] at hc
    rcases hc with hc | rfl | rfl | hc
    · exact isLiteralChar_of_splitColons (Option.isSome_of_eq_some hbefore) c hc
    · rfl
    · rfl
    · exact isLiteralChar_of_splitColons (Option.isSome_of_eq_some hafter) c hc

end Net
