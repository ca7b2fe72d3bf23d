import Kallichore.Lib.Utf8Lossy

/-!
# Percent-encoding

A text is percent-encoded byte by byte: a byte of a set, and every byte that is not ASCII,
becomes a percent sign with two digits, and the others stand for themselves. Decoding puts
the byte for every percent sign that two digits follow, and leaves all others as they are.

If the percent sign is in the set, decoding gives the text back. If it is not, and no digit
is, encoding adds nothing that decoding would not take away, so what comes back is the
decoding of the text itself: that is the text exactly if no percent sign in it is followed
by two digits.
-/

namespace Percent

def sign : UInt8 := 0x25

def hexDigit (n : ℕ) : UInt8 := UInt8.ofNat (if n < 10 then 0x30 + n else 0x37 + n)

/-- The value of a digit, in either case. -/
def hexValue (b : UInt8) : Option ℕ :=
  if 0x30 ≤ b.toNat ∧ b.toNat ≤ 0x39 then some (b.toNat - 0x30)
  else if 0x41 ≤ b.toNat ∧ b.toNat ≤ 0x46 then some (b.toNat - 0x37)
  else if 0x61 ≤ b.toNat ∧ b.toNat ≤ 0x66 then some (b.toNat - 0x57)
  else none

def keeps (set : UInt8 → Bool) (b : UInt8) : Bool := decide (b.toNat < 0x80) && !set b

def encodeByte (set : UInt8 → Bool) (b : UInt8) : List UInt8 :=
  if keeps set b then [b] else [sign, hexDigit (b.toNat / 16), hexDigit (b.toNat % 16)]

def encodeBytes (set : UInt8 → Bool) (bytes : List UInt8) : List UInt8 :=
  bytes.flatMap (encodeByte set)

def escaped (b high low : UInt8) : Option UInt8 :=
  if b = sign then
    (hexValue high).bind fun h => (hexValue low).map fun l => UInt8.ofNat (h * 16 + l)
  else none

def decodeBytes : List UInt8 → List UInt8
  | b :: high :: low :: rest =>
      match escaped b high low with
      | some byte => byte :: decodeBytes rest
      | none => b :: decodeBytes (high :: low :: rest)
  | [b, c] => [b, c]
  | [b] => [b]
  | [] => []

def asciiText (bytes : List UInt8) : List Char := bytes.map fun b => Char.ofNat b.toNat

def encode (set : UInt8 → Bool) (text : List Char) : List Char :=
  asciiText (encodeBytes set (Utf8.encode text))

def decode (text : List Char) : List UInt8 := decodeBytes (Utf8.encode text)

/-! ## Digits -/

theorem hexValue_hexDigit {n : ℕ} (h : n < 16) : hexValue (hexDigit n) = some n := by
  have hall : ∀ n < 16, hexValue (hexDigit n) = some n := by decide
  exact hall n h

theorem toNat_lt_of_hexValue {b : UInt8} {n : ℕ} (h : hexValue b = some n) :
    b.toNat < 0x80 ∧ b ≠ sign := by
  rw [hexValue] at h
  constructor
  · split at h
    · omega
    · split at h
      · omega
      · split at h
        · omega
        · cases h
  · rintro rfl
    cases h

/-! ## Decoding one byte after the other -/

theorem decodeBytes_cons_of_ne {b : UInt8} (h : b ≠ sign) (rest : List UInt8) :
    decodeBytes (b :: rest) = b :: decodeBytes rest := by
  match rest with
  | [] => rfl
  | [_] => rfl
  | high :: low :: rest => rw [decodeBytes, escaped, if_neg h]

theorem decodeBytes_sign {high low : UInt8} {h l : ℕ} (hhigh : hexValue high = some h)
    (hlow : hexValue low = some l) (rest : List UInt8) :
    decodeBytes (sign :: high :: low :: rest) = UInt8.ofNat (h * 16 + l) :: decodeBytes rest := by
  rw [decodeBytes, escaped, if_pos rfl, hhigh, hlow]
  rfl

theorem decodeBytes_encoded (b : UInt8) (rest : List UInt8) :
    decodeBytes (sign :: hexDigit (b.toNat / 16) :: hexDigit (b.toNat % 16) :: rest) =
      b :: decodeBytes rest := by
  have hlt : b.toNat < 256 := b.toNat_lt
  have hvalue : b.toNat / 16 * 16 + b.toNat % 16 = b.toNat := by omega
  rw [decodeBytes_sign (hexValue_hexDigit (by omega)) (hexValue_hexDigit (by omega)), hvalue,
    UInt8.ofNat_toNat]

theorem decodeBytes_encodeBytes_append {set : UInt8 → Bool} (hset : set sign = true)
    (bytes rest : List UInt8) :
    decodeBytes (encodeBytes set bytes ++ rest) = bytes ++ decodeBytes rest := by
  induction bytes with
  | nil => rfl
  | cons b bytes ih =>
      rw [encodeBytes, List.flatMap_cons, List.append_assoc, encodeByte]
      split
      next hkeeps =>
        have hne : b ≠ sign := by
          rintro rfl
          rw [keeps, hset] at hkeeps
          simp at hkeeps
        rw [List.singleton_append, decodeBytes_cons_of_ne hne, ← encodeBytes, ih]
        rfl
      next =>
        rw [List.cons_append, List.cons_append, List.cons_append, decodeBytes_encoded,
          List.nil_append, ← encodeBytes, ih]
        rfl

/-! ## Where the percent sign stands for itself -/

def isHex (b : UInt8) : Bool := (hexValue b).isSome

def headIsHex (bytes : List UInt8) : Bool := bytes.head?.any isHex

def digitsFollow : List UInt8 → Bool
  | [] => false
  | b :: bytes => isHex b && headIsHex bytes

theorem exists_of_digitsFollow {bytes : List UInt8} (h : digitsFollow bytes = true) :
    ∃ high low rest, bytes = high :: low :: rest ∧ isHex high = true ∧ isHex low = true := by
  match bytes with
  | [] => cases h
  | [b] => simp [digitsFollow, headIsHex] at h
  | high :: low :: rest =>
      rw [digitsFollow, Bool.and_eq_true] at h
      exact ⟨high, low, rest, rfl, h.1, h.2⟩

theorem exists_decodeBytes_sign {high low : UInt8} (hhigh : isHex high = true)
    (hlow : isHex low = true) :
    ∃ byte, ∀ rest, decodeBytes (sign :: high :: low :: rest) = byte :: decodeBytes rest := by
  obtain ⟨n, hn⟩ := Option.isSome_iff_exists.mp hhigh
  obtain ⟨m, hm⟩ := Option.isSome_iff_exists.mp hlow
  exact ⟨_, decodeBytes_sign hn hm⟩

theorem decodeBytes_sign_of_not {bytes : List UInt8} (h : digitsFollow bytes = false) :
    decodeBytes (sign :: bytes) = sign :: decodeBytes bytes := by
  match bytes with
  | [] => rfl
  | [_] => rfl
  | high :: low :: rest =>
      have hnone : escaped sign high low = none := by
        rw [escaped, if_pos rfl]
        cases hhigh : hexValue high with
        | none => rfl
        | some n =>
            cases hlow : hexValue low with
            | none => rfl
            | some m => simp [digitsFollow, headIsHex, isHex, hhigh, hlow] at h
      rw [decodeBytes, hnone]

/-- Neither the percent sign nor a digit is in the set. -/
structure Bare (set : UInt8 → Bool) : Prop where
  sign : set sign = false
  digit : ∀ b, isHex b = true → set b = false

variable {set : UInt8 → Bool}

theorem Bare.keeps_sign (h : Bare set) : keeps set Percent.sign = true := by
  rw [keeps, h.sign]
  rfl

theorem Bare.keeps_digit (h : Bare set) {b : UInt8} (hb : isHex b = true) :
    keeps set b = true := by
  obtain ⟨n, hn⟩ := Option.isSome_iff_exists.mp hb
  rw [keeps, h.digit b hb, decide_eq_true (toNat_lt_of_hexValue hn).1]
  rfl

theorem encodeBytes_cons (b : UInt8) (bytes : List UInt8) :
    encodeBytes set (b :: bytes) = encodeByte set b ++ encodeBytes set bytes :=
  List.flatMap_cons

theorem encodeBytes_cons_of_keeps {b : UInt8} (h : keeps set b = true) (bytes : List UInt8) :
    encodeBytes set (b :: bytes) = b :: encodeBytes set bytes := by
  rw [encodeBytes_cons, encodeByte, if_pos h]
  rfl

theorem encodeBytes_cons_of_not {b : UInt8} (h : keeps set b = false) (bytes : List UInt8) :
    encodeBytes set (b :: bytes) =
      sign :: hexDigit (b.toNat / 16) :: hexDigit (b.toNat % 16) :: encodeBytes set bytes := by
  rw [encodeBytes_cons, encodeByte, if_neg (by simp [h])]
  rfl

theorem Bare.headIsHex_encodeBytes (h : Bare set) (bytes : List UInt8) :
    headIsHex (encodeBytes set bytes) = headIsHex bytes := by
  cases bytes with
  | nil => rfl
  | cons b bytes =>
      cases hkeeps : keeps set b with
      | true =>
          rw [encodeBytes_cons_of_keeps hkeeps]
          rfl
      | false =>
          have hb : isHex b = false := by
            by_contra hhex
            rw [h.keeps_digit (by simpa using hhex)] at hkeeps
            cases hkeeps
          rw [encodeBytes_cons_of_not hkeeps]
          exact hb.symm

theorem Bare.digitsFollow_encodeBytes (h : Bare set) (bytes : List UInt8) :
    digitsFollow (encodeBytes set bytes) = digitsFollow bytes := by
  cases bytes with
  | nil => rfl
  | cons b bytes =>
      cases hb : isHex b with
      | true =>
          rw [encodeBytes_cons_of_keeps (h.keeps_digit hb), digitsFollow, digitsFollow,
            h.headIsHex_encodeBytes]
      | false =>
          have hhead := h.headIsHex_encodeBytes (b :: bytes)
          have hfalse : headIsHex (b :: bytes) = false := hb
          rw [hfalse] at hhead
          rw [digitsFollow, hb, Bool.false_and]
          cases hencoded : encodeBytes set (b :: bytes) with
          | nil => rfl
          | cons c rest =>
              rw [hencoded] at hhead
              have hc : isHex c = false := hhead
              rw [digitsFollow, hc, Bool.false_and]

/-- A set that leaves percent signs and digits alone is invisible to decoding. -/
theorem Bare.decodeBytes_encodeBytes (h : Bare set) (bytes : List UInt8) :
    decodeBytes (encodeBytes set bytes) = decodeBytes bytes := by
  -- an escape takes up three bytes at once
  induction hn : bytes.length using Nat.strongRecOn generalizing bytes with
  | ind n ih =>
      subst hn
      match bytes with
      | [] => rfl
      | b :: bytes =>
          have hrest := ih bytes.length (by simp) bytes rfl
          cases hkeeps : keeps set b with
          | false =>
              have hne : b ≠ Percent.sign := by
                rintro rfl
                rw [h.keeps_sign] at hkeeps
                cases hkeeps
              rw [encodeBytes_cons_of_not hkeeps, decodeBytes_encoded, hrest,
                decodeBytes_cons_of_ne hne]
          | true =>
              rw [encodeBytes_cons_of_keeps hkeeps]
              by_cases hsign : b = Percent.sign
              · subst hsign
                cases hdigits : digitsFollow bytes with
                | false =>
                    rw [decodeBytes_sign_of_not hdigits, decodeBytes_sign_of_not, hrest]
                    rw [h.digitsFollow_encodeBytes, hdigits]
                | true =>
                    obtain ⟨high, low, rest, rfl, hhigh, hlow⟩ := exists_of_digitsFollow hdigits
                    obtain ⟨byte, hbyte⟩ := exists_decodeBytes_sign hhigh hlow
                    have hlast := ih rest.length (by simp only [List.length_cons]; omega) rest rfl
                    rw [encodeBytes_cons_of_keeps (h.keeps_digit hhigh),
                      encodeBytes_cons_of_keeps (h.keeps_digit hlow), hbyte, hbyte, hlast]
              · rw [decodeBytes_cons_of_ne hsign, decodeBytes_cons_of_ne hsign, hrest]

/-! ## Bytes that decode to themselves -/

theorem length_decodeBytes_le (bytes : List UInt8) :
    (decodeBytes bytes).length ≤ bytes.length := by
  fun_induction decodeBytes bytes with
  | case1 b high low rest byte hbyte ih =>
      simp only [List.length_cons]
      omega
  | case2 b high low rest hnone ih =>
      simp only [List.length_cons] at ih ⊢
      omega
  | case3 => exact Nat.le_refl _
  | case4 => exact Nat.le_refl _
  | case5 => exact Nat.le_refl _

/-- Somewhere two digits follow a percent sign. -/
def Escaped (bytes : List UInt8) : Prop :=
  ∃ high low, [sign, high, low] <:+: bytes ∧ isHex high = true ∧ isHex low = true

theorem escaped_cons_iff {b : UInt8} {bytes : List UInt8} :
    Escaped (b :: bytes) ↔ (b = sign ∧ digitsFollow bytes = true) ∨ Escaped bytes := by
  constructor
  · rintro ⟨high, low, hinfix, hhigh, hlow⟩
    rcases List.infix_cons_iff.mp hinfix with ⟨rest, hrest⟩ | hinfix
    · simp only [List.cons_append, List.nil_append, List.cons.injEq] at hrest
      obtain ⟨rfl, rfl⟩ := hrest
      exact Or.inl ⟨rfl, by simp [digitsFollow, headIsHex, hhigh, hlow]⟩
    · exact Or.inr ⟨high, low, hinfix, hhigh, hlow⟩
  · rintro (⟨rfl, hdigits⟩ | ⟨high, low, hinfix, hhigh, hlow⟩)
    · obtain ⟨high, low, rest, rfl, hhigh, hlow⟩ := exists_of_digitsFollow hdigits
      exact ⟨high, low, List.infix_cons_iff.mpr (Or.inl ⟨rest, rfl⟩), hhigh, hlow⟩
    · exact ⟨high, low, List.infix_cons_iff.mpr (Or.inr hinfix), hhigh, hlow⟩

/-- Decoding changes nothing exactly where nothing is escaped: an escape makes the bytes
fewer. -/
theorem decodeBytes_eq_self_iff (bytes : List UInt8) :
    decodeBytes bytes = bytes ↔ ¬ Escaped bytes := by
  induction bytes with
  | nil =>
      refine ⟨fun _ => ?_, fun _ => rfl⟩
      rintro ⟨high, low, hinfix, -⟩
      simp at hinfix
  | cons b bytes ih =>
      rw [escaped_cons_iff, not_or]
      by_cases hdigits : b = sign ∧ digitsFollow bytes = true
      · obtain ⟨rfl, hdigits⟩ := hdigits
        refine ⟨fun h => ?_, fun h => absurd ⟨rfl, hdigits⟩ h.1⟩
        obtain ⟨high, low, rest, rfl, hhigh, hlow⟩ := exists_of_digitsFollow hdigits
        obtain ⟨byte, hbyte⟩ := exists_decodeBytes_sign hhigh hlow
        rw [hbyte] at h
        have hlength := congrArg List.length h
        have hle := length_decodeBytes_le rest
        simp only [List.length_cons] at hlength
        omega
      · have hstep : decodeBytes (b :: bytes) = b :: decodeBytes bytes := by
          by_cases hsign : b = sign
          · subst hsign
            exact decodeBytes_sign_of_not (by simpa using hdigits)
          · exact decodeBytes_cons_of_ne hsign bytes
        rw [hstep, List.cons.injEq, ih]
        exact ⟨fun h => ⟨hdigits, h.2⟩, fun h => ⟨rfl, h.2⟩⟩

/-- A byte that is neither a percent sign nor a digit separates what is decoded. -/
theorem decodeBytes_append_cons {c : UInt8} (hsign : c ≠ sign) (hhex : isHex c = false)
    (bytes rest : List UInt8) :
    decodeBytes (bytes ++ c :: rest) = decodeBytes bytes ++ c :: decodeBytes rest := by
  have hdigits : ∀ more : List UInt8, digitsFollow (more ++ c :: rest) = digitsFollow more := by
    intro more
    match more with
    | [] => simp [digitsFollow, hhex]
    | [b] => simp [digitsFollow, headIsHex, hhex]
    | high :: low :: more => rfl
  induction hn : bytes.length using Nat.strongRecOn generalizing bytes with
  | ind n ih =>
      subst hn
      match bytes with
      | [] => exact decodeBytes_cons_of_ne hsign rest
      | b :: bytes =>
          have hrest := ih bytes.length (by simp) bytes rfl
          by_cases hb : b = sign
          · subst hb
            cases hfollow : digitsFollow bytes with
            | false =>
                rw [List.cons_append, decodeBytes_sign_of_not, decodeBytes_sign_of_not hfollow,
                  hrest, List.cons_append]
                rw [hdigits, hfollow]
            | true =>
                obtain ⟨high, low, more, rfl, hhigh, hlow⟩ := exists_of_digitsFollow hfollow
                obtain ⟨byte, hbyte⟩ := exists_decodeBytes_sign hhigh hlow
                have hlast := ih more.length (by simp only [List.length_cons]; omega) more rfl
                simp only [List.cons_append, hbyte, hlast]
          · rw [List.cons_append, decodeBytes_cons_of_ne hb, hrest, decodeBytes_cons_of_ne hb,
              List.cons_append]

theorem decodeBytes_cons_ne_nil (b : UInt8) (bytes : List UInt8) :
    decodeBytes (b :: bytes) ≠ [] := by
  by_cases hb : b = sign
  · subst hb
    cases hfollow : digitsFollow bytes with
    | false =>
        rw [decodeBytes_sign_of_not hfollow]
        exact List.cons_ne_nil _ _
    | true =>
        obtain ⟨high, low, rest, rfl, hhigh, hlow⟩ := exists_of_digitsFollow hfollow
        obtain ⟨byte, hbyte⟩ := exists_decodeBytes_sign hhigh hlow
        rw [hbyte]
        exact List.cons_ne_nil _ _
  · rw [decodeBytes_cons_of_ne hb]
    exact List.cons_ne_nil _ _

/-! ## Texts -/

def byteOf (c : Char) : UInt8 := UInt8.ofNat c.toNat

theorem toNat_byteOf {c : Char} (h : c.toNat < 0x80) : (byteOf c).toNat = c.toNat :=
  UInt8.toNat_ofNat_of_lt' (Nat.lt_trans h (by decide))

theorem charOf_byteOf {c : Char} (h : c.toNat < 0x80) : Char.ofNat (byteOf c).toNat = c := by
  rw [toNat_byteOf h, Char.ofNat_toNat]

theorem toNat_charOf {b : UInt8} (h : b.toNat < 0x80) : (Char.ofNat b.toNat).toNat = b.toNat := by
  have hvalid : b.toNat.isValidChar := Or.inl (Nat.lt_trans h (by decide))
  rw [Char.ofNat, dif_pos hvalid]
  rfl

theorem byteOf_charOf {b : UInt8} (h : b.toNat < 0x80) : byteOf (Char.ofNat b.toNat) = b := by
  rw [byteOf, toNat_charOf h, UInt8.ofNat_toNat]

theorem utf8EncodeChar_of_ascii {c : Char} (h : c.toNat < 0x80) :
    String.utf8EncodeChar c = [byteOf c] :=
  (Utf8.encodes_one (Nat.le_of_lt_succ h)).bytes

theorem le_of_mem_utf8EncodeChar {c : Char} (h : ¬ c.toNat < 0x80) {b : UInt8}
    (hb : b ∈ String.utf8EncodeChar c) : 0x80 ≤ b.toNat := by
  obtain ⟨first, rest, henc⟩ := Utf8.exists_encodes c
  rw [henc.bytes, List.mem_cons] at hb
  rcases hb with rfl | hb
  · by_contra hlt
    have hwidth : Utf8.charWidth b = 1 := by
      rw [Utf8.charWidth, if_pos (Nat.not_le.mp hlt)]
    have hstep := henc.step []
    rw [Utf8.lossyStep, if_pos hwidth, Prod.mk.injEq] at hstep
    apply h
    rw [← hstep.1, toNat_charOf (Nat.not_le.mp hlt)]
    exact Nat.not_le.mp hlt
  · have hcont := henc.continuation b hb
    rw [Utf8.isContinuation, Bool.and_eq_true, decide_eq_true_eq] at hcont
    exact hcont.1

theorem utf8_cons (c : Char) (text : List Char) :
    Utf8.encode (c :: text) = String.utf8EncodeChar c ++ Utf8.encode text :=
  List.flatMap_cons

theorem utf8_append (text more : List Char) :
    Utf8.encode (text ++ more) = Utf8.encode text ++ Utf8.encode more :=
  List.flatMap_append

theorem mem_utf8_iff {c : Char} (hc : c.toNat < 0x80) {text : List Char} :
    byteOf c ∈ Utf8.encode text ↔ c ∈ text := by
  induction text with
  | nil => simp [Utf8.encode]
  | cons d text ih =>
      rw [utf8_cons, List.mem_append, ih, List.mem_cons]
      refine or_congr_left ?_
      by_cases hd : d.toNat < 0x80
      · rw [utf8EncodeChar_of_ascii hd, List.mem_singleton]
        refine ⟨fun h => ?_, fun h => h ▸ rfl⟩
        rw [← charOf_byteOf hc, h, charOf_byteOf hd]
      · refine ⟨fun h => ?_, fun h => absurd (h ▸ hc) hd⟩
        have hle := le_of_mem_utf8EncodeChar hd h
        rw [toNat_byteOf hc] at hle
        omega

theorem utf8_asciiText {bytes : List UInt8} (h : ∀ b ∈ bytes, b.toNat < 0x80) :
    Utf8.encode (asciiText bytes) = bytes := by
  induction bytes with
  | nil => rfl
  | cons b bytes ih =>
      obtain ⟨hb, hrest⟩ := List.forall_mem_cons.mp h
      have hchar : (Char.ofNat b.toNat).toNat < 0x80 := by
        rw [toNat_charOf hb]
        exact hb
      rw [asciiText, List.map_cons, utf8_cons, utf8EncodeChar_of_ascii hchar, byteOf_charOf hb,
        List.singleton_append, ← asciiText, ih hrest]

theorem mem_encodeByte {b x : UInt8} (h : x ∈ encodeByte set b) :
    (x = b ∧ keeps set b = true) ∨ x = sign ∨ isHex x = true := by
  have hlt : b.toNat < 256 := b.toNat_lt
  have hdigit : ∀ n < 16, isHex (hexDigit n) = true := fun n hn => by
    rw [isHex, hexValue_hexDigit hn]
    rfl
  rw [encodeByte] at h
  split at h
  next hkeeps => exact Or.inl ⟨List.mem_singleton.mp h, hkeeps⟩
  next =>
    simp only [List.mem_cons, List.not_mem_nil, or_false] at h
    rcases h with rfl | rfl | rfl
    · exact Or.inr (Or.inl rfl)
    · exact Or.inr (Or.inr (hdigit _ (by omega)))
    · exact Or.inr (Or.inr (hdigit _ (by omega)))

theorem toNat_lt_of_mem_encodeBytes {bytes : List UInt8} {x : UInt8}
    (h : x ∈ encodeBytes set bytes) : x.toNat < 0x80 := by
  obtain ⟨b, -, hx⟩ := List.mem_flatMap.mp h
  rcases mem_encodeByte hx with ⟨rfl, hkeeps⟩ | rfl | hhex
  · rw [keeps, Bool.and_eq_true, decide_eq_true_eq] at hkeeps
    exact hkeeps.1
  · decide
  · obtain ⟨n, hn⟩ := Option.isSome_iff_exists.mp hhex
    exact (toNat_lt_of_hexValue hn).1

theorem utf8_encode (text : List Char) :
    Utf8.encode (encode set text) = encodeBytes set (Utf8.encode text) :=
  utf8_asciiText fun _ => toNat_lt_of_mem_encodeBytes

theorem decode_encode (hset : set sign = true) (text : List Char) :
    decode (encode set text) = Utf8.encode text := by
  have h := decodeBytes_encodeBytes_append hset (Utf8.encode text) []
  rw [List.append_nil] at h
  rw [decode, utf8_encode, h]
  exact List.append_nil _

/-- The character is ASCII, and neither a percent sign nor a digit. -/
structure Separates (c : Char) : Prop where
  ascii : c.toNat < 0x80
  sign : byteOf c ≠ sign
  digit : isHex (byteOf c) = false

/-- A character that has nothing to do with encoding is in an encoded text exactly if it is in
the text and not in the set. -/
theorem mem_encode_iff {c : Char} (hc : Separates c) {text : List Char} :
    c ∈ encode set text ↔ c ∈ text ∧ set (byteOf c) = false := by
  have hmem : c ∈ encode set text ↔ byteOf c ∈ encodeBytes set (Utf8.encode text) := by
    rw [← utf8_encode, mem_utf8_iff hc.ascii]
  have hlt : (byteOf c).toNat < 0x80 := by
    rw [toNat_byteOf hc.ascii]
    exact hc.ascii
  rw [hmem, ← mem_utf8_iff hc.ascii, encodeBytes, List.mem_flatMap]
  constructor
  · rintro ⟨b, hb, hx⟩
    rcases mem_encodeByte hx with ⟨rfl, hkeeps⟩ | hsign | hhex
    · rw [keeps, Bool.and_eq_true, Bool.not_eq_true'] at hkeeps
      exact ⟨hb, hkeeps.2⟩
    · exact absurd hsign hc.sign
    · rw [hc.digit] at hhex
      cases hhex
  · rintro ⟨hb, hset⟩
    refine ⟨byteOf c, hb, ?_⟩
    rw [encodeByte, if_pos]
    · exact List.mem_singleton_self _
    · rw [keeps, hset, decide_eq_true hlt]
      rfl

/-! ## Escapes in a text -/

def isHexChar (c : Char) : Bool := decide (c.toNat < 0x80) && isHex (byteOf c)

/-- Somewhere in the text two digits follow a percent sign. -/
def EscapedText (text : List Char) : Prop :=
  ∃ high low, ['%', high, low] <:+: text ∧ isHexChar high = true ∧ isHexChar low = true

def digitsFollowText : List Char → Bool
  | high :: low :: _ => isHexChar high && isHexChar low
  | _ => false

theorem escapedText_cons_iff {c : Char} {text : List Char} :
    EscapedText (c :: text) ↔ (c = '%' ∧ digitsFollowText text = true) ∨ EscapedText text := by
  constructor
  · rintro ⟨high, low, hinfix, hhigh, hlow⟩
    rcases List.infix_cons_iff.mp hinfix with ⟨rest, hrest⟩ | hinfix
    · simp only [List.cons_append, List.nil_append, List.cons.injEq] at hrest
      obtain ⟨rfl, rfl⟩ := hrest
      exact Or.inl ⟨rfl, by rw [digitsFollowText, hhigh, hlow]; rfl⟩
    · exact Or.inr ⟨high, low, hinfix, hhigh, hlow⟩
  · rintro (⟨rfl, hdigits⟩ | ⟨high, low, hinfix, hhigh, hlow⟩)
    · match text with
      | [] => cases hdigits
      | [_] => cases hdigits
      | high :: low :: rest =>
          rw [digitsFollowText, Bool.and_eq_true] at hdigits
          exact ⟨high, low, List.infix_cons_iff.mpr (Or.inl ⟨rest, rfl⟩), hdigits.1, hdigits.2⟩
    · exact ⟨high, low, List.infix_cons_iff.mpr (Or.inr hinfix), hhigh, hlow⟩

/-- A text that begins with a character: its first byte is a digit if the character is one. -/
theorem exists_utf8_cons (c : Char) (text : List Char) :
    ∃ b rest, Utf8.encode (c :: text) = b :: rest ∧ isHex b = isHexChar c ∧
      (isHexChar c = true → rest = Utf8.encode text) := by
  by_cases hc : c.toNat < 0x80
  · refine ⟨byteOf c, Utf8.encode text, ?_, ?_, fun _ => rfl⟩
    · rw [utf8_cons, utf8EncodeChar_of_ascii hc]
      rfl
    · rw [isHexChar, decide_eq_true hc, Bool.true_and]
  · obtain ⟨first, rest, henc⟩ := Utf8.exists_encodes c
    have hle : 0x80 ≤ first.toNat :=
      le_of_mem_utf8EncodeChar hc (henc.bytes ▸ List.mem_cons_self)
    have hchar : isHexChar c = false := by
      rw [isHexChar, decide_eq_false hc]
      rfl
    refine ⟨first, rest ++ Utf8.encode text, ?_, ?_, fun h => absurd (hchar.symm.trans h) (by simp)⟩
    · rw [utf8_cons, henc.bytes]
      rfl
    · rw [hchar]
      by_contra hhex
      obtain ⟨n, hn⟩ := Option.isSome_iff_exists.mp (Bool.not_eq_false _ ▸ hhex)
      have hlt := (toNat_lt_of_hexValue hn).1
      omega

theorem digitsFollow_utf8 (text : List Char) :
    digitsFollow (Utf8.encode text) = digitsFollowText text := by
  match text with
  | [] => rfl
  | [c] =>
      obtain ⟨b, rest, henc, hb, hrest⟩ := exists_utf8_cons c []
      rw [henc, digitsFollow, hb]
      cases hc : isHexChar c with
      | false => rfl
      | true =>
          rw [hrest hc]
          rfl
  | c :: d :: text =>
      obtain ⟨b, rest, henc, hb, hrest⟩ := exists_utf8_cons c (d :: text)
      rw [henc, digitsFollow, hb, digitsFollowText]
      cases hc : isHexChar c with
      | false => rfl
      | true =>
          obtain ⟨x, more, henc', hx, -⟩ := exists_utf8_cons d text
          rw [hrest hc, henc', ← hx]
          rfl

theorem escaped_append_of_le {bytes rest : List UInt8} (h : ∀ b ∈ bytes, 0x80 ≤ b.toNat) :
    Escaped (bytes ++ rest) ↔ Escaped rest := by
  induction bytes with
  | nil => rfl
  | cons b bytes ih =>
      obtain ⟨hb, hbytes⟩ := List.forall_mem_cons.mp h
      have hne : b ≠ sign := by
        rintro rfl
        exact absurd hb (by decide)
      rw [List.cons_append, escaped_cons_iff, ih hbytes]
      simp [hne]

theorem escaped_utf8_iff (text : List Char) : Escaped (Utf8.encode text) ↔ EscapedText text := by
  induction text with
  | nil =>
      constructor
      · rintro ⟨high, low, hinfix, -⟩
        simp [Utf8.encode] at hinfix
      · rintro ⟨high, low, hinfix, -⟩
        simp at hinfix
  | cons c text ih =>
      rw [utf8_cons, escapedText_cons_iff]
      by_cases hc : c.toNat < 0x80
      · have hsign : byteOf c = sign ↔ c = '%' := by
          refine ⟨fun h => ?_, fun h => h ▸ rfl⟩
          rw [← charOf_byteOf hc, h]
          rfl
        rw [utf8EncodeChar_of_ascii hc, List.singleton_append, escaped_cons_iff, ih, hsign,
          digitsFollow_utf8]
      · have hne : c ≠ '%' := by
          rintro rfl
          exact hc (by decide)
        rw [escaped_append_of_le fun b => le_of_mem_utf8EncodeChar hc, ih]
        simp [hne]

theorem Bare.decode_encode (h : Bare set) (text : List Char) :
    decode (encode set text) = decode text := by
  rw [decode, utf8_encode, h.decodeBytes_encodeBytes, decode]

/-- Where neither the percent sign nor a digit is in the set, a text comes back exactly if
nothing in it looks like an escape. -/
theorem Bare.decode_encode_iff (h : Bare set) (text : List Char) :
    decode (encode set text) = Utf8.encode text ↔ ¬ EscapedText text := by
  rw [h.decode_encode, decode, decodeBytes_eq_self_iff, escaped_utf8_iff]

theorem length_decode_le (text : List Char) : (decode text).length ≤ (Utf8.encode text).length :=
  length_decodeBytes_le _

theorem Separates.decode_append_cons {c : Char} (hc : Separates c) (text more : List Char) :
    decode (text ++ c :: more) = decode text ++ byteOf c :: decode more := by
  rw [decode, utf8_append, utf8_cons, utf8EncodeChar_of_ascii hc.ascii, List.singleton_append,
    decodeBytes_append_cons hc.sign hc.digit]
  rfl

end Percent
