import Mathlib.Data.List.Basic
import Mathlib.Tactic.Common

/-!
# Decoding UTF-8 with replacement characters

Bytes that need not be UTF-8 are read as text by putting a replacement character for every
maximal part that cannot be continued to a character. On the encoding of a text this gives
the text back. The encoding of a text that is cut into pieces, each of them decoded on its
own, gives the text back but for the characters that a cut runs through: their parts become
replacement characters.
-/

namespace Utf8

def encode (text : List Char) : List UInt8 := text.flatMap String.utf8EncodeChar

/-- The character that stands for bytes that are no text. -/
def replacement : Char := '\uFFFD'

/-- The byte can only be inside a character. -/
def isContinuation (b : UInt8) : Bool := 0x80 ≤ b.toNat && b.toNat ≤ 0xBF

/-- How many bytes a character has that begins with the byte; 0 if there is none. -/
def charWidth (b : UInt8) : ℕ :=
  if b.toNat < 0x80 then 1
  else if b.toNat < 0xC2 then 0
  else if b.toNat < 0xE0 then 2
  else if b.toNat < 0xF0 then 3
  else if b.toNat < 0xF5 then 4
  else 0

/-- The second byte of a character of three or four bytes: no overlong encoding, no
surrogate, nothing above the last character. -/
def isSecond (first second : UInt8) : Bool :=
  isContinuation second &&
    (first.toNat != 0xE0 || 0xA0 ≤ second.toNat) && (first.toNat != 0xED || second.toNat ≤ 0x9F) &&
    (first.toNat != 0xF0 || 0x90 ≤ second.toNat) && (first.toNat != 0xF4 || second.toNat ≤ 0x8F)

def byteAt (bytes : List UInt8) (i : ℕ) : UInt8 := bytes[i]?.getD 0

def payloadBits (b : UInt8) : ℕ := b.toNat - 0x80

/-- What is read where a byte begins, and how many of the bytes after it belong to that. -/
def lossyStep (first : UInt8) (rest : List UInt8) : Char × ℕ :=
  if charWidth first = 1 then (Char.ofNat first.toNat, 0)
  else if charWidth first = 2 then
    if isContinuation (byteAt rest 0) then
      (Char.ofNat ((first.toNat - 0xC0) * 64 + payloadBits (byteAt rest 0)), 1)
    else (replacement, 0)
  else if charWidth first = 3 then
    if isSecond first (byteAt rest 0) then
      if isContinuation (byteAt rest 1) then
        (Char.ofNat ((first.toNat - 0xE0) * 4096 + payloadBits (byteAt rest 0) * 64 +
          payloadBits (byteAt rest 1)), 2)
      else (replacement, 1)
    else (replacement, 0)
  else if charWidth first = 4 then
    if isSecond first (byteAt rest 0) then
      if isContinuation (byteAt rest 1) then
        if isContinuation (byteAt rest 2) then
          (Char.ofNat ((first.toNat - 0xF0) * 262144 + payloadBits (byteAt rest 0) * 4096 +
            payloadBits (byteAt rest 1) * 64 + payloadBits (byteAt rest 2)), 3)
        else (replacement, 2)
      else (replacement, 1)
    else (replacement, 0)
  else (replacement, 0)

/-- Read bytes, after passing over some that have been read already. -/
def lossyFrom : ℕ → List UInt8 → List Char
  | _, [] => []
  | skip + 1, _ :: bytes => lossyFrom skip bytes
  | 0, b :: bytes => (lossyStep b bytes).1 :: lossyFrom (lossyStep b bytes).2 bytes

def lossy (bytes : List UInt8) : List Char := lossyFrom 0 bytes

theorem lossyFrom_eq (skip : ℕ) (bytes : List UInt8) :
    lossyFrom skip bytes = lossy (bytes.drop skip) := by
  induction skip generalizing bytes with
  | zero => rfl
  | succ skip ih =>
      cases bytes with
      | nil => rfl
      | cons b bytes => exact ih bytes

theorem lossy_cons (b : UInt8) (bytes : List UInt8) :
    lossy (b :: bytes) =
      (lossyStep b bytes).1 :: lossy (bytes.drop (lossyStep b bytes).2) := by
  rw [lossy, lossyFrom, lossyFrom_eq]

/-! ## Characters -/

/-- The encoding of a character: a first byte that says how many continuation bytes follow,
and that is read with them as the character. -/
structure Encodes (c : Char) (first : UInt8) (rest : List UInt8) : Prop where
  bytes : String.utf8EncodeChar c = first :: rest
  continuation : ∀ b ∈ rest, isContinuation b = true
  width : rest ≠ [] → charWidth first = rest.length + 1
  step : ∀ more, lossyStep first (rest ++ more) = (c, rest.length)

theorem encodes_one {c : Char} (h : c.toNat ≤ 0x7F) : Encodes c (UInt8.ofNat c.toNat) [] where
  bytes := by
    rw [String.utf8EncodeChar]
    exact if_pos h
  continuation := List.forall_mem_nil _
  width hne := absurd rfl hne
  step more := by
    have hfirst : (UInt8.ofNat c.toNat).toNat = c.toNat :=
      UInt8.toNat_ofNat_of_lt' (Nat.lt_of_le_of_lt h (by decide))
    have hwidth : charWidth (UInt8.ofNat c.toNat) = 1 := by
      rw [charWidth, hfirst, if_pos (by omega)]
    rw [lossyStep, if_pos hwidth, hfirst, Char.ofNat_toNat]
    rfl

theorem toNat_marked {n mark : ℕ} (h : n + mark < 256) :
    (UInt8.ofNat (n + mark)).toNat = n + mark :=
  UInt8.toNat_ofNat_of_lt' h

theorem isContinuation_marked (n : ℕ) : isContinuation (UInt8.ofNat (n % 64 + 0x80)) = true := by
  rw [isContinuation, toNat_marked (by omega)]
  simp only [Bool.and_eq_true, decide_eq_true_eq]
  omega

theorem payloadBits_marked (n : ℕ) : payloadBits (UInt8.ofNat (n % 64 + 0x80)) = n % 64 := by
  apply Nat.sub_eq_of_eq_add
  exact toNat_marked (by omega)

theorem encodes_two {c : Char} (hlow : 0x7F < c.toNat) (h : c.toNat ≤ 0x7FF) :
    Encodes c (UInt8.ofNat (c.toNat / 64 % 32 + 0xC0)) [UInt8.ofNat (c.toNat % 64 + 0x80)] where
  bytes := by
    rw [String.utf8EncodeChar]
    exact (if_neg (Nat.not_le.mpr hlow)).trans (if_pos h)
  continuation b hb := by
    rw [List.mem_singleton.mp hb]
    exact isContinuation_marked c.toNat
  width _ := by
    rw [charWidth, toNat_marked (by omega), if_neg (by omega), if_neg (by omega),
      if_pos (by omega)]
    rfl
  step more := by
    have hfirst := @toNat_marked (c.toNat / 64 % 32) 0xC0 (by omega)
    have hwidth : charWidth (UInt8.ofNat (c.toNat / 64 % 32 + 0xC0)) = 2 := by
      rw [charWidth, hfirst, if_neg (by omega), if_neg (by omega), if_pos (by omega)]
    have hbyte : byteAt ([UInt8.ofNat (c.toNat % 64 + 0x80)] ++ more) 0 =
        UInt8.ofNat (c.toNat % 64 + 0x80) := rfl
    have hvalue : (c.toNat / 64 % 32 + 0xC0 - 0xC0) * 64 + c.toNat % 64 = c.toNat := by omega
    rw [lossyStep, if_neg (by omega), if_pos hwidth, hbyte, if_pos (isContinuation_marked _),
      payloadBits_marked, hfirst, hvalue, Char.ofNat_toNat]
    rfl

theorem toNat_char (c : Char) : c.toNat < 0xD800 ∨ (0xDFFF < c.toNat ∧ c.toNat < 0x110000) :=
  c.valid

theorem encodes_three {c : Char} (hlow : 0x7FF < c.toNat) (h : c.toNat ≤ 0xFFFF) :
    Encodes c (UInt8.ofNat (c.toNat / 4096 % 16 + 0xE0))
      [UInt8.ofNat (c.toNat / 64 % 64 + 0x80), UInt8.ofNat (c.toNat % 64 + 0x80)] where
  bytes := by
    rw [String.utf8EncodeChar]
    refine (if_neg (Nat.not_le.mpr ?_)).trans
      ((if_neg (Nat.not_le.mpr hlow)).trans (if_pos h))
    exact Nat.lt_trans (by decide) hlow
  continuation b hb := by
    rw [List.mem_cons, List.mem_singleton] at hb
    rcases hb with rfl | rfl
    · exact isContinuation_marked _
    · exact isContinuation_marked _
  width _ := by
    rw [charWidth, toNat_marked (by omega), if_neg (by omega), if_neg (by omega),
      if_neg (by omega), if_pos (by omega)]
    rfl
  step more := by
    have hfirst := @toNat_marked (c.toNat / 4096 % 16) 0xE0 (by omega)
    have hsecond := @toNat_marked (c.toNat / 64 % 64) 0x80 (by omega)
    have hwidth : charWidth (UInt8.ofNat (c.toNat / 4096 % 16 + 0xE0)) = 3 := by
      rw [charWidth, hfirst, if_neg (by omega), if_neg (by omega), if_neg (by omega),
        if_pos (by omega)]
    have hisSecond : isSecond (UInt8.ofNat (c.toNat / 4096 % 16 + 0xE0))
        (UInt8.ofNat (c.toNat / 64 % 64 + 0x80)) = true := by
      have hvalid := toNat_char c
      rw [isSecond, isContinuation_marked, hfirst, hsecond]
      simp only [Bool.and_eq_true, Bool.or_eq_true, bne_iff_ne, ne_eq, decide_eq_true_eq,
        true_and]
      omega
    have hbytes : byteAt ([UInt8.ofNat (c.toNat / 64 % 64 + 0x80),
          UInt8.ofNat (c.toNat % 64 + 0x80)] ++ more) 0 =
        UInt8.ofNat (c.toNat / 64 % 64 + 0x80) ∧
        byteAt ([UInt8.ofNat (c.toNat / 64 % 64 + 0x80),
          UInt8.ofNat (c.toNat % 64 + 0x80)] ++ more) 1 =
        UInt8.ofNat (c.toNat % 64 + 0x80) := ⟨rfl, rfl⟩
    have hvalue : (c.toNat / 4096 % 16 + 0xE0 - 0xE0) * 4096 + c.toNat / 64 % 64 * 64 +
        c.toNat % 64 = c.toNat := by omega
    rw [lossyStep, if_neg (by omega), if_neg (by omega), if_pos hwidth, hbytes.1, hbytes.2,
      if_pos hisSecond, if_pos (isContinuation_marked _), payloadBits_marked, payloadBits_marked,
      hfirst, hvalue, Char.ofNat_toNat]
    rfl

theorem encodes_four {c : Char} (hlow : 0xFFFF < c.toNat) :
    Encodes c (UInt8.ofNat (c.toNat / 262144 % 8 + 0xF0))
      [UInt8.ofNat (c.toNat / 4096 % 64 + 0x80), UInt8.ofNat (c.toNat / 64 % 64 + 0x80),
        UInt8.ofNat (c.toNat % 64 + 0x80)] where
  bytes := by
    rw [String.utf8EncodeChar]
    refine (if_neg (Nat.not_le.mpr ?_)).trans
      ((if_neg (Nat.not_le.mpr ?_)).trans (if_neg (Nat.not_le.mpr hlow)))
    · exact Nat.lt_trans (by decide) hlow
    · exact Nat.lt_trans (by decide) hlow
  continuation b hb := by
    rw [List.mem_cons, List.mem_cons, List.mem_singleton] at hb
    rcases hb with rfl | rfl | rfl
    · exact isContinuation_marked _
    · exact isContinuation_marked _
    · exact isContinuation_marked _
  width _ := by
    have hvalid := toNat_char c
    rw [charWidth, toNat_marked (by omega), if_neg (by omega), if_neg (by omega),
      if_neg (by omega), if_neg (by omega), if_pos (by omega)]
    rfl
  step more := by
    have hvalid := toNat_char c
    have hfirst := @toNat_marked (c.toNat / 262144 % 8) 0xF0 (by omega)
    have hsecond := @toNat_marked (c.toNat / 4096 % 64) 0x80 (by omega)
    have hwidth : charWidth (UInt8.ofNat (c.toNat / 262144 % 8 + 0xF0)) = 4 := by
      rw [charWidth, hfirst, if_neg (by omega), if_neg (by omega), if_neg (by omega),
        if_neg (by omega), if_pos (by omega)]
    have hisSecond : isSecond (UInt8.ofNat (c.toNat / 262144 % 8 + 0xF0))
        (UInt8.ofNat (c.toNat / 4096 % 64 + 0x80)) = true := by
      rw [isSecond, isContinuation_marked, hfirst, hsecond]
      simp only [Bool.and_eq_true, Bool.or_eq_true, bne_iff_ne, ne_eq, decide_eq_true_eq,
        true_and]
      omega
    have hbytes : ∀ b₁ b₂ b₃, byteAt ([b₁, b₂, b₃] ++ more) 0 = b₁ ∧
        byteAt ([b₁, b₂, b₃] ++ more) 1 = b₂ ∧ byteAt ([b₁, b₂, b₃] ++ more) 2 = b₃ :=
      fun _ _ _ => ⟨rfl, rfl, rfl⟩
    have hvalue : (c.toNat / 262144 % 8 + 0xF0 - 0xF0) * 262144 + c.toNat / 4096 % 64 * 4096 +
        c.toNat / 64 % 64 * 64 + c.toNat % 64 = c.toNat := by omega
    rw [lossyStep, if_neg (by omega), if_neg (by omega), if_neg (by omega), if_pos hwidth,
      (hbytes _ _ _).1, (hbytes _ _ _).2.1, (hbytes _ _ _).2.2, if_pos hisSecond,
      if_pos (isContinuation_marked _), if_pos (isContinuation_marked _), payloadBits_marked,
      payloadBits_marked, payloadBits_marked, hfirst, hvalue, Char.ofNat_toNat]
    rfl

theorem exists_encodes (c : Char) : ∃ first rest, Encodes c first rest := by
  by_cases hone : c.toNat ≤ 0x7F
  · exact ⟨_, _, encodes_one hone⟩
  by_cases htwo : c.toNat ≤ 0x7FF
  · exact ⟨_, _, encodes_two (Nat.not_le.mp hone) htwo⟩
  by_cases hthree : c.toNat ≤ 0xFFFF
  · exact ⟨_, _, encodes_three (Nat.not_le.mp htwo) hthree⟩
  · exact ⟨_, _, encodes_four (Nat.not_le.mp hthree)⟩

theorem lossy_utf8EncodeChar_append (c : Char) (bytes : List UInt8) :
    lossy (String.utf8EncodeChar c ++ bytes) = c :: lossy bytes := by
  obtain ⟨first, rest, h⟩ := exists_encodes c
  rw [h.bytes, List.cons_append, lossy_cons, h.step, List.drop_left]

theorem charWidth_of_isContinuation {b : UInt8} (h : isContinuation b = true) :
    charWidth b = 0 := by
  rw [isContinuation, Bool.and_eq_true, decide_eq_true_eq, decide_eq_true_eq] at h
  rw [charWidth, if_neg (by omega), if_pos (by omega)]

theorem lossy_continuation_append {bytes : List UInt8}
    (h : ∀ b ∈ bytes, isContinuation b = true) (more : List UInt8) :
    lossy (bytes ++ more) = List.replicate bytes.length replacement ++ lossy more := by
  induction bytes with
  | nil => rfl
  | cons b bytes ih =>
      obtain ⟨hb, hbytes⟩ := List.forall_mem_cons.mp h
      have hstep : lossyStep b (bytes ++ more) = (replacement, 0) := by
        simp [lossyStep, charWidth_of_isContinuation hb]
      rw [List.cons_append, lossy_cons, hstep, List.drop_zero, ih hbytes]
      rfl

theorem eq_replacement_of_mem_lossy {bytes : List UInt8}
    (h : ∀ b ∈ bytes, isContinuation b = true) {d : Char} (hd : d ∈ lossy bytes) :
    d = replacement := by
  have hlossy := lossy_continuation_append h []
  have hempty : lossy [] = [] := rfl
  rw [List.append_nil, hempty, List.append_nil] at hlossy
  rw [hlossy] at hd
  exact List.eq_of_mem_replicate hd

theorem isContinuation_byteAt_of_le {bytes : List UInt8} {i : ℕ} (h : bytes.length ≤ i) :
    isContinuation (byteAt bytes i) = false := by
  rw [byteAt, List.getElem?_eq_none h]
  decide

theorem lossyStep_of_lt {first : UInt8} {rest : List UInt8}
    (h : rest.length + 1 < charWidth first) : (lossyStep first rest).1 = replacement := by
  have hwidth : charWidth first ≤ 4 := by
    rw [charWidth]
    repeat' split
    all_goals omega
  rw [lossyStep, if_neg (by omega)]
  split
  · rw [isContinuation_byteAt_of_le (by omega)]
    rfl
  · split
    · split
      · rw [isContinuation_byteAt_of_le (by omega)]
        rfl
      · rfl
    · split
      · split
        · split
          · have hthird := @isContinuation_byteAt_of_le rest 2 (by omega)
            rw [hthird]
            rfl
          · rfl
        · rfl
      · rfl

theorem lossy_of_encodes {c : Char} {first : UInt8} {rest part more : List UInt8}
    (h : Encodes c first rest) (hrest : rest = part ++ more) (hmore : more ≠ []) :
    lossy (first :: part) ≠ [] ∧ ∀ d ∈ lossy (first :: part), d = replacement := by
  have hne : rest ≠ [] := by
    rw [hrest]
    exact List.append_ne_nil_of_right_ne_nil part hmore
  have hwidth : part.length + 1 < charWidth first := by
    have hlength := List.length_pos_iff.mpr hmore
    rw [h.width hne, hrest, List.length_append]
    omega
  have hpart : ∀ b ∈ part.drop (lossyStep first part).2, isContinuation b = true := by
    intro b hb
    apply h.continuation b
    rw [hrest]
    exact List.mem_append_left more (List.mem_of_mem_drop hb)
  rw [lossy_cons, lossyStep_of_lt hwidth]
  refine ⟨List.cons_ne_nil _ _, List.forall_mem_cons.mpr ⟨rfl, ?_⟩⟩
  intro d hd
  exact eq_replacement_of_mem_lossy hpart hd

/-! ## Pieces -/

/-- The offsets at which pieces end, the first of them beginning at `k`. -/
def pieceEnds : ℕ → List (List UInt8) → List ℕ
  | _, [] => []
  | k, piece :: pieces => (k + piece.length) :: pieceEnds (k + piece.length) pieces

/-- The characters of a text, each with the offset at which its encoding begins. -/
def withOffsets : ℕ → List Char → List (Char × ℕ)
  | _, [] => []
  | k, c :: text => (c, k) :: withOffsets (k + c.utf8Size) text

def IsCut (ends : List ℕ) (x : Char × ℕ) : Prop :=
  ∃ m ∈ ends, x.2 < m ∧ m < x.2 + x.1.utf8Size

/-- What becomes of a character when every piece is decoded on its own. -/
structure DecodedAs (ends : List ℕ) (x : (Char × ℕ) × List Char) : Prop where
  whole : ¬ IsCut ends x.1 → x.2 = [x.1.1]
  cut : IsCut ends x.1 → 2 ≤ x.2.length ∧ ∀ d ∈ x.2, d = replacement

theorem le_of_mem_pieceEnds {k m : ℕ} {pieces : List (List UInt8)} (h : m ∈ pieceEnds k pieces) :
    k ≤ m := by
  induction pieces generalizing k with
  | nil => cases h
  | cons piece pieces ih =>
      rw [pieceEnds, List.mem_cons] at h
      rcases h with rfl | h
      · exact Nat.le_add_right k _
      · exact Nat.le_trans (Nat.le_add_right k _) (ih h)

theorem le_of_mem_withOffsets {k : ℕ} {text : List Char} {x : Char × ℕ}
    (h : x ∈ withOffsets k text) : k ≤ x.2 := by
  induction text generalizing k with
  | nil => cases h
  | cons c text ih =>
      rw [withOffsets, List.mem_cons] at h
      rcases h with rfl | h
      · exact Nat.le_refl k
      · exact Nat.le_trans (Nat.le_add_right k _) (ih h)

theorem map_fst_withOffsets (k : ℕ) (text : List Char) :
    (withOffsets k text).map Prod.fst = text := by
  induction text generalizing k with
  | nil => rfl
  | cons c text ih => rw [withOffsets, List.map_cons, ih]

theorem isCut_append_iff {before ends : List ℕ} {x : Char × ℕ} (h : ∀ m ∈ before, m ≤ x.2) :
    IsCut (before ++ ends) x ↔ IsCut ends x := by
  constructor
  · rintro ⟨m, hm, hlt, hend⟩
    rcases List.mem_append.mp hm with hm | hm
    · exact absurd (h m hm) (Nat.not_le.mpr hlt)
    · exact ⟨m, hm, hlt, hend⟩
  · rintro ⟨m, hm, hlt, hend⟩
    exact ⟨m, List.mem_append_right before hm, hlt, hend⟩

/-- The pieces from where `bytes` continue after `size` bytes that are read as `decoded`. -/
structure Continues (k : ℕ) (pieces : List (List UInt8)) (size : ℕ) (bytes : List UInt8)
    (decoded : List Char) (rest : List (List UInt8)) (before : List ℕ) : Prop where
  decodes : pieces.flatMap lossy = decoded ++ rest.flatMap lossy
  flatten : rest.flatten = bytes
  ends : pieceEnds k pieces = before ++ pieceEnds (k + size) rest
  before_le : ∀ m ∈ before, m ≤ k + size

namespace Continues

theorem first (k : ℕ) {part more : List UInt8} (pieces : List (List UInt8)) {decoded : List Char}
    (h : lossy (part ++ more) = decoded ++ lossy more) :
    Continues k ((part ++ more) :: pieces) part.length (more ++ pieces.flatten) decoded
      (more :: pieces) [] where
  decodes := by rw [List.flatMap_cons, List.flatMap_cons, h, List.append_assoc]
  flatten := rfl
  ends := by
    rw [pieceEnds, pieceEnds, List.length_append, Nat.add_assoc]
    rfl
  before_le := List.forall_mem_nil _

theorem next {k size : ℕ} {pieces : List (List UInt8)} {bytes : List UInt8}
    {decoded : List Char} {rest : List (List UInt8)} {before : List ℕ} (piece : List UInt8)
    (h : Continues (k + piece.length) pieces size bytes decoded rest before) :
    Continues k (piece :: pieces) (piece.length + size) bytes (lossy piece ++ decoded) rest
      ((k + piece.length) :: before) where
  decodes := by rw [List.flatMap_cons, h.decodes, List.append_assoc]
  flatten := h.flatten
  ends := by rw [pieceEnds, h.ends, List.cons_append, Nat.add_assoc]
  before_le := by
    rw [List.forall_mem_cons, ← Nat.add_assoc]
    exact ⟨Nat.le_add_right _ _, h.before_le⟩

end Continues

/-- The two ways in which a piece and those after it can begin with a part. -/
theorem append_eq_append_cases {piece later part bytes : List UInt8}
    (h : piece ++ later = part ++ bytes) :
    (∃ more, piece = part ++ more ∧ bytes = more ++ later) ∨
      ∃ left, left ≠ [] ∧ part = piece ++ left ∧ later = left ++ bytes := by
  rcases List.append_eq_append_iff.mp h with ⟨left, hpart, hlater⟩ | ⟨more, hpiece, hbytes⟩
  · cases left with
    | nil => exact .inl ⟨[], by rw [hpart, List.append_nil, List.append_nil], hlater.symm⟩
    | cons b left => exact .inr ⟨b :: left, List.cons_ne_nil b left, hpart, hlater⟩
  · exact .inl ⟨more, hpiece, hbytes⟩

theorem exists_continues_continuation {k : ℕ} {pieces : List (List UInt8)}
    {part bytes : List UInt8} (hpart : ∀ b ∈ part, isContinuation b = true) (hne : part ≠ [])
    (h : pieces.flatten = part ++ bytes) :
    ∃ decoded rest before, Continues k pieces part.length bytes decoded rest before ∧
      decoded ≠ [] ∧ ∀ d ∈ decoded, d = replacement := by
  induction pieces generalizing k part with
  | nil => exact absurd (List.append_eq_nil_iff.mp h.symm).1 hne
  | cons piece pieces ih =>
      rcases append_eq_append_cases h with ⟨more, rfl, rfl⟩ | ⟨left, hleft, rfl, hlater⟩
      · refine ⟨_, _, _, Continues.first k pieces (lossy_continuation_append hpart more), ?_,
          fun d hd => List.eq_of_mem_replicate hd⟩
        simpa using hne
      · obtain ⟨hpiece, hleftAll⟩ := List.forall_mem_append.mp hpart
        obtain ⟨decoded, rest, before, hcont, hdecoded, hall⟩ :=
          @ih (k + piece.length) left hleftAll hleft hlater
        rw [List.length_append]
        refine ⟨_, _, _, hcont.next piece, ?_, ?_⟩
        · exact List.append_ne_nil_of_right_ne_nil _ hdecoded
        · rw [List.forall_mem_append]
          exact ⟨fun d hd => eq_replacement_of_mem_lossy hpiece hd, hall⟩

theorem not_isCut_of_le {ends : List ℕ} {c : Char} {k : ℕ}
    (h : ∀ m ∈ ends, m ≤ k ∨ k + c.utf8Size ≤ m) : ¬ IsCut ends (c, k) := by
  rintro ⟨m, hm, hlt, hend⟩
  have hside := h m hm
  simp only at hlt hend
  omega

theorem exists_continues_char {k : ℕ} {c : Char} {pieces : List (List UInt8)}
    {bytes : List UInt8} (h : pieces.flatten = String.utf8EncodeChar c ++ bytes) :
    ∃ decoded rest before, Continues k pieces c.utf8Size bytes decoded rest before ∧
      DecodedAs (pieceEnds k pieces) ((c, k), decoded) := by
  obtain ⟨first, tail, henc⟩ := exists_encodes c
  have hsize : (first :: tail).length = c.utf8Size := by
    rw [← henc.bytes, String.length_utf8EncodeChar]
  induction pieces with
  | nil =>
      rw [henc.bytes] at h
      cases h
  | cons piece pieces ih =>
      rcases append_eq_append_cases h with ⟨more, rfl, rfl⟩ | ⟨left, hleft, hchar, hlater⟩
      · -- the whole character is in the first piece
        have hcont := @Continues.first k _ more pieces [c] (lossy_utf8EncodeChar_append c more)
        rw [String.length_utf8EncodeChar] at hcont
        refine ⟨[c], _, _, hcont, fun _ => rfl, fun hcut => absurd hcut (not_isCut_of_le ?_)⟩
        intro m hm
        rw [hcont.ends] at hm
        exact .inr (le_of_mem_pieceEnds hm)
      · cases piece with
        | nil =>
            -- an empty piece
            obtain ⟨decoded, rest, before, hcont, hdecoded⟩ := ih h
            refine ⟨decoded, rest, k :: before, ?_, ?_⟩
            · have hnext := @Continues.next k c.utf8Size pieces bytes decoded rest before [] hcont
              rwa [List.length_nil, Nat.zero_add] at hnext
            · have hcut := @isCut_append_iff [k] (pieceEnds k pieces) (c, k)
                (by simp only [List.mem_singleton, forall_eq, Nat.le_refl])
              exact ⟨fun hnot => hdecoded.whole fun h => hnot (hcut.mpr h),
                fun h => hdecoded.cut (hcut.mp h)⟩
        | cons b part =>
            -- the character is cut
            rw [henc.bytes, List.cons_append] at hchar
            obtain ⟨rfl, htail⟩ := List.cons.inj hchar
            have hleftAll : ∀ b ∈ left, isContinuation b = true := by
              intro b hb
              apply henc.continuation b
              rw [htail]
              exact List.mem_append_right part hb
            obtain ⟨decoded, rest, before, hcont, hne, hall⟩ :=
              @exists_continues_continuation (k + (first :: part).length) pieces left bytes
                hleftAll hleft hlater
            obtain ⟨hfirst, hfirstAll⟩ := lossy_of_encodes henc htail hleft
            have hnext := hcont.next (first :: part)
            have hlength : (first :: part).length + left.length = c.utf8Size := by
              rw [← hsize, htail, ← List.length_append, List.cons_append]
            rw [hlength] at hnext
            have hpos := List.length_pos_iff.mpr hleft
            have hcut : IsCut (pieceEnds k ((first :: part) :: pieces)) (c, k) :=
              ⟨k + (first :: part).length, List.mem_cons_self, by simp, by simp only; omega⟩
            refine ⟨_, _, _, hnext, fun hnot => absurd hcut hnot, fun _ => ⟨?_, ?_⟩⟩
            · have hone := List.length_pos_iff.mpr hfirst
              have htwo := List.length_pos_iff.mpr hne
              rw [List.length_append]
              omega
            · exact List.forall_mem_append.mpr ⟨hfirstAll, hall⟩

/-- Every character of a text whose encoding is decoded in pieces comes out as it is, or as
replacement characters if a piece ends inside it. -/
theorem exists_decodedAs (k : ℕ) {text : List Char} {pieces : List (List UInt8)}
    (h : pieces.flatten = encode text) :
    ∃ w : List ((Char × ℕ) × List Char), w.map Prod.fst = withOffsets k text ∧
      w.flatMap Prod.snd = pieces.flatMap lossy ∧ ∀ x ∈ w, DecodedAs (pieceEnds k pieces) x := by
  induction text generalizing k pieces with
  | nil =>
      refine ⟨[], rfl, ?_, List.forall_mem_nil _⟩
      rw [List.flatMap_nil, eq_comm, List.flatMap_eq_nil_iff]
      intro piece hpiece
      rw [List.flatten_eq_nil_iff.mp h piece hpiece]
      rfl
  | cons c text ih =>
      rw [encode, List.flatMap_cons] at h
      obtain ⟨decoded, rest, before, hcont, hdecoded⟩ := @exists_continues_char k c pieces _ h
      obtain ⟨w, hfst, hsnd, hall⟩ := ih (k + c.utf8Size) hcont.flatten
      refine ⟨((c, k), decoded) :: w, ?_, ?_, List.forall_mem_cons.mpr ⟨hdecoded, ?_⟩⟩
      · rw [List.map_cons, hfst, withOffsets]
      · rw [List.flatMap_cons, hsnd, hcont.decodes]
      · intro x hx
        have hoffset : k + c.utf8Size ≤ x.1.2 := by
          apply @le_of_mem_withOffsets _ text x.1
          rw [← hfst]
          exact List.mem_map_of_mem hx
        have hcut := @isCut_append_iff before (pieceEnds (k + c.utf8Size) rest) x.1
          fun m hm => Nat.le_trans (hcont.before_le m hm) hoffset
        rw [hcont.ends]
        exact ⟨fun hnot => (hall x hx).whole fun h => hnot (hcut.mpr h),
          fun h => (hall x hx).cut (hcut.mp h)⟩

theorem lossy_encode (text : List Char) : lossy (encode text) = text := by
  induction text with
  | nil => rfl
  | cons c text ih => rw [encode, List.flatMap_cons, lossy_utf8EncodeChar_append, ← encode, ih]

end Utf8
