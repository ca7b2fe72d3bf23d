import Mathlib.Algebra.Order.Ring.Nat
import Mathlib.Data.Int.Notation
import Mathlib.Data.List.Basic
import Mathlib.Tactic.Common

/-!
# Words and numerals of a text

A text is a list of characters. It is split into words at white space, in the sense of
Unicode, and there are no empty words; or at the last occurrence of a separator. A word is
read as a number of a fixed width: digits with at most one sign in front, and a value that
the width has room for.
-/

namespace Words

/-! ## Words -/

/-- The characters with the property `White_Space`. -/
def isWhitespace (c : Char) : Bool :=
  let n := c.toNat
  (0x09 ≤ n && n ≤ 0x0D) || n == 0x20 || n == 0x85 || n == 0xA0 || n == 0x1680 ||
    (0x2000 ≤ n && n ≤ 0x200A) || n == 0x2028 || n == 0x2029 || n == 0x202F || n == 0x205F ||
    n == 0x3000

def splitWhitespace (text : List Char) : List (List Char) :=
  (text.splitOnP isWhitespace).filter fun word => !word.isEmpty

structure IsWord (word : List Char) : Prop where
  ne_nil : word ≠ []
  chars : ∀ c ∈ word, isWhitespace c = false

theorem splitWhitespace_cons {c : Char} (h : isWhitespace c = true) (rest : List Char) :
    splitWhitespace (c :: rest) = splitWhitespace rest := by
  rw [splitWhitespace, List.splitOnP_cons_eq_if_modifyHead, if_pos h, List.filter_cons_of_neg]
  · rfl
  · simp

theorem IsWord.splitWhitespace_append {word : List Char} (h : IsWord word) {c : Char}
    (hc : isWhitespace c = true) (rest : List Char) :
    splitWhitespace (word ++ c :: rest) = word :: splitWhitespace rest := by
  rw [splitWhitespace, List.splitOnP_append_cons_of_forall_mem h.chars c hc,
    List.filter_cons_of_pos]
  · rfl
  · simp [h.ne_nil]

theorem IsWord.splitWhitespace_eq {word : List Char} (h : IsWord word) :
    splitWhitespace word = [word] := by
  rw [splitWhitespace, List.splitOnP_eq_singleton h.chars, List.filter_cons_of_pos]
  · rfl
  · simp [h.ne_nil]

theorem splitWhitespace_intercalate {words : List (List Char)} (h : ∀ word ∈ words, IsWord word) :
    splitWhitespace ([' '].intercalate words) = words := by
  induction words with
  | nil => rfl
  | cons word words ih =>
      have hword := h word List.mem_cons_self
      have hrest := ih fun w hw => h w (List.mem_cons_of_mem word hw)
      cases words with
      | nil => rw [List.intercalate_singleton, hword.splitWhitespace_eq]
      | cons next words =>
          rw [List.intercalate_cons_cons, List.append_assoc, List.singleton_append,
            hword.splitWhitespace_append rfl, hrest]

theorem mem_intercalate {c sep : Char} {words : List (List Char)}
    (h : c ∈ [sep].intercalate words) : c = sep ∨ ∃ word ∈ words, c ∈ word := by
  induction words with
  | nil => cases h
  | cons word words ih =>
      cases words with
      | nil =>
          rw [List.intercalate_singleton] at h
          exact Or.inr ⟨word, List.mem_cons_self, h⟩
      | cons next words =>
          rw [List.intercalate_cons_cons, List.append_assoc, List.mem_append, List.singleton_append,
            List.mem_cons] at h
          rcases h with hword | hsep | hrest
          · exact Or.inr ⟨word, List.mem_cons_self, hword⟩
          · exact Or.inl hsep
          · rcases ih hrest with hsep | ⟨w, hw, hc⟩
            · exact Or.inl hsep
            · exact Or.inr ⟨w, List.mem_cons_of_mem word hw, hc⟩

theorem length_splitWhitespace_le_cons (c : Char) (rest : List Char) :
    (splitWhitespace rest).length ≤ (splitWhitespace (c :: rest)).length := by
  cases hc : isWhitespace c with
  | true => exact Nat.le_of_eq (congrArg List.length (splitWhitespace_cons hc rest).symm)
  | false =>
      rw [splitWhitespace, splitWhitespace, List.splitOnP_cons_eq_if_modifyHead,
        if_neg (by simp [hc])]
      cases rest.splitOnP isWhitespace with
      | nil => exact Nat.le_refl _
      | cons first others =>
          rw [List.modifyHead_cons, List.filter_cons, List.filter_cons_of_pos (by simp)]
          split
          · exact Nat.le_refl _
          · exact Nat.le_succ _

/-! ## The last separator -/

/-- What is before the last occurrence of a separator, and what is after it. -/
def rsplitOnce (sep : Char) : List Char → Option (List Char × List Char)
  | [] => none
  | c :: text =>
      match rsplitOnce sep text with
      | some (before, after) => some (c :: before, after)
      | none => if c = sep then some ([], text) else none

theorem rsplitOnce_eq_none {sep : Char} {text : List Char} (h : sep ∉ text) :
    rsplitOnce sep text = none := by
  induction text with
  | nil => rfl
  | cons c text ih =>
      rw [List.mem_cons, not_or] at h
      rw [rsplitOnce, ih h.2]
      exact if_neg (Ne.symm h.1)

theorem rsplitOnce_append {sep : Char} {after : List Char} (before : List Char)
    (h : sep ∉ after) : rsplitOnce sep (before ++ sep :: after) = some (before, after) := by
  induction before with
  | nil =>
      rw [List.nil_append, rsplitOnce, rsplitOnce_eq_none h]
      exact if_pos rfl
  | cons c before ih => rw [List.cons_append, rsplitOnce, ih]

theorem eq_append_of_rsplitOnce {sep : Char} {text before after : List Char}
    (h : rsplitOnce sep text = some (before, after)) : text = before ++ sep :: after := by
  induction text generalizing before with
  | nil => cases h
  | cons c text ih =>
      rw [rsplitOnce] at h
      split at h
      next before' after' hsplit =>
        cases h
        rw [ih hsplit, List.cons_append]
      next =>
        obtain ⟨hc, heq⟩ := Option.ite_none_right_eq_some.mp h
        cases heq
        rw [hc, List.nil_append]

/-! ## Numerals -/

/-- Digits, at least one, and their value. -/
structure IsNumeral (text : List Char) (n : ℕ) : Prop where
  ne_nil : text ≠ []
  digits : ∀ c ∈ text, c.isDigit = true
  value : Nat.ofDigitChars 10 text 0 = n

/-- A numeral, which may have a minus in front. -/
def IsSignedNumeral (text : List Char) (z : ℤ) : Prop :=
  (∃ n : ℕ, IsNumeral text n ∧ z = n) ∨
    ∃ digits, ∃ n : ℕ, text = '-' :: digits ∧ IsNumeral digits n ∧ z = -n

def digitsValue (text : List Char) : Option ℕ :=
  if text.isEmpty || !text.all Char.isDigit then none else some (Nat.ofDigitChars 10 text 0)

/-- A number of so many bits without a sign, as `from_str` reads it. -/
def parseUnsigned (bits : ℕ) (text : List Char) : Option ℕ :=
  let digits := if text.head? = some '+' then text.tail else text
  (digitsValue digits).filter (· < 2 ^ bits)

/-- A number of so many bits, one of which is the sign, as `from_str` reads it. -/
def parseSigned (bits : ℕ) (text : List Char) : Option ℤ :=
  if text.head? = some '-' then
    ((digitsValue text.tail).filter (· ≤ 2 ^ (bits - 1))).map fun n : ℕ => -(n : ℤ)
  else
    let digits := if text.head? = some '+' then text.tail else text
    ((digitsValue digits).filter (· < 2 ^ (bits - 1))).map fun n : ℕ => (n : ℤ)

theorem IsNumeral.digitsValue_eq {text : List Char} {n : ℕ} (h : IsNumeral text n) :
    digitsValue text = some n := by
  have hall : text.all Char.isDigit = true := List.all_eq_true.mpr h.digits
  simp [digitsValue, h.ne_nil, hall, h.value]

theorem IsNumeral.head?_ne {text : List Char} {n : ℕ} (h : IsNumeral text n) {c : Char}
    (hc : c.isDigit = false) : text.head? ≠ some c := by
  intro heq
  have hdigit := h.digits c (List.mem_of_mem_head? heq)
  rw [hc] at hdigit
  cases hdigit

theorem IsNumeral.parseUnsigned_eq {text : List Char} {n bits : ℕ} (h : IsNumeral text n)
    (hn : n < 2 ^ bits) : parseUnsigned bits text = some n := by
  simp only [parseUnsigned, if_neg (h.head?_ne (rfl : '+'.isDigit = false))]
  simp [h.digitsValue_eq, hn]

theorem IsSignedNumeral.parseSigned_eq {text : List Char} {z : ℤ} {bits : ℕ}
    (h : IsSignedNumeral text z) (hmin : -(2 ^ (bits - 1) : ℕ) ≤ z)
    (hmax : z < (2 ^ (bits - 1) : ℕ)) : parseSigned bits text = some z := by
  rcases h with ⟨n, hn, rfl⟩ | ⟨digits, n, rfl, hn, rfl⟩
  · have hlt : n < 2 ^ (bits - 1) := Int.ofNat_lt.mp hmax
    simp only [parseSigned, if_neg (hn.head?_ne (rfl : '-'.isDigit = false)),
      if_neg (hn.head?_ne (rfl : '+'.isDigit = false))]
    simp [hn.digitsValue_eq, hlt]
  · have hle : n ≤ 2 ^ (bits - 1) := by omega
    simp only [parseSigned, List.head?_cons, List.tail_cons, if_pos]
    simp [hn.digitsValue_eq, hle]

theorem isNumeral_repr (n : ℕ) : IsNumeral n.repr.toList n where
  ne_nil := by
    rw [Nat.toList_repr]
    exact Nat.toDigits_ne_nil
  digits := by
    intro c hc
    rw [Nat.toList_repr] at hc
    exact Nat.isDigit_of_mem_toDigits (by decide) (by decide) hc
  value := by
    rw [Nat.toList_repr, Nat.ofDigitChars_ten_toDigits]

end Words
