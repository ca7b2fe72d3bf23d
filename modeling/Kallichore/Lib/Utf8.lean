import Mathlib.Data.List.Basic
import Mathlib.Tactic.Common

/-!
# Texts measured in bytes

A text is a list of characters, but its length and the places where it can be
cut are counted in the bytes of its UTF-8 encoding. Cutting at a character
boundary is the only way to cut; `takeBytes` and `dropBytes` never split a
character.
-/

namespace Utf8

def utf8Len : List Char → ℕ
  | [] => 0
  | c :: s => c.utf8Size + utf8Len s

/-- No character of the text extends across the byte index, which is not past
the end. -/
def isCharBoundary : List Char → ℕ → Bool
  | _, 0 => true
  | [], _ + 1 => false
  | c :: s, n + 1 => c.utf8Size ≤ n + 1 && isCharBoundary s (n + 1 - c.utf8Size)

/-- The characters within the first bytes. -/
def takeBytes : List Char → ℕ → List Char
  | [], _ => []
  | c :: s, n => if c.utf8Size ≤ n then c :: takeBytes s (n - c.utf8Size) else []

/-- The characters after the first bytes. -/
def dropBytes : List Char → ℕ → List Char
  | [], _ => []
  | c :: s, n => if c.utf8Size ≤ n then dropBytes s (n - c.utf8Size) else c :: s

theorem utf8Len_cons (c : Char) (s : List Char) :
    utf8Len (c :: s) = c.utf8Size + utf8Len s := rfl

theorem utf8Len_append (s t : List Char) : utf8Len (s ++ t) = utf8Len s + utf8Len t := by
  induction s with
  | nil => simp [utf8Len]
  | cons c s ih => rw [List.cons_append, utf8Len_cons, utf8Len_cons, ih, Nat.add_assoc]

theorem utf8Len_eq_length {s : List Char} (h : ∀ c ∈ s, c.utf8Size = 1) : utf8Len s = s.length := by
  induction s with
  | nil => rfl
  | cons c s ih =>
      rw [utf8Len_cons, h c List.mem_cons_self, ih fun d hd => h d (List.mem_cons_of_mem c hd),
        List.length_cons, Nat.add_comm]

theorem utf8Len_replicate (n : ℕ) (c : Char) :
    utf8Len (List.replicate n c) = n * c.utf8Size := by
  induction n with
  | zero => rw [Nat.zero_mul, List.replicate_zero, utf8Len]
  | succ n ih => rw [List.replicate_succ, utf8Len_cons, ih, Nat.succ_mul, Nat.add_comm]

theorem utf8Len_le_of_sublist {s t : List Char} (h : s.Sublist t) : utf8Len s ≤ utf8Len t := by
  induction h with
  | slnil => exact Nat.le_refl _
  | cons c h ih =>
      rw [utf8Len_cons]
      omega
  | cons_cons c h ih =>
      rw [utf8Len_cons, utf8Len_cons]
      omega

/-! ## The ends of a text -/

def lastBytes (s : List Char) (n : ℕ) : List Char := (takeBytes s.reverse n).reverse

theorem takeBytes_append_dropBytes (s : List Char) (n : ℕ) :
    takeBytes s n ++ dropBytes s n = s := by
  induction s generalizing n with
  | nil => rfl
  | cons c s ih =>
      rw [takeBytes, dropBytes]
      split
      · rw [List.cons_append, ih]
      · rfl

theorem utf8Len_takeBytes_le (s : List Char) (n : ℕ) : utf8Len (takeBytes s n) ≤ n := by
  induction s generalizing n with
  | nil => exact Nat.zero_le n
  | cons c s ih =>
      rw [takeBytes]
      split
      next hfits =>
        have hrest := ih (n - c.utf8Size)
        rw [utf8Len_cons]
        omega
      · exact Nat.zero_le n

theorem takeBytes_zero (s : List Char) : takeBytes s 0 = [] := by
  cases s with
  | nil => rfl
  | cons c s => exact if_neg (Nat.not_le.mpr c.utf8Size_pos)

theorem dropBytes_zero (s : List Char) : dropBytes s 0 = s := by
  cases s with
  | nil => rfl
  | cons c s => exact if_neg (Nat.not_le.mpr c.utf8Size_pos)

/-- A text that fits is taken whole, and what is left is filled from the next one. -/
theorem takeBytes_append_of_le {s : List Char} {n : ℕ} (t : List Char) (h : utf8Len s ≤ n) :
    takeBytes (s ++ t) n = s ++ takeBytes t (n - utf8Len s) := by
  induction s generalizing n with
  | nil => rfl
  | cons c s ih =>
      rw [utf8Len_cons] at h
      rw [List.cons_append, takeBytes, if_pos (by omega), ih (by omega), utf8Len_cons,
        Nat.sub_sub, List.cons_append]

theorem dropBytes_append_of_le {s : List Char} {n : ℕ} (t : List Char) (h : utf8Len s ≤ n) :
    dropBytes (s ++ t) n = dropBytes t (n - utf8Len s) := by
  induction s generalizing n with
  | nil => rfl
  | cons c s ih =>
      rw [utf8Len_cons] at h
      rw [List.cons_append, dropBytes, if_pos (by omega), ih (by omega), utf8Len_cons,
        Nat.sub_sub]

theorem takeBytes_append_length (s t : List Char) : takeBytes (s ++ t) (utf8Len s) = s := by
  rw [takeBytes_append_of_le t (Nat.le_refl _), Nat.sub_self, takeBytes_zero, List.append_nil]

theorem dropBytes_append_length (s t : List Char) : dropBytes (s ++ t) (utf8Len s) = t := by
  rw [dropBytes_append_of_le t (Nat.le_refl _), Nat.sub_self, dropBytes_zero]

theorem takeBytes_append_of_ge {s : List Char} {n : ℕ} (t : List Char) (h : n ≤ utf8Len s) :
    takeBytes (s ++ t) n = takeBytes s n := by
  induction s generalizing n with
  | nil =>
      rw [Nat.le_zero.mp h, takeBytes_zero, takeBytes_zero]
  | cons c s ih =>
      rw [utf8Len_cons] at h
      rw [List.cons_append, takeBytes, takeBytes]
      split
      · rw [ih (by omega)]
      · rfl

/-- A character that does not fit stops the taking, whatever comes after it. -/
theorem takeBytes_append_of_dropBytes {s : List Char} {n : ℕ} (t : List Char)
    (h : dropBytes s n ≠ []) :
    takeBytes (s ++ t) n = takeBytes s n ∧ dropBytes (s ++ t) n = dropBytes s n ++ t := by
  induction s generalizing n with
  | nil => exact absurd rfl h
  | cons c s ih =>
      rw [List.cons_append, takeBytes, takeBytes, dropBytes, dropBytes]
      rw [dropBytes] at h
      split
      next hfits =>
        rw [if_pos hfits] at h
        exact ⟨congrArg (c :: ·) (ih h).1, (ih h).2⟩
      · exact ⟨rfl, rfl⟩

theorem takeBytes_append_takeBytes (s t : List Char) {n m : ℕ} (h : n ≤ m) :
    takeBytes (s ++ takeBytes t m) n = takeBytes (s ++ t) n := by
  induction s generalizing n with
  | nil =>
      rw [List.nil_append, List.nil_append]
      induction t generalizing n m with
      | nil => rfl
      | cons c t ih =>
          rw [takeBytes]
          split
          next hm =>
            rw [takeBytes, takeBytes]
            split
            · rw [ih (by omega)]
            · rfl
          next hm => rw [takeBytes, takeBytes, if_neg (by omega)]
  | cons c s ih =>
      rw [List.cons_append, List.cons_append, takeBytes, takeBytes]
      split
      · rw [ih (by omega)]
      · rfl

theorem utf8Len_le_takeBytes {s t : List Char} {n : ℕ} (h : utf8Len s ≤ n) :
    utf8Len s ≤ utf8Len (takeBytes (s ++ t) n) := by
  rw [takeBytes_append_of_le t h, utf8Len_append]
  omega

theorem utf8Len_reverse (s : List Char) : utf8Len s.reverse = utf8Len s := by
  induction s with
  | nil => rfl
  | cons c s ih =>
      rw [List.reverse_cons, utf8Len_append, utf8Len_cons, utf8Len_cons, ih]
      simp only [utf8Len]
      omega

theorem lastBytes_append_of_ge {s : List Char} {n : ℕ} (t : List Char) (h : n ≤ utf8Len s) :
    lastBytes (t ++ s) n = lastBytes s n := by
  rw [lastBytes, List.reverse_append, takeBytes_append_of_ge, lastBytes]
  rw [utf8Len_reverse]
  exact h

theorem lastBytes_of_le {s : List Char} {n : ℕ} (h : utf8Len s ≤ n) : lastBytes s n = s := by
  have hfits : utf8Len s.reverse ≤ n := by rwa [utf8Len_reverse]
  have hall := takeBytes_append_of_le [] hfits
  rw [List.append_nil, takeBytes, List.append_nil] at hall
  rw [lastBytes, hall, List.reverse_reverse]

theorem lastBytes_lastBytes_append (s t : List Char) (n : ℕ) :
    lastBytes (lastBytes s n ++ t) n = lastBytes (s ++ t) n := by
  simp only [lastBytes, List.reverse_append, List.reverse_reverse,
    takeBytes_append_takeBytes _ _ (Nat.le_refl n)]

theorem utf8Len_lastBytes_le (s : List Char) (n : ℕ) : utf8Len (lastBytes s n) ≤ n := by
  rw [lastBytes, utf8Len_reverse]
  exact utf8Len_takeBytes_le s.reverse n

theorem lastBytes_suffix (s : List Char) (n : ℕ) : lastBytes s n <:+ s := by
  rw [lastBytes, ← List.reverse_prefix, List.reverse_reverse]
  exact ⟨_, takeBytes_append_dropBytes s.reverse n⟩

theorem dropBytes_sub_lastBytes (s : List Char) (n : ℕ) :
    dropBytes s (utf8Len s - utf8Len (lastBytes s n)) = lastBytes s n := by
  obtain ⟨rest, hrest⟩ := lastBytes_suffix s n
  have hlen : utf8Len s = utf8Len rest + utf8Len (lastBytes s n) := by
    conv_lhs => rw [← hrest, utf8Len_append]
  have hdrop := dropBytes_append_length rest (lastBytes s n)
  rw [hrest] at hdrop
  rwa [hlen, Nat.add_sub_cancel]

theorem utf8Len_le_lastBytes {s t : List Char} {n : ℕ} (h : utf8Len s ≤ n) :
    utf8Len s ≤ utf8Len (lastBytes (t ++ s) n) := by
  rw [lastBytes, utf8Len_reverse, List.reverse_append, ← utf8Len_reverse s]
  exact utf8Len_le_takeBytes (by rwa [utf8Len_reverse])

theorem lastBytes_ne_nil {s : List Char} {n : ℕ} (hs : s ≠ []) (hn : 4 ≤ n) :
    lastBytes s n ≠ [] := by
  have hne : s.reverse ≠ [] := List.reverse_ne_nil_iff.mpr hs
  rw [lastBytes, List.reverse_ne_nil_iff]
  generalize s.reverse = r at hne
  cases r with
  | nil => exact absurd rfl hne
  | cons c r =>
      rw [takeBytes, if_pos (Nat.le_trans c.utf8Size_le_four hn)]
      exact List.cons_ne_nil _ _

/-! ## The longest part that fits -/

/-- Of the beginnings of `s` that fit in `n` bytes, `p` is the one that has all others. -/
def IsLongestPrefix (p s : List Char) (n : ℕ) : Prop :=
  (p <+: s ∧ utf8Len p ≤ n) ∧ ∀ q, q <+: s → utf8Len q ≤ n → q <+: p

/-- Of the ends of `s` that fit in `n` bytes, `p` is the one that has all others. -/
def IsLongestSuffix (p s : List Char) (n : ℕ) : Prop :=
  (p <:+ s ∧ utf8Len p ≤ n) ∧ ∀ q, q <:+ s → utf8Len q ≤ n → q <:+ p

theorem isLongestPrefix_takeBytes (s : List Char) (n : ℕ) :
    IsLongestPrefix (takeBytes s n) s n := by
  refine ⟨⟨⟨_, takeBytes_append_dropBytes s n⟩, utf8Len_takeBytes_le s n⟩, ?_⟩
  rintro q ⟨t, rfl⟩ hfits
  rw [takeBytes_append_of_le t hfits]
  exact List.prefix_append _ _

theorem isLongestSuffix_lastBytes (s : List Char) (n : ℕ) :
    IsLongestSuffix (lastBytes s n) s n := by
  refine ⟨⟨lastBytes_suffix s n, utf8Len_lastBytes_le s n⟩, ?_⟩
  intro q hq hfits
  rw [lastBytes, ← List.reverse_prefix, List.reverse_reverse]
  apply (isLongestPrefix_takeBytes s.reverse n).2
  · exact List.reverse_prefix.mpr hq
  · rwa [utf8Len_reverse]

theorem takeBytes_of_le {s : List Char} {n : ℕ} (h : utf8Len s ≤ n) : takeBytes s n = s := by
  have hall := takeBytes_append_of_le [] h
  rwa [List.append_nil, takeBytes, List.append_nil] at hall

theorem takeBytes_eq_self_iff {s : List Char} {n : ℕ} : takeBytes s n = s ↔ utf8Len s ≤ n := by
  refine ⟨fun h => ?_, takeBytes_of_le⟩
  rw [← h]
  exact utf8Len_takeBytes_le s n

theorem takeBytes_isPrefix (s : List Char) (n : ℕ) : takeBytes s n <+: s :=
  ⟨_, takeBytes_append_dropBytes s n⟩

/-! ## Texts that share a budget -/

/-- What is kept of texts, one after another, while a number of bytes lasts. -/
def cutTo : ℕ → List (List Char) → List (List Char)
  | _, [] => []
  | n, s :: texts => takeBytes s n :: cutTo (n - utf8Len s) texts

theorem cutTo_append (n : ℕ) (texts more : List (List Char)) :
    cutTo n (texts ++ more) = cutTo n texts ++ cutTo (n - utf8Len texts.flatten) more := by
  induction texts generalizing n with
  | nil => rfl
  | cons s texts ih =>
      rw [List.cons_append, cutTo, ih, cutTo, List.cons_append, List.flatten_cons,
        utf8Len_append, Nat.sub_sub]

theorem cutTo_zero_flatten (texts : List (List Char)) : (cutTo 0 texts).flatten = [] := by
  induction texts with
  | nil => rfl
  | cons s texts ih =>
      rw [cutTo, List.flatten_cons, takeBytes_zero, Nat.zero_sub, ih, List.append_nil]

theorem flatten_cutTo (n : ℕ) (texts : List (List Char)) :
    (cutTo n texts).flatten = takeBytes texts.flatten n := by
  induction texts generalizing n with
  | nil => rfl
  | cons s texts ih =>
      rw [cutTo, List.flatten_cons, List.flatten_cons]
      rcases Nat.le_total (utf8Len s) n with hfits | hlong
      · rw [takeBytes_append_of_le _ hfits, takeBytes_of_le hfits, ih]
      · rw [takeBytes_append_of_ge _ hlong, Nat.sub_eq_zero_of_le hlong, cutTo_zero_flatten,
          List.append_nil]

theorem cutTo_eq_self {n : ℕ} {texts : List (List Char)} (h : utf8Len texts.flatten ≤ n) :
    cutTo n texts = texts := by
  induction texts generalizing n with
  | nil => rfl
  | cons s texts ih =>
      rw [List.flatten_cons, utf8Len_append] at h
      rw [cutTo, takeBytes_of_le (by omega), ih (by omega)]

theorem length_cutTo (n : ℕ) (texts : List (List Char)) :
    (cutTo n texts).length = texts.length := by
  induction texts generalizing n with
  | nil => rfl
  | cons s texts ih => rw [cutTo, List.length_cons, List.length_cons, ih]

theorem forall₂_cutTo (n : ℕ) (texts : List (List Char)) :
    List.Forall₂ (· <+: ·) (cutTo n texts) texts := by
  induction texts generalizing n with
  | nil => exact .nil
  | cons s texts ih => exact .cons (takeBytes_isPrefix s n) (ih _)

/-- Some text is shorter than it was if and only if they do not fit all together. -/
theorem exists_mem_zip_cutTo_iff (n : ℕ) (texts : List (List Char)) :
    (∃ pair ∈ (cutTo n texts).zip texts, utf8Len pair.1 < utf8Len pair.2) ↔
      n < utf8Len texts.flatten := by
  induction texts generalizing n with
  | nil =>
      rw [cutTo, List.zip_nil_right, List.flatten_nil, utf8Len]
      exact iff_of_false (fun ⟨_, hmem, _⟩ => List.not_mem_nil hmem) (Nat.not_lt_zero n)
  | cons s texts ih =>
      have hfirst : utf8Len (takeBytes s n) < utf8Len s ↔ n < utf8Len s := by
        constructor
        · intro hlt
          by_contra hle
          rw [takeBytes_of_le (Nat.not_lt.mp hle)] at hlt
          exact Nat.lt_irrefl _ hlt
        · exact Nat.lt_of_le_of_lt (utf8Len_takeBytes_le s n)
      simp only [cutTo, List.zip_cons_cons, List.mem_cons, exists_eq_or_imp, ih, hfirst,
        List.flatten_cons, utf8Len_append]
      omega

theorem isCharBoundary_iff {s : List Char} {n : ℕ} :
    isCharBoundary s n = true ↔ ∃ before after, s = before ++ after ∧ utf8Len before = n := by
  induction s generalizing n with
  | nil =>
      cases n with
      | zero => exact iff_of_true rfl ⟨[], [], rfl, rfl⟩
      | succ n =>
          refine iff_of_false (Bool.false_ne_true) ?_
          rintro ⟨before, after, hs, hn⟩
          rw [(List.append_eq_nil_iff.mp hs.symm).1] at hn
          cases hn
  | cons c s ih =>
      cases n with
      | zero => exact iff_of_true rfl ⟨[], c :: s, rfl, rfl⟩
      | succ n =>
          rw [isCharBoundary, Bool.and_eq_true, decide_eq_true_eq, ih]
          constructor
          · rintro ⟨hfits, before, after, rfl, hn⟩
            refine ⟨c :: before, after, rfl, ?_⟩
            rw [utf8Len_cons]
            omega
          · rintro ⟨before, after, hs, hn⟩
            cases before with
            | nil => cases hn
            | cons d before =>
                obtain ⟨rfl, rfl⟩ := List.cons.inj hs
                rw [utf8Len_cons] at hn
                exact ⟨by omega, before, after, rfl, by omega⟩

/-! ## Searching -/

/-- The byte index of the last occurrence of a character. -/
def rfind (c : Char) : List Char → Option ℕ
  | [] => none
  | d :: s =>
      match rfind c s with
      | some i => some (d.utf8Size + i)
      | none => if d = c then some 0 else none

/-- The text from a byte index on, if the index is not past the end and not inside a
character. -/
def getFrom (s : List Char) (n : ℕ) : Option (List Char) :=
  if isCharBoundary s n then some (dropBytes s n) else none

theorem rfind_eq_none {c : Char} {s : List Char} (h : c ∉ s) : rfind c s = none := by
  induction s with
  | nil => rfl
  | cons d s ih =>
      rw [List.mem_cons, not_or] at h
      rw [rfind, ih h.2]
      exact if_neg (Ne.symm h.1)

theorem rfind_append_cons {c : Char} {after : List Char} (before : List Char) (h : c ∉ after) :
    rfind c (before ++ c :: after) = some (utf8Len before) := by
  induction before with
  | nil =>
      rw [List.nil_append, rfind, rfind_eq_none h]
      exact if_pos rfl
  | cons d before ih => rw [List.cons_append, rfind, ih, utf8Len_cons]

theorem isCharBoundary_append (s t : List Char) (n : ℕ) :
    isCharBoundary (s ++ t) (utf8Len s + n) = isCharBoundary t n := by
  induction s with
  | nil => rw [List.nil_append, utf8Len, Nat.zero_add]
  | cons c s ih =>
      obtain ⟨m, hm⟩ := Nat.exists_eq_succ_of_ne_zero (Nat.ne_of_gt c.utf8Size_pos)
      have hsum : utf8Len (c :: s) + n = (m + (utf8Len s + n)) + 1 := by
        rw [utf8Len_cons, hm]
        omega
      have hrest : m + (utf8Len s + n) + 1 - c.utf8Size = utf8Len s + n := by omega
      rw [List.cons_append, hsum, isCharBoundary, hrest, ih, Bool.and_eq_right_iff_imp]
      intro _
      exact decide_eq_true (by omega)

theorem getFrom_append (s t : List Char) (n : ℕ) :
    getFrom (s ++ t) (utf8Len s + n) = getFrom t n := by
  rw [getFrom, isCharBoundary_append, dropBytes_append_of_le t (Nat.le_add_right _ n),
    Nat.add_sub_cancel_left, getFrom]

/-- A text without its first byte is the text without its first character, which is that byte. -/
theorem getFrom_one_eq_some_iff {s t : List Char} :
    getFrom s 1 = some t ↔ ∃ c : Char, c.utf8Size = 1 ∧ s = c :: t := by
  cases s with
  | nil => simp [getFrom, isCharBoundary]
  | cons c s =>
      have hpos := c.utf8Size_pos
      by_cases hc : c.utf8Size = 1
      · have hfrom : getFrom (c :: s) 1 = some s := by
          have h := getFrom_append [c] s 0
          rw [utf8Len_cons, hc, utf8Len] at h
          rw [← List.singleton_append, h, getFrom, isCharBoundary, if_pos rfl, dropBytes_zero]
        rw [hfrom]
        constructor
        · rintro ⟨⟩
          exact ⟨c, hc, rfl⟩
        · rintro ⟨d, -, hs⟩
          rw [(List.cons.inj hs).2]
      · have hnone : getFrom (c :: s) 1 = none := by
          rw [getFrom, isCharBoundary, decide_eq_false (by omega)]
          rfl
        rw [hnone]
        refine iff_of_false (by simp) ?_
        rintro ⟨d, hd, hs⟩
        rw [(List.cons.inj hs).1] at hc
        exact hc hd

end Utf8
