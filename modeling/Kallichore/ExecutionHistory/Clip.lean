import Kallichore.ExecutionHistory.Basic

/-!
# A clip does not see how a text arrives

A kernel's output arrives in pieces, and a clip is cut anew at each of them. What a clip
holds is nevertheless a function of the whole text: its first half of the budget, the last
half of the budget of what follows, and the number of bytes between them. Both halves have
room for a character, so once something has been left out of the head the tail is never
empty again.
-/

namespace Kallichore

open Utf8

/-! ## Boundaries -/

theorem floorFrom_le (text : List Char) (index : ℕ) : floorFrom text index ≤ index := by
  induction index with
  | zero => exact Nat.le_refl 0
  | succ index ih =>
      rw [floorFrom]
      split
      · exact Nat.le_refl _
      · omega

theorem isCharBoundary_floorFrom (text : List Char) (index : ℕ) :
    isCharBoundary text (floorFrom text index) = true := by
  induction index with
  | zero => exact isCharBoundary_iff.mpr ⟨[], text, rfl, rfl⟩
  | succ index ih =>
      rw [floorFrom]
      split
      · assumption
      · exact ih

theorem le_floorFrom {text : List Char} {index n : ℕ} (hn : n ≤ index)
    (h : isCharBoundary text n = true) : n ≤ floorFrom text index := by
  induction index with
  | zero => exact hn
  | succ index ih =>
      rw [floorFrom]
      split
      · exact hn
      next hnot =>
        apply ih
        rcases Nat.lt_or_eq_of_le hn with hlt | rfl
        · omega
        · exact absurd h hnot

/-- The bytes up to the boundary are those of the characters within the index. -/
theorem floorBoundary_eq (text : List Char) (index : ℕ) :
    floorBoundary text index = utf8Len (takeBytes text index) := by
  have hsplit := takeBytes_append_dropBytes text index
  have hle : utf8Len (takeBytes text index) ≤ utf8Len text := by
    conv_rhs => rw [← hsplit, utf8Len_append]
    omega
  apply Nat.le_antisymm
  · obtain ⟨before, after, rfl, hbefore⟩ :=
      isCharBoundary_iff.mp (isCharBoundary_floorFrom text (min index (utf8Len text)))
    have hfloor := floorFrom_le (before ++ after) (min index (utf8Len (before ++ after)))
    rw [floorBoundary, ← hbefore]
    exact utf8Len_le_takeBytes (by omega)
  · apply le_floorFrom
    · have hfits := utf8Len_takeBytes_le text index
      omega
    · exact isCharBoundary_iff.mpr ⟨_, _, hsplit.symm, rfl⟩

theorem takeBytes_floorBoundary (text : List Char) (index : ℕ) :
    takeBytes text (floorBoundary text index) = takeBytes text index := by
  have htake := takeBytes_append_length (takeBytes text index) (dropBytes text index)
  rwa [takeBytes_append_dropBytes, ← floorBoundary_eq] at htake

theorem dropBytes_floorBoundary (text : List Char) (index : ℕ) :
    dropBytes text (floorBoundary text index) = dropBytes text index := by
  have hdrop := dropBytes_append_length (takeBytes text index) (dropBytes text index)
  rwa [takeBytes_append_dropBytes, ← floorBoundary_eq] at hdrop

theorem isCharBoundary_utf8Len (text : List Char) :
    isCharBoundary text (utf8Len text) = true :=
  isCharBoundary_iff.mpr ⟨text, [], (List.append_nil text).symm, rfl⟩

theorem isCharBoundary_ceilFrom {text : List Char} {left index : ℕ}
    (h : left + index = utf8Len text) : isCharBoundary text (ceilFrom text left index) = true := by
  induction left generalizing index with
  | zero =>
      rw [ceilFrom, ← Nat.zero_add index, h]
      exact isCharBoundary_utf8Len text
  | succ left ih =>
      rw [ceilFrom]
      split
      · assumption
      · exact ih (by omega)

theorem le_ceilFrom (text : List Char) (left index : ℕ) : index ≤ ceilFrom text left index := by
  induction left generalizing index with
  | zero => exact Nat.le_refl index
  | succ left ih =>
      rw [ceilFrom]
      split
      · exact Nat.le_refl index
      · exact Nat.le_trans (Nat.le_succ index) (ih (index + 1))

theorem ceilFrom_le {text : List Char} {left index n : ℕ} (hn : index ≤ n)
    (h : isCharBoundary text n = true) : ceilFrom text left index ≤ n := by
  induction left generalizing index with
  | zero => exact hn
  | succ left ih =>
      rw [ceilFrom]
      split
      · exact hn
      next hnot =>
        apply ih
        rcases Nat.lt_or_eq_of_le hn with hlt | rfl
        · omega
        · exact absurd h hnot

theorem ceilBoundary_eq (text : List Char) (half : ℕ) :
    ceilBoundary text (utf8Len text - half) =
      utf8Len text - utf8Len (lastBytes text half) := by
  obtain ⟨rest, hrest⟩ := lastBytes_suffix text half
  have hlen : utf8Len text = utf8Len rest + utf8Len (lastBytes text half) := by
    conv_lhs => rw [← hrest, utf8Len_append]
  have hfits := utf8Len_lastBytes_le text half
  have hmin : min (utf8Len text - half) (utf8Len text) = utf8Len text - half := by omega
  rw [ceilBoundary, hmin]
  apply Nat.le_antisymm
  · apply ceilFrom_le
    · omega
    · exact isCharBoundary_iff.mpr ⟨rest, _, hrest.symm, by omega⟩
  · have hboundary := @isCharBoundary_ceilFrom text
      (utf8Len text - (utf8Len text - half)) (utf8Len text - half) (by omega)
    have hstart := le_ceilFrom text (utf8Len text - (utf8Len text - half)) (utf8Len text - half)
    obtain ⟨before, after, htext, hbefore⟩ := isCharBoundary_iff.mp hboundary
    have hsum : utf8Len text = utf8Len before + utf8Len after := by
      conv_lhs => rw [htext, utf8Len_append]
    have hlast : utf8Len after ≤ utf8Len (lastBytes text half) := by
      conv_rhs => rw [htext]
      exact utf8Len_le_lastBytes (by omega)
    omega

/-! ## What a clip keeps -/

namespace Clip

def keeping (max : ℕ) (text : List Char) : Clip where
  max := max
  head := takeBytes text (max / 2)
  tail := lastBytes (dropBytes text (max / 2)) (max / 2)
  omitted := utf8Len (dropBytes text (max / 2)) -
    utf8Len (lastBytes (dropBytes text (max / 2)) (max / 2))

theorem keeping_nil (max : ℕ) : keeping max [] = new max := rfl

theorem pushHead_of_tail_ne_nil {clip : Clip} (text : List Char) (h : clip.tail ≠ []) :
    clip.pushHead text = (clip, text) := if_neg h

theorem pushHead_of_tail_eq_nil {clip : Clip} (text : List Char) (h : clip.tail = []) :
    clip.pushHead text =
      ({ clip with head := clip.head ++ takeBytes text (clip.max / 2 - utf8Len clip.head) },
        dropBytes text (clip.max / 2 - utf8Len clip.head)) := by
  rw [pushHead, if_pos h]
  simp only [takeBytes_floorBoundary, dropBytes_floorBoundary]

/-- The tail is the end of all that came after the head, and the rest of it is counted,
whichever way the source takes. -/
theorem pushTail_eq (clip : Clip) (text : List Char) :
    clip.pushTail text =
      { clip with
        tail := lastBytes (clip.tail ++ text) (clip.max / 2)
        omitted := clip.omitted + (utf8Len (clip.tail ++ text) -
          utf8Len (lastBytes (clip.tail ++ text) (clip.max / 2))) } := by
  simp only [pushTail, ceilBoundary_eq, dropBytes_sub_lastBytes]
  split
  next hlong =>
    have hle := utf8Len_le_of_sublist (lastBytes_suffix text (clip.max / 2)).sublist
    have homitted : utf8Len clip.tail + (utf8Len text - utf8Len (lastBytes text (clip.max / 2))) =
        utf8Len clip.tail + utf8Len text - utf8Len (lastBytes text (clip.max / 2)) := by omega
    rw [lastBytes_append_of_ge clip.tail hlong, utf8Len_append, homitted]
  next hshort =>
    split
    · rfl
    next hfits =>
      rw [lastBytes_of_le (Nat.le_of_not_lt hfits), Nat.sub_self, Nat.add_zero]

theorem keeping_tail_eq_nil_iff {max : ℕ} (hmax : 8 ≤ max) (text : List Char) :
    (keeping max text).tail = [] ↔ dropBytes text (max / 2) = [] := by
  constructor
  · intro htail
    by_contra hne
    exact lastBytes_ne_nil hne (by omega) htail
  · intro hdrop
    simp only [keeping, hdrop]
    rfl

/-- A text that is pushed onto what is kept of another is kept as the one after the
other. -/
theorem push_keeping {max : ℕ} (hmax : 8 ≤ max) (text more : List Char) :
    (keeping max text).push more = keeping max (text ++ more) := by
  rw [push]
  by_cases htail : (keeping max text).tail = []
  · have hdrop := (keeping_tail_eq_nil_iff hmax text).mp htail
    have hall : takeBytes text (max / 2) = text := by
      have hsplit := takeBytes_append_dropBytes text (max / 2)
      rwa [hdrop, List.append_nil] at hsplit
    have hfits : utf8Len text ≤ max / 2 := by
      rw [← hall]
      exact utf8Len_takeBytes_le text (max / 2)
    rw [pushHead_of_tail_eq_nil more htail]
    simp only [pushTail_eq]
    simp only [keeping, hdrop, hall, takeBytes_append_of_le more hfits,
      dropBytes_append_of_le more hfits]
    simp [lastBytes, takeBytes, utf8Len]
  · have hdrop : dropBytes text (max / 2) ≠ [] :=
      fun h => htail ((keeping_tail_eq_nil_iff hmax text).mpr h)
    obtain ⟨htake, hrest⟩ := takeBytes_append_of_dropBytes more hdrop
    rw [pushHead_of_tail_ne_nil more htail]
    simp only [pushTail_eq]
    simp only [keeping, htake, hrest, lastBytes_lastBytes_append, utf8Len_append]
    have hkept := utf8Len_le_of_sublist
      (lastBytes_suffix (dropBytes text (max / 2)) (max / 2)).sublist
    have hlast := utf8Len_le_of_sublist
      (lastBytes_suffix (lastBytes (dropBytes text (max / 2)) (max / 2) ++ more)
        (max / 2)).sublist
    rw [lastBytes_lastBytes_append, utf8Len_append] at hlast
    congr 1
    omega

theorem ofText_eq_keeping {max : ℕ} (hmax : 8 ≤ max) (text : List Char) :
    ofText max text = keeping max text := by
  rw [ofText, ← keeping_nil, push_keeping hmax, List.nil_append]

theorem foldl_push_keeping {max : ℕ} (hmax : 8 ≤ max) (text : List Char)
    (chunks : List (List Char)) :
    chunks.foldl push (keeping max text) = keeping max (text ++ chunks.flatten) := by
  induction chunks generalizing text with
  | nil => rw [List.foldl_nil, List.flatten_nil, List.append_nil]
  | cons chunk chunks ih =>
      rw [List.foldl_cons, push_keeping hmax, ih, List.flatten_cons, List.append_assoc]

theorem omitted_keeping_eq_zero_iff (max : ℕ) (text : List Char) :
    (keeping max text).omitted = 0 ↔ utf8Len (dropBytes text (max / 2)) ≤ max / 2 := by
  have hlast := utf8Len_lastBytes_le (dropBytes text (max / 2)) (max / 2)
  simp only [keeping]
  constructor
  · intro hzero
    omega
  · intro hfits
    rw [lastBytes_of_le hfits, Nat.sub_self]

theorem utf8Len_keeping (max : ℕ) (text : List Char) :
    utf8Len (keeping max text).head + (keeping max text).omitted +
      utf8Len (keeping max text).tail = utf8Len text := by
  have htext : utf8Len (takeBytes text (max / 2)) + utf8Len (dropBytes text (max / 2)) =
      utf8Len text := by rw [← utf8Len_append, takeBytes_append_dropBytes]
  have htail := utf8Len_le_of_sublist
    (lastBytes_suffix (dropBytes text (max / 2)) (max / 2)).sublist
  simp only [keeping]
  omega

theorem len_keeping_le (max : ℕ) (text : List Char) : (keeping max text).len ≤ max := by
  have hhead := utf8Len_takeBytes_le text (max / 2)
  have htail := utf8Len_lastBytes_le (dropBytes text (max / 2)) (max / 2)
  simp only [keeping, len]
  omega

/-- However a text is chunked, the clip has the longest beginning of it that fits in half
of the budget, the longest end of the rest that fits in the other half, and the number of
bytes that are in neither. -/
theorem foldl_push_new {max : ℕ} (hmax : 8 ≤ max) (chunks : List (List Char)) :
    chunks.foldl push (new max) = (new max).push chunks.flatten ∧
      ∃ rest, (chunks.foldl push (new max)).head ++ rest = chunks.flatten ∧
        IsLongestPrefix (chunks.foldl push (new max)).head chunks.flatten (max / 2) ∧
        IsLongestSuffix (chunks.foldl push (new max)).tail rest (max / 2) ∧
        utf8Len (chunks.foldl push (new max)).head + (chunks.foldl push (new max)).omitted +
          utf8Len (chunks.foldl push (new max)).tail = utf8Len chunks.flatten ∧
        utf8Len ((chunks.foldl push (new max)).head ++ (chunks.foldl push (new max)).tail) ≤
          max ∧
        ((chunks.foldl push (new max)).omitted = 0 ↔ utf8Len rest ≤ max / 2) := by
  have hchunks : chunks.foldl push (new max) = keeping max chunks.flatten := by
    rw [← keeping_nil, foldl_push_keeping hmax, List.nil_append]
  have hwhole : (new max).push chunks.flatten = keeping max chunks.flatten := by
    rw [← keeping_nil, push_keeping hmax, List.nil_append]
  rw [hchunks, hwhole, utf8Len_append]
  exact ⟨rfl, dropBytes chunks.flatten (max / 2), takeBytes_append_dropBytes _ _,
    isLongestPrefix_takeBytes _ _, isLongestSuffix_lastBytes _ _, utf8Len_keeping _ _,
    len_keeping_le _ _, omitted_keeping_eq_zero_iff _ _⟩

/-- A budget of eight bytes, and a text in three pieces, one of them in the middle of what
is left out. -/
theorem foldl_push_new_eight :
    [['a', 'b', 'é'], ['c', 'd', '€'], ['x', 'y']].foldl push (new 8) =
        (new 8).push ['a', 'b', 'é', 'c', 'd', '€', 'x', 'y'] ∧
      ([['a', 'b', 'é'], ['c', 'd', '€'], ['x', 'y']].foldl push (new 8)).omitted = 5 :=
  ⟨(foldl_push_new (Nat.le_refl 8) [['a', 'b', 'é'], ['c', 'd', '€'], ['x', 'y']]).1, by decide⟩

end Clip

end Kallichore
