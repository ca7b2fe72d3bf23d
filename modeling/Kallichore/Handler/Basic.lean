import Kallichore.ExecutionHistory.Clip

/-!
# The text an agent is shown

What a kernel wrote is prepared for an agent in two steps: terminal escape sequences are
removed, and what is left is cut to a budget that all texts of one answer share. Once a text
was cut the budget is used up, so all that is kept is the beginning of all there was.

Texts are lists of characters; the budget is in bytes.
-/

namespace Kallichore

namespace Handler

open Utf8

def maxTextBytes : ℕ := 32 * 1024

/-! ## Escape sequences -/

/-- `[lo-hi]` of a regular expression. -/
def inRange (lo hi : Char) (c : Char) : Bool := lo ≤ c && c ≤ hi

/-- The length of a control sequence after its `ESC [`, if there is one: parameters,
intermediate characters and a final one. The three ranges are disjoint, so each of them is
read to its end. -/
def csiLength (text : List Char) : Option ℕ :=
  let parameters := text.takeWhile (inRange '0' '?')
  let intermediates := (text.drop parameters.length).takeWhile (inRange ' ' '/')
  match text.drop (parameters.length + intermediates.length) with
  | c :: _ =>
      if inRange '@' '~' c then some (parameters.length + intermediates.length + 1) else none
  | [] => none

/-- The length of an operating system command after its `ESC ]`, if there is one: anything
up to a bell or an `ESC \`. -/
def oscLength (text : List Char) : Option ℕ :=
  let body := text.takeWhile fun c => c ≠ '\x07' ∧ c ≠ '\x1b'
  match text.drop body.length with
  | '\x07' :: _ => some (body.length + 1)
  | '\x1b' :: '\\' :: _ => some (body.length + 2)
  | _ => none

/-- The length of the escape sequence that a text begins with, after its first character. -/
def escapeLength : List Char → Option ℕ
  | '\x1b' :: '[' :: text => (csiLength text).map (· + 1)
  | '\x1b' :: ']' :: text => (oscLength text).map (· + 1)
  | _ => none

/-- Remove the escape sequences, after passing over what is left of one. -/
def stripFrom : ℕ → List Char → List Char
  | _, [] => []
  | skip + 1, _ :: text => stripFrom skip text
  | 0, c :: text =>
      match escapeLength (c :: text) with
      | some length => stripFrom length text
      | none => c :: stripFrom 0 text

/-- Remove terminal escape sequences from text. -/
def stripAnsi (text : List Char) : List Char := stripFrom 0 text

example : stripAnsi "\x1b[31mred\x1b[0m\n".toList = "red\n".toList := by decide

/-! ## The budget -/

/-- Where a text that is longer than the budget is cut. -/
def cutEnd (text : List Char) (budget : ℕ) : ℕ := floorFrom text budget

/-- Trim `text` to what is left of the budget, reporting whether it was cut. -/
def takeBudget (text : List Char) (budget : ℕ) : (List Char × Bool) × ℕ :=
  if utf8Len text ≤ budget then ((text, false), budget - utf8Len text)
  else ((takeBytes text (cutEnd text budget), true), 0)

/-- The variables that the closure `take` writes: what is left of the budget, and whether
anything was cut. -/
structure Budget where
  left : ℕ
  truncated : Bool
  deriving DecidableEq, Repr

namespace Budget

def new (left : ℕ) : Budget where
  left := left
  truncated := false

/-- The closure `take`. -/
def take (budget : Budget) (text : List Char) : List Char × Budget :=
  let taken := takeBudget (stripAnsi text) budget.left
  (taken.1.1, { left := taken.2, truncated := budget.truncated || taken.1.2 })

/-- `take` each of some texts in turn. -/
def takeEach (budget : Budget) : List (List Char) → List (List Char) × Budget
  | [] => ([], budget)
  | text :: texts =>
      let taken := budget.take text
      let rest := taken.2.takeEach texts
      (taken.1 :: rest.1, rest.2)

/-- What is left when texts, already stripped, have been taken. -/
def spend (budget : Budget) (texts : List (List Char)) : Budget where
  left := budget.left - utf8Len texts.flatten
  truncated := budget.truncated || decide (budget.left < utf8Len texts.flatten)

end Budget

theorem isCharBoundary_cutEnd (text : List Char) (budget : ℕ) :
    isCharBoundary text (cutEnd text budget) = true := isCharBoundary_floorFrom text budget

theorem takeBudget_eq (text : List Char) (budget : ℕ) :
    takeBudget text budget =
      ((takeBytes text budget, decide (budget < utf8Len text)), budget - utf8Len text) := by
  rw [takeBudget]
  split
  next hfits => rw [takeBytes_of_le hfits, decide_eq_false (Nat.not_lt.mpr hfits)]
  next hlong =>
    have hlt := Nat.not_le.mp hlong
    have hend : cutEnd text budget = floorBoundary text budget := by
      rw [floorBoundary, Nat.min_eq_left (Nat.le_of_lt hlt), cutEnd]
    rw [hend, takeBytes_floorBoundary, decide_eq_true hlt, Nat.sub_eq_zero_of_le (Nat.le_of_lt hlt)]

namespace Budget

theorem spend_nil (budget : Budget) : budget.spend [] = budget := by
  simp [spend, utf8Len]

theorem left_spend (budget : Budget) (texts : List (List Char)) :
    (budget.spend texts).left = budget.left - utf8Len texts.flatten := rfl

theorem truncated_spend_iff (budget : Budget) (texts : List (List Char)) :
    (budget.spend texts).truncated = true ↔
      budget.truncated = true ∨ budget.left < utf8Len texts.flatten := by
  rw [spend, Bool.or_eq_true, decide_eq_true_eq]

theorem spend_append (budget : Budget) (texts more : List (List Char)) :
    (budget.spend texts).spend more = budget.spend (texts ++ more) := by
  have hleft : ((budget.spend texts).spend more).left = (budget.spend (texts ++ more)).left := by
    rw [left_spend, left_spend, left_spend, List.flatten_append, utf8Len_append, Nat.sub_sub]
  have htruncated : ((budget.spend texts).spend more).truncated =
      (budget.spend (texts ++ more)).truncated := by
    have hlt : (budget.left < utf8Len texts.flatten ∨
          budget.left - utf8Len texts.flatten < utf8Len more.flatten) ↔
        budget.left < utf8Len texts.flatten + utf8Len more.flatten := by omega
    rw [Bool.eq_iff_iff, truncated_spend_iff, truncated_spend_iff, truncated_spend_iff, left_spend,
      List.flatten_append, utf8Len_append, or_assoc, hlt]
  calc (budget.spend texts).spend more
      = ⟨((budget.spend texts).spend more).left, ((budget.spend texts).spend more).truncated⟩ := rfl
    _ = budget.spend (texts ++ more) := by rw [hleft, htruncated]

theorem take_eq (budget : Budget) (text : List Char) :
    budget.take text = (takeBytes (stripAnsi text) budget.left, budget.spend [stripAnsi text]) := by
  simp only [take, takeBudget_eq, spend, List.flatten_cons, List.flatten_nil, List.append_nil]

theorem takeEach_eq (budget : Budget) (texts : List (List Char)) :
    budget.takeEach texts =
      (cutTo budget.left (texts.map stripAnsi), budget.spend (texts.map stripAnsi)) := by
  induction texts generalizing budget with
  | nil => rw [takeEach, List.map_nil, spend_nil, cutTo]
  | cons text texts ih =>
      rw [takeEach, take_eq, ih, List.map_cons, spend_append]
      simp only [spend, cutTo, List.flatten_cons, List.flatten_nil, List.append_nil,
        List.singleton_append]

theorem left_take (budget : Budget) (text : List Char) :
    (budget.take text).2.left = budget.left - utf8Len (stripAnsi text) := by
  rw [take_eq, left_spend, List.flatten_singleton]

theorem take_of_fits {budget : Budget} {text : List Char}
    (h : utf8Len (stripAnsi text) ≤ budget.left) : (budget.take text).1 = stripAnsi text := by
  rw [take_eq, takeBytes_of_le h]

theorem takeEach_of_fits {budget : Budget} {texts : List (List Char)}
    (h : utf8Len (texts.map stripAnsi).flatten ≤ budget.left) :
    (budget.takeEach texts).1 = texts.map stripAnsi := by
  rw [takeEach_eq, cutTo_eq_self h]

end Budget

end Handler

end Kallichore
