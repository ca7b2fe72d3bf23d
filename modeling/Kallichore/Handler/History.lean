import Kallichore.Handler.Reply
import Mathlib.Data.List.Forall2

/-!
# What an agent is shown of the history

The entries of a history share one budget, which is spent from the newest to the oldest. Once
it is used up the older entries are dropped, so at most one entry is cut, the oldest that is
shown. Names of errors are shown as they are and not counted.
-/

namespace Kallichore

namespace Handler

open Utf8

/-- An error with its texts taken from the budget, its name as it is. -/
def renderError (budget : Budget) (error : ExecutionError) : ExecutionError × Budget :=
  let message := budget.take error.message
  let traceback := message.2.takeEach error.traceback
  ({ error with
      message := message.1
      traceback := traceback.1.filter fun line => line ≠ [] }, traceback.2)

/-- One round of the loop: an entry with its texts taken from the budget. -/
def renderEntry (budget : Budget) (entry : ExecutionHistoryEntry) :
    ExecutionHistoryEntry × Budget :=
  let input := budget.take entry.input
  let error : Option ExecutionError × Budget :=
    match entry.error with
    | none => (none, input.2)
    | some error => (some (renderError input.2 error).1, (renderError input.2 error).2)
  let output := error.2.take entry.output
  ({ entry with input := input.1, error := error.1, output := output.1 }, output.2)

/-- The loop, over entries that come newest first. -/
def renderNewest (budget : Budget) :
    List ExecutionHistoryEntry → List ExecutionHistoryEntry × Budget
  | [] => ([], budget)
  | entry :: older =>
      if budget.left = 0 then ([], { budget with truncated := true })
      else
        let newest := renderEntry budget entry
        let rest := renderNewest newest.2 older
        (newest.1 :: rest.1, rest.2)

/-- Prepare history entries for an agent. -/
def renderHistory (entries : List ExecutionHistoryEntry) (budget : ℕ) :
    List ExecutionHistoryEntry × Bool :=
  let rendered := renderNewest (Budget.new budget) entries.reverse
  (rendered.1.reverse, rendered.2.truncated)

/-! ## One entry -/

def errorTexts (error : ExecutionError) : List (List Char) := error.message :: error.traceback

/-- The texts of an entry, in the order in which the budget is spent on them. -/
def entryTexts (entry : ExecutionHistoryEntry) : List (List Char) :=
  [entry.input] ++ (entry.error.map errorTexts).getD [] ++ [entry.output]

def entriesBytes (entries : List ExecutionHistoryEntry) : ℕ :=
  (entries.map fun entry => utf8Len (entryTexts entry).flatten).sum

/-- An error with all of its text, stripped. -/
def fullError (error : ExecutionError) : ExecutionError :=
  { error with
    message := stripAnsi error.message
    traceback := (error.traceback.map stripAnsi).filter fun line => line ≠ [] }

/-- An entry with all of its text, stripped. -/
def fullEntry (entry : ExecutionHistoryEntry) : ExecutionHistoryEntry :=
  { entry with
    input := stripAnsi entry.input
    error := entry.error.map fullError
    output := stripAnsi entry.output }

/-- An error is shown with the beginnings of its texts, and empty lines are left out. -/
structure ShowsError (shown error : ExecutionError) : Prop where
  name : shown.name = error.name
  message : shown.message <+: stripAnsi error.message
  traceback : ∃ kept, List.Forall₂ (· <+: ·) kept (error.traceback.map stripAnsi) ∧
    shown.traceback = kept.filter fun line => line ≠ []

/-- An entry is shown with the beginnings of its texts, and otherwise as it is. -/
structure Shows (shown entry : ExecutionHistoryEntry) : Prop where
  input : shown.input <+: stripAnsi entry.input
  output : shown.output <+: stripAnsi entry.output
  error : Option.Rel ShowsError shown.error entry.error
  rest : { entry with input := shown.input, output := shown.output, error := shown.error } = shown

theorem takes_renderError (budget : Budget) (error : ExecutionError) :
    Takes budget (errorTexts error) (errorTexts (renderError budget error).1)
      (renderError budget error).2 :=
  (Takes.take budget error.message).append (Takes.takeEach_filter _ error.traceback)

theorem takes_renderEntry (budget : Budget) (entry : ExecutionHistoryEntry) :
    Takes budget (entryTexts entry) (entryTexts (renderEntry budget entry).1)
      (renderEntry budget entry).2 := by
  have hinput := Takes.take budget entry.input
  rw [renderEntry, entryTexts, entryTexts]
  cases entry.error with
  | none => exact (hinput.append (Takes.nil _)).append (Takes.take _ entry.output)
  | some error =>
      exact (hinput.append (takes_renderError _ error)).append (Takes.take _ entry.output)

theorem showsError_renderError (budget : Budget) (error : ExecutionError) :
    ShowsError (renderError budget error).1 error where
  name := rfl
  message := by
    simp only [renderError, Budget.take_eq]
    exact takeBytes_isPrefix _ _
  traceback := by
    simp only [renderError, Budget.takeEach_eq]
    exact ⟨_, forall₂_cutTo _ _, rfl⟩

theorem shows_renderEntry (budget : Budget) (entry : ExecutionHistoryEntry) :
    Shows (renderEntry budget entry).1 entry where
  input := by
    simp only [renderEntry, Budget.take_eq]
    exact takeBytes_isPrefix _ _
  output := by
    simp only [renderEntry, Budget.take_eq]
    exact takeBytes_isPrefix _ _
  error := by
    simp only [renderEntry]
    cases entry.error with
    | none => exact .none
    | some error => exact .some (showsError_renderError _ error)
  rest := rfl

/-- The bytes of what is shown of an entry, and what is left of the budget. -/
theorem bytes_renderEntry (budget : Budget) (entry : ExecutionHistoryEntry) :
    (entryTexts (renderEntry budget entry).1).flatten =
      takeBytes ((entryTexts entry).map stripAnsi).flatten budget.left := by
  have hkept := congrArg List.flatten (takes_renderEntry budget entry).kept
  rwa [List.flatten_filter_ne_nil, List.flatten_filter_ne_nil, flatten_cutTo] at hkept

theorem flatten_entryTexts_fullEntry (entry : ExecutionHistoryEntry) :
    (entryTexts (fullEntry entry)).flatten = ((entryTexts entry).map stripAnsi).flatten := by
  rw [entryTexts, entryTexts, fullEntry]
  cases entry.error with
  | none => rfl
  | some error =>
      have htraceback : ((error.traceback.map stripAnsi).filter fun line => line ≠ []).flatten =
          (error.traceback.map stripAnsi).flatten := List.flatten_filter_ne_nil
      simp only [Option.map_some, Option.getD_some, errorTexts, fullError, List.map_append,
        List.map_cons, List.map_nil, List.flatten_append, List.flatten_cons, List.flatten_nil,
        htraceback]

theorem utf8Len_errorTexts (error : ExecutionError) :
    utf8Len ((errorTexts error).map stripAnsi).flatten = utf8Len (stripAnsi error.message) +
      utf8Len (error.traceback.map stripAnsi).flatten := by
  rw [errorTexts, List.map_cons, List.flatten_cons, utf8Len_append]

theorem utf8Len_entryTexts (entry : ExecutionHistoryEntry) :
    utf8Len ((entryTexts entry).map stripAnsi).flatten = utf8Len (stripAnsi entry.input) +
      utf8Len (((entry.error.map errorTexts).getD []).map stripAnsi).flatten +
      utf8Len (stripAnsi entry.output) := by
  simp only [entryTexts, List.map_append, List.map_cons, List.map_nil, List.flatten_append,
    List.flatten_singleton, utf8Len_append]

theorem renderError_of_fits {budget : Budget} {error : ExecutionError}
    (h : utf8Len ((errorTexts error).map stripAnsi).flatten ≤ budget.left) :
    (renderError budget error).1 = fullError error := by
  rw [utf8Len_errorTexts] at h
  have hmessage := Budget.take_of_fits
    (show utf8Len (stripAnsi error.message) ≤ budget.left by omega)
  have htraceback := @Budget.takeEach_of_fits (budget.take error.message).2 error.traceback
    (by rw [Budget.left_take]; omega)
  simp only [renderError, hmessage, htraceback, fullError]

theorem renderEntry_of_fits {budget : Budget} {entry : ExecutionHistoryEntry}
    (h : utf8Len ((entryTexts entry).map stripAnsi).flatten ≤ budget.left) :
    (renderEntry budget entry).1 = fullEntry entry := by
  rw [utf8Len_entryTexts] at h
  have hinput := Budget.take_of_fits (show utf8Len (stripAnsi entry.input) ≤ budget.left by omega)
  rw [renderEntry, fullEntry]
  cases herror : entry.error with
  | none =>
      have houtput := @Budget.take_of_fits (budget.take entry.input).2 entry.output
        (by rw [Budget.left_take]; omega)
      simp only [hinput, houtput, Option.map_none]
  | some error =>
      rw [herror, Option.map_some, Option.getD_some] at h
      have hshown := @renderError_of_fits (budget.take entry.input).2 error
        (by rw [Budget.left_take]; omega)
      have hleft : (renderError (budget.take entry.input).2 error).2.left =
          budget.left - utf8Len (stripAnsi entry.input) -
            utf8Len ((errorTexts error).map stripAnsi).flatten := by
        rw [(takes_renderError _ error).after, Budget.left_spend, Budget.left_take]
      have houtput := @Budget.take_of_fits (renderError (budget.take entry.input).2 error).2
        entry.output (by rw [hleft]; omega)
      simp only [hinput, hshown, houtput, Option.map_some]

theorem renderEntry_eq_fullEntry_iff (budget : Budget) (entry : ExecutionHistoryEntry) :
    (renderEntry budget entry).1 = fullEntry entry ↔
      utf8Len ((entryTexts entry).map stripAnsi).flatten ≤ budget.left := by
  refine ⟨fun h => ?_, renderEntry_of_fits⟩
  have hbytes := bytes_renderEntry budget entry
  rw [h, flatten_entryTexts_fullEntry] at hbytes
  exact takeBytes_eq_self_iff.mp hbytes.symm

/-! ## All entries -/

/-- What is shown of entries that come newest first. -/
structure ShownNewest (budget : Budget) (entries shown : List ExecutionHistoryEntry)
    (after : Budget) (kept dropped : List ExecutionHistoryEntry) : Prop where
  split : entries = kept ++ dropped
  shows : List.Forall₂ Shows shown kept
  bytes : entriesBytes shown ≤ budget.left
  full : shown.dropLast = (kept.map fullEntry).dropLast
  spent : dropped ≠ [] → budget.left ≤ entriesBytes (kept.map fullEntry)
  truncated : after.truncated = true ↔
    budget.truncated = true ∨ dropped ≠ [] ∨ shown ≠ kept.map fullEntry

theorem renderNewest_of_left_eq_zero {budget : Budget} (h : budget.left = 0)
    (entries : List ExecutionHistoryEntry) : (renderNewest budget entries).1 = [] := by
  cases entries with
  | nil => rfl
  | cons entry older => rw [renderNewest, if_pos h]

theorem entriesBytes_cons (entry : ExecutionHistoryEntry) (entries : List ExecutionHistoryEntry) :
    entriesBytes (entry :: entries) = utf8Len (entryTexts entry).flatten + entriesBytes entries :=
  rfl

theorem left_renderEntry (budget : Budget) (entry : ExecutionHistoryEntry) :
    (renderEntry budget entry).2.left =
      budget.left - utf8Len ((entryTexts entry).map stripAnsi).flatten := by
  rw [(takes_renderEntry budget entry).after, Budget.left_spend]

/-- The bytes that are shown of an entry, and those left for the older ones. -/
theorem bytes_add_left_le (budget : Budget) (entry : ExecutionHistoryEntry) :
    utf8Len (entryTexts (renderEntry budget entry).1).flatten +
      (renderEntry budget entry).2.left ≤ budget.left := by
  rw [bytes_renderEntry, left_renderEntry]
  have hle := utf8Len_takeBytes_le ((entryTexts entry).map stripAnsi).flatten budget.left
  rcases Nat.le_total (utf8Len ((entryTexts entry).map stripAnsi).flatten) budget.left with
    hfits | hlong
  · rw [takeBytes_of_le hfits]
    omega
  · omega

/-- One entry before others: if any of the others is shown, it is shown in full. -/
theorem ShownNewest.cons {budget after : Budget} {entry : ExecutionHistoryEntry}
    {older shown kept dropped : List ExecutionHistoryEntry}
    (hrest : ShownNewest (renderEntry budget entry).2 older shown after kept dropped)
    (hshown : shown ≠ [] → (renderEntry budget entry).2.left ≠ 0) :
    ShownNewest budget (entry :: older) ((renderEntry budget entry).1 :: shown) after
      (entry :: kept) dropped where
  split := by rw [hrest.split, List.cons_append]
  shows := .cons (shows_renderEntry budget entry) hrest.shows
  bytes := by
    have hentry := bytes_add_left_le budget entry
    have hbytes := hrest.bytes
    rw [entriesBytes_cons]
    omega
  full := by
    have hfull := hrest.full
    have hlength := hrest.shows.length_eq
    cases hs : shown with
    | nil =>
        rw [hs, List.length_nil, eq_comm, List.length_eq_zero_iff] at hlength
        rw [hlength]
        rfl
    | cons next shown' =>
        have hleft := hshown (by rw [hs]; exact List.cons_ne_nil _ _)
        rw [left_renderEntry] at hleft
        rw [hs] at hfull hlength
        cases kept with
        | nil => cases hlength
        | cons entry' kept =>
            rw [List.map_cons, List.map_cons, List.dropLast_cons_cons, List.dropLast_cons_cons,
              renderEntry_of_fits (by omega), hfull, List.map_cons]
  spent := by
    intro hdropped
    have hrest := hrest.spent hdropped
    rw [left_renderEntry] at hrest
    rw [List.map_cons, entriesBytes_cons, flatten_entryTexts_fullEntry]
    omega
  truncated := by
    have hentry : (renderEntry budget entry).2.truncated = true ↔
        budget.truncated = true ∨ (renderEntry budget entry).1 ≠ fullEntry entry := by
      rw [(takes_renderEntry budget entry).after, Budget.truncated_spend_iff, ne_eq,
        renderEntry_eq_fullEntry_iff, Nat.not_le]
    have hne : (renderEntry budget entry).1 :: shown ≠ (entry :: kept).map fullEntry ↔
        (renderEntry budget entry).1 ≠ fullEntry entry ∨ shown ≠ kept.map fullEntry := by
      rw [List.map_cons, ne_eq, List.cons.injEq, not_and_or]
    rw [hrest.truncated, hentry, hne, or_assoc]
    exact or_congr_right or_left_comm

theorem exists_shownNewest (budget : Budget) (entries : List ExecutionHistoryEntry) :
    ∃ kept dropped, ShownNewest budget entries (renderNewest budget entries).1
      (renderNewest budget entries).2 kept dropped := by
  induction entries generalizing budget with
  | nil =>
      refine ⟨[], [], rfl, .nil, Nat.zero_le _, rfl, fun h => absurd rfl h, ?_⟩
      simp [renderNewest]
  | cons entry older ih =>
      rw [renderNewest]
      split
      next hzero =>
        -- the budget is used up
        refine ⟨[], entry :: older, rfl, .nil, Nat.zero_le _, rfl, fun _ => hzero.le, ?_⟩
        simp
      next hleft =>
        obtain ⟨kept, dropped, hrest⟩ := ih (renderEntry budget entry).2
        refine ⟨entry :: kept, dropped, hrest.cons fun hne hzero => hne ?_⟩
        exact renderNewest_of_left_eq_zero hzero older

/-- The history is shown from its end: the entries before some entry are dropped, all after
it are shown in full, and it may be cut; all within the budget, and none is dropped unless the
texts of those after it use the budget up. The answer tells whether an entry was dropped or
cut. -/
theorem renderHistory_shows (entries : List ExecutionHistoryEntry) (budget : ℕ) :
    ∃ dropped kept, entries = dropped ++ kept ∧
      List.Forall₂ Shows (renderHistory entries budget).1 kept ∧
      entriesBytes (renderHistory entries budget).1 ≤ budget ∧
      (renderHistory entries budget).1.tail = (kept.map fullEntry).tail ∧
      (dropped ≠ [] → budget ≤ entriesBytes (kept.map fullEntry)) ∧
      ((renderHistory entries budget).2 = true ↔
        dropped ≠ [] ∨ (renderHistory entries budget).1 ≠ kept.map fullEntry) := by
  obtain ⟨kept, dropped, h⟩ := exists_shownNewest (Budget.new budget) entries.reverse
  refine ⟨dropped.reverse, kept.reverse, ?_, ?_, ?_, ?_, ?_, ?_⟩
  · rw [← List.reverse_append, ← h.split, List.reverse_reverse]
  · exact List.rel_reverse h.shows
  · rw [renderHistory, entriesBytes, List.map_reverse, List.sum_reverse]
    exact h.bytes
  · rw [renderHistory, List.tail_reverse, h.full, List.map_reverse, List.tail_reverse]
  · intro hdropped
    rw [List.map_reverse, entriesBytes, List.map_reverse, List.sum_reverse]
    exact h.spent fun hnil => hdropped (by rw [hnil, List.reverse_nil])
  · simp only [renderHistory, h.truncated, List.map_reverse, ne_eq, List.reverse_inj,
      List.reverse_eq_nil_iff]
    exact or_iff_right Bool.false_ne_true

end Handler

end Kallichore
