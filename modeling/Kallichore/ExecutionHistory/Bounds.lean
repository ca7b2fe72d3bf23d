import Kallichore.ExecutionHistory.Log
import Mathlib.Algebra.Order.BigOperators.Group.List
import Mathlib.Algebra.Order.Ring.Nat

/-!
# How much a history holds

The code and the output of an execution are held as clips, within their budgets. An error
is held as the text it is shown as. Its name and its message are counted against the budget
by what is kept of them, but a text that is cut is shown with a note of what was left out,
and the note is not counted. So the error stays within its budget unless the end of the
traceback leaves no room for the notes.
-/

namespace Kallichore

open Utf8

/-! ## Texts -/

/-- The bytes of a text that a clip keeps. -/
def keptBytes (max : ℕ) (text : List Char) : ℕ :=
  utf8Len (takeBytes text (max / 2)) +
    utf8Len (lastBytes (dropBytes text (max / 2)) (max / 2))

def noteBytes (max : ℕ) (text : List Char) : ℕ :=
  if utf8Len text ≤ keptBytes max text then 0
  else 26 + utf8Len (toString (utf8Len text - keptBytes max text)).toList

namespace Clip

theorem len_ofText {max : ℕ} (hmax : 8 ≤ max) (text : List Char) :
    (ofText max text).len = keptBytes max text := by
  rw [ofText_eq_keeping hmax]
  rfl

theorem utf8Len_toText (clip : Clip) :
    utf8Len clip.toText = clip.len +
      if clip.truncated then 26 + utf8Len (toString clip.omitted).toList else 0 := by
  rw [toText, len, utf8Len_append, utf8Len_append]
  split
  · have hnote : utf8Len s!"\n[... {clip.omitted} bytes omitted ...]\n".toList =
        26 + utf8Len (toString clip.omitted).toList := by
      have hbefore : utf8Len (toString "\n[... ").toList = 6 := by decide
      have hafter : utf8Len (toString " bytes omitted ...]\n").toList = 20 := by decide
      simp only [String.toList_append, utf8Len_append, hbefore, hafter]
      omega
    omega
  · rw [utf8Len]
    omega

theorem utf8Len_toText_ofText {max : ℕ} (hmax : 8 ≤ max) (text : List Char) :
    utf8Len (ofText max text).toText = keptBytes max text + noteBytes max text := by
  have homitted : (ofText max text).omitted = utf8Len text - keptBytes max text := by
    have hsum := utf8Len_keeping max text
    rw [ofText_eq_keeping hmax, keptBytes]
    simp only [keeping] at hsum ⊢
    omega
  rw [utf8Len_toText, len_ofText hmax, truncated, homitted, noteBytes]
  simp only [decide_eq_true_eq]
  split
  · rw [if_neg (by omega)]
  · rw [if_pos (by omega)]

end Clip

theorem keptBytes_le (max : ℕ) (text : List Char) : keptBytes max text ≤ max :=
  Clip.len_keeping_le max text

/-! ## One error -/

/-- An end of the traceback that fits beside what is kept of the error's name and message
leaves room for the notes on them too. -/
def RoomForNotes (content : Value) : Prop :=
  ∀ lines, lines <:+ tracebackLines content →
    linesBytes lines + (keptBytes maxErrorNameBytes (textField content "ename") +
      keptBytes (maxErrorBytes / 2) (textField content "evalue")) ≤ maxErrorBytes →
    linesBytes lines + (keptBytes maxErrorNameBytes (textField content "ename") +
      keptBytes (maxErrorBytes / 2) (textField content "evalue")) +
      (noteBytes maxErrorNameBytes (textField content "ename") +
        noteBytes (maxErrorBytes / 2) (textField content "evalue")) ≤ maxErrorBytes

namespace ExecutionError

/-- The text of an error: name, message and traceback together. -/
def bytes (error : ExecutionError) : ℕ :=
  utf8Len error.name + utf8Len error.message + linesBytes error.traceback

end ExecutionError

namespace HistoryEntry

def errorBytes (entry : HistoryEntry) : ℕ := (entry.error.map ExecutionError.bytes).getD 0

/-- The text of an execution: code, output and error. -/
def bytes (entry : HistoryEntry) : ℕ := entry.input.len + entry.output.len + entry.errorBytes

theorem len_add_len_le (content : Value) :
    (Clip.ofText maxErrorNameBytes (textField content "ename")).len +
      (Clip.ofText (maxErrorBytes / 2) (textField content "evalue")).len ≤ maxErrorBytes := by
  have hname := keptBytes_le maxErrorNameBytes (textField content "ename")
  have hmessage := keptBytes_le (maxErrorBytes / 2) (textField content "evalue")
  rw [Clip.len_ofText (by decide), Clip.len_ofText (by decide)]
  rw [maxErrorNameBytes] at hname
  rw [maxErrorBytes] at hmessage
  rw [maxErrorNameBytes, maxErrorBytes]
  omega

theorem errorBytes_setError (entry : HistoryEntry) (content : Value) :
    (entry.setError content).errorBytes =
      keptBytes maxErrorNameBytes (textField content "ename") +
        noteBytes maxErrorNameBytes (textField content "ename") +
      (keptBytes (maxErrorBytes / 2) (textField content "evalue") +
        noteBytes (maxErrorBytes / 2) (textField content "evalue")) +
      linesBytes (takeLines
        (maxErrorBytes - keptBytes maxErrorNameBytes (textField content "ename") -
          keptBytes (maxErrorBytes / 2) (textField content "evalue"))
        (tracebackLines content).reverse) := by
  have herror : (entry.setError content).errorBytes =
      utf8Len (Clip.ofText maxErrorNameBytes (textField content "ename")).toText +
      utf8Len (Clip.ofText (maxErrorBytes / 2) (textField content "evalue")).toText +
      linesBytes (takeLines
        (maxErrorBytes - (Clip.ofText maxErrorNameBytes (textField content "ename")).len -
          (Clip.ofText (maxErrorBytes / 2) (textField content "evalue")).len)
        (tracebackLines content).reverse).reverse := rfl
  rw [herror, linesBytes_reverse, Clip.utf8Len_toText_ofText (by decide),
    Clip.utf8Len_toText_ofText (by decide), Clip.len_ofText (by decide),
    Clip.len_ofText (by decide)]

theorem errorBytes_setError_le_iff (entry : HistoryEntry) (content : Value) :
    (entry.setError content).errorBytes ≤ maxErrorBytes ↔ RoomForNotes content := by
  have hkept := len_add_len_le content
  rw [Clip.len_ofText (by decide), Clip.len_ofText (by decide)] at hkept
  rw [errorBytes_setError, RoomForNotes]
  generalize keptBytes maxErrorNameBytes (textField content "ename") = name at *
  generalize keptBytes (maxErrorBytes / 2) (textField content "evalue") = message at *
  have htaken := linesBytes_takeLines_le (maxErrorBytes - name - message)
    (tracebackLines content).reverse
  constructor
  · intro hbytes lines hsuffix hfits
    have hlongest := @linesBytes_le_takeLines (maxErrorBytes - name - message) lines.reverse
      (tracebackLines content).reverse (List.reverse_prefix.mpr hsuffix)
      (by rw [linesBytes_reverse]; omega)
    rw [linesBytes_reverse] at hlongest
    omega
  · intro hroom
    have hnotes := hroom
      (takeLines (maxErrorBytes - name - message) (tracebackLines content).reverse).reverse
      (by
        rw [← List.reverse_prefix, List.reverse_reverse]
        exact takeLines_isPrefix _ _)
      (by rw [linesBytes_reverse]; omega)
    rw [linesBytes_reverse] at hnotes
    omega

/-- The message has an error that the execution takes: an `error` message, or a reply that
failed while there is no error yet. -/
def TakesError (entry : HistoryEntry) (message : JupyterMessage) : Prop :=
  isError message = true ∨ isFailingReply message = true ∧ entry.error = none

theorem recordMessage_cases (entry : HistoryEntry) (message : JupyterMessage) :
    (entry.TakesError message ∧ entry.recordMessage message = entry.setError message.content) ∨
      (¬ entry.TakesError message ∧ ∃ texts : List (List Char), entry.recordMessage message =
        { entry with output := texts.foldl Clip.push entry.output }) := by
  simp only [recordMessage, TakesError, isError, isFailingReply, decide_eq_true_eq]
  split
  next htype => exact .inr ⟨by simp [htype], [textField message.content "text"], rfl⟩
  next htype =>
    exact .inr ⟨by simp [htype], [displayText message.content, ['\n']], rfl⟩
  next htype =>
    exact .inr ⟨by simp [htype], [displayText message.content, ['\n']], rfl⟩
  next htype => exact .inl ⟨.inl htype, rfl⟩
  next htype =>
    split
    next hfirst => exact .inl ⟨.inr ⟨⟨htype, hfirst.1⟩, hfirst.2⟩, rfl⟩
    next hlater =>
      refine .inr ⟨?_, [], rfl⟩
      rintro (herror | ⟨⟨-, hstatus⟩, hnone⟩)
      · rw [htype] at herror
        revert herror
        decide
      · exact hlater ⟨hstatus, hnone⟩
  next hstream hresult hdisplay herror hreply =>
    refine .inr ⟨?_, [], rfl⟩
    rintro (h | h)
    · exact herror h
    · exact hreply h.1.1

/-- The error of an execution stays within its budget if and only if an error that is taken
has room for its notes. -/
theorem errorBytes_recordMessage_le_iff {entry : HistoryEntry}
    (h : entry.errorBytes ≤ maxErrorBytes) (message : JupyterMessage) :
    (entry.recordMessage message).errorBytes ≤ maxErrorBytes ↔
      (entry.TakesError message → RoomForNotes message.content) := by
  rcases entry.recordMessage_cases message with ⟨htakes, heq⟩ | ⟨hnot, texts, heq⟩
  · rw [heq, errorBytes_setError_le_iff]
    exact ⟨fun hroom _ => hroom, fun hroom => hroom htakes⟩
  · rw [heq]
    exact iff_of_true h fun htakes => absurd htakes hnot

/-- The code and the output are what clips of their budgets keep of some text. -/
structure Clipped (entry : HistoryEntry) : Prop where
  input : ∃ text, entry.input = Clip.keeping maxInputBytes text
  output : ∃ text, entry.output = Clip.keeping maxOutputBytes text

theorem clipped_recordMessage {entry : HistoryEntry} (h : entry.Clipped)
    (message : JupyterMessage) : (entry.recordMessage message).Clipped := by
  rcases entry.recordMessage_cases message with ⟨-, heq⟩ | ⟨-, texts, heq⟩
  · rw [heq]
    exact ⟨h.input, h.output⟩
  · obtain ⟨text, houtput⟩ := h.output
    rw [heq]
    refine ⟨h.input, text ++ texts.flatten, ?_⟩
    simp only [houtput]
    exact Clip.foldl_push_keeping (by decide) text texts

theorem bytes_le {entry : HistoryEntry} (h : entry.Clipped)
    (herror : entry.errorBytes ≤ maxErrorBytes) :
    entry.bytes ≤ maxInputBytes + maxOutputBytes + maxErrorBytes := by
  obtain ⟨⟨code, hinput⟩, ⟨text, houtput⟩⟩ := h
  have hin := Clip.len_keeping_le maxInputBytes code
  have hout := Clip.len_keeping_le maxOutputBytes text
  rw [bytes, hinput, houtput]
  omega

end HistoryEntry

/-! ## Runs -/

/-- The last element that satisfies the condition is the one that a search from the end
finds. -/
theorem updateLast_cases {α : Type*} (p : α → Bool) (f : α → α) (l : List α) :
    (l.reverse.find? p = none ∧ updateLast p f l = l) ∨
      ∃ before a after, l = before ++ a :: after ∧ l.reverse.find? p = some a ∧
        updateLast p f l = before ++ f a :: after := by
  induction l with
  | nil => exact .inl ⟨rfl, rfl⟩
  | cons b l ih =>
      rw [List.reverse_cons, List.find?_append]
      rcases ih with ⟨hfind, heq⟩ | ⟨before, a, after, hl, hfind, heq⟩
      · have hnone : l.any p = false := by simpa using hfind
        rw [hfind, Option.none_or, updateLast, hnone, if_neg Bool.false_ne_true]
        by_cases hb : p b = true
        · rw [if_pos hb, List.find?_cons_of_pos hb]
          exact .inr ⟨[], b, l, rfl, rfl, rfl⟩
        · rw [if_neg hb, List.find?_cons_of_neg hb, List.find?_nil]
          exact .inl ⟨rfl, rfl⟩
      · have hany : l.any p = true := by
          rw [List.any_eq_true]
          exact ⟨a, by rw [hl]; simp, List.find?_some hfind⟩
        rw [hfind, Option.some_or, updateLast, if_pos hany]
        exact .inr ⟨b :: before, a, after, by rw [hl]; rfl, rfl, by rw [heq]; rfl⟩

namespace ExecutionHistory

def bytes (history : ExecutionHistory) : ℕ := (history.entries.map HistoryEntry.bytes).sum

/-- The execution that a message is recorded for. -/
def entryOf (history : ExecutionHistory) (message : JupyterMessage) : Option HistoryEntry :=
  message.parentHeader.bind fun parent =>
    history.entries.reverse.find? fun entry => entry.msgId = parent.msgId

/-- An error that the call has an execution take has room for its notes. -/
def LeavesRoom (history : ExecutionHistory) : HistoryCall → Prop
  | .begin _ _ => True
  | .record message => ∀ entry, history.entryOf message = some entry →
      entry.TakesError message → RoomForNotes message.content

/-- The errors of all executions are within their budget. -/
def ErrorsFit (history : ExecutionHistory) : Prop :=
  ∀ entry ∈ history.entries, entry.errorBytes ≤ maxErrorBytes

/-- What the source promises of a history. -/
structure Bounded (history : ExecutionHistory) : Prop where
  /-- No execution has more error text than an error may have. -/
  errors : history.ErrorsFit
  /-- The whole history has no more text than its executions may have. -/
  total : history.bytes ≤ maxEntries * (maxInputBytes + maxOutputBytes + maxErrorBytes)

theorem record_cases (history : ExecutionHistory) (message : JupyterMessage) :
    (history.entryOf message = none ∧ history.record message = history) ∨
      ∃ before entry after, history.entries = before ++ entry :: after ∧
        history.entryOf message = some entry ∧
        (history.record message).entries = before ++ entry.recordMessage message :: after := by
  rw [entryOf, record]
  cases message.parentHeader with
  | none => exact .inl ⟨rfl, rfl⟩
  | some parent =>
      rcases updateLast_cases (fun entry : HistoryEntry => entry.msgId = parent.msgId)
        (fun entry => entry.recordMessage message) history.entries with
        ⟨hfind, heq⟩ | ⟨before, entry, after, hentries, hfind, heq⟩
      · exact .inl ⟨hfind, by simp only [heq]⟩
      · exact .inr ⟨before, entry, after, hentries, hfind, heq⟩

theorem begin_cases (history : ExecutionHistory) (request : JupyterMessage) (timestamp : Int) :
    history.begin request timestamp = history ∨
      ∃ entry : HistoryEntry, entry.error = none ∧ entry.Clipped ∧
        (history.begin request timestamp).entries =
          (if history.entries.length = maxEntries then history.entries.tail
            else history.entries) ++ [entry] := by
  rw [begin]
  split
  · exact .inl rfl
  · refine .inr ⟨_, rfl, ⟨⟨textField request.content "code", ?_⟩, [], rfl⟩, rfl⟩
    exact Clip.ofText_eq_keeping (by decide) _

/-- What every history has, whatever its errors: no more entries than it may have, and
clips of their budgets. -/
structure WellKept (history : ExecutionHistory) : Prop where
  length : history.entries.length ≤ maxEntries
  clipped : ∀ entry ∈ history.entries, entry.Clipped

theorem wellKept_begin {history : ExecutionHistory} (h : history.WellKept)
    (request : JupyterMessage) (timestamp : Int) :
    (history.begin request timestamp).WellKept := by
  rcases history.begin_cases request timestamp with heq | ⟨entry, -, hclipped, heq⟩
  · rwa [heq]
  · have hlength := h.length
    have hpos : 0 < maxEntries := by decide
    constructor
    · rw [heq, List.length_append]
      split
      · rw [List.length_tail, List.length_singleton]
        omega
      · rw [List.length_singleton]
        omega
    · intro other hother
      rw [heq, List.mem_append, List.mem_singleton] at hother
      rcases hother with hother | rfl
      · apply h.clipped other
        split at hother
        · exact List.mem_of_mem_tail hother
        · exact hother
      · exact hclipped

theorem wellKept_record {history : ExecutionHistory} (h : history.WellKept)
    (message : JupyterMessage) : (history.record message).WellKept := by
  refine ⟨by rw [length_record]; exact h.length, ?_⟩
  rcases history.record_cases message with ⟨-, heq⟩ | ⟨before, entry, after, hentries, -, heq⟩
  · rw [heq]
    exact h.clipped
  · have hclipped := h.clipped
    rw [hentries] at hclipped
    simp only [heq, List.forall_mem_append, List.forall_mem_cons] at hclipped ⊢
    exact ⟨hclipped.1, entry.clipped_recordMessage hclipped.2.1 message, hclipped.2.2⟩

theorem wellKept_replay (calls : List HistoryCall) : (replay calls).WellKept := by
  induction calls using List.reverseRecOn with
  | nil => exact ⟨Nat.zero_le _, List.forall_mem_nil _⟩
  | append_singleton calls call ih =>
      rw [replay, List.foldl_append, List.foldl_cons, List.foldl_nil]
      cases call with
      | begin request timestamp => exact wellKept_begin ih request timestamp
      | record message => exact wellKept_record ih message

theorem errorsFit_begin {history : ExecutionHistory} (h : history.ErrorsFit)
    (request : JupyterMessage) (timestamp : Int) :
    (history.begin request timestamp).ErrorsFit := by
  rcases history.begin_cases request timestamp with heq | ⟨entry, hnone, -, heq⟩
  · rwa [heq]
  · intro other hother
    rw [heq, List.mem_append, List.mem_singleton] at hother
    rcases hother with hother | rfl
    · apply h other
      split at hother
      · exact List.mem_of_mem_tail hother
      · exact hother
    · rw [HistoryEntry.errorBytes, hnone]
      exact Nat.zero_le _

/-- A call keeps the errors within their budget if and only if an error that it has an
execution take has room for its notes. -/
theorem errorsFit_apply_iff {history : ExecutionHistory} (h : history.ErrorsFit)
    (call : HistoryCall) : (history.apply call).ErrorsFit ↔ history.LeavesRoom call := by
  cases call with
  | begin request timestamp => exact iff_of_true (errorsFit_begin h request timestamp) trivial
  | record message =>
      rw [apply, LeavesRoom]
      rcases history.record_cases message with
        ⟨hfor, heq⟩ | ⟨before, entry, after, hentries, hfor, heq⟩
      · rw [heq, hfor]
        refine iff_of_true h ?_
        intro entry hentry
        cases hentry
      · have hfits := h
        rw [ErrorsFit, hentries, List.forall_mem_append, List.forall_mem_cons] at hfits
        have hentry := entry.errorBytes_recordMessage_le_iff hfits.2.1 message
        rw [ErrorsFit, heq, List.forall_mem_append, List.forall_mem_cons, hfor]
        constructor
        · rintro ⟨-, hle, -⟩ taker htaker
          cases htaker
          exact hentry.mp hle
        · intro hroom
          exact ⟨hfits.1, hentry.mpr (hroom entry rfl), hfits.2.2⟩

theorem bounded_of_errorsFit {history : ExecutionHistory} (h : history.WellKept)
    (hfits : history.ErrorsFit) : history.Bounded := by
  refine ⟨hfits, ?_⟩
  have heach : ∀ n ∈ history.entries.map HistoryEntry.bytes,
      n ≤ maxInputBytes + maxOutputBytes + maxErrorBytes := by
    rw [List.forall_mem_map]
    intro entry hentry
    exact entry.bytes_le (h.clipped entry hentry) (hfits entry hentry)
  calc history.bytes
      ≤ (history.entries.map HistoryEntry.bytes).length *
          (maxInputBytes + maxOutputBytes + maxErrorBytes) := List.sum_le_card_nsmul _ _ heach
    _ ≤ maxEntries * (maxInputBytes + maxOutputBytes + maxErrorBytes) := by
        rw [List.length_map]
        exact Nat.mul_le_mul_right _ h.length

/-- Along any calls the budget of a traceback is computed without underflow; and the
history stays within its bounds if and only if every error that an execution takes has room
for its notes. -/
theorem replay_bounded_iff (calls : List HistoryCall) :
    (∀ content : Value, (Clip.ofText maxErrorNameBytes (textField content "ename")).len +
        (Clip.ofText (maxErrorBytes / 2) (textField content "evalue")).len ≤ maxErrorBytes) ∧
      ((∀ before, before <+: calls → (replay before).Bounded) ↔
        ∀ before call, before ++ [call] <+: calls → (replay before).LeavesRoom call) := by
  have hstep : ∀ before call, replay (before ++ [call]) = (replay before).apply call := by
    intro before call
    rw [replay, List.foldl_append, List.foldl_cons, List.foldl_nil, replay]
  refine ⟨HistoryEntry.len_add_len_le, ?_, ?_⟩
  · intro hbounded before call hbegins
    have hbefore := hbounded before ((List.prefix_append before [call]).trans hbegins)
    have hafter := hbounded (before ++ [call]) hbegins
    rw [hstep] at hafter
    exact (errorsFit_apply_iff hbefore.errors call).mp hafter.errors
  · intro hroom before hbegins
    apply bounded_of_errorsFit (wellKept_replay before)
    induction before using List.reverseRecOn with
    | nil => exact List.forall_mem_nil _
    | append_singleton before call ih =>
        have hfits := ih ((List.prefix_append before [call]).trans hbegins)
        rw [hstep]
        exact (errorsFit_apply_iff hfits call).mpr (hroom before call hbegins)

/-- An error whose message is cut and whose traceback takes all that is left. -/
def longError : JupyterMessage where
  header := ⟨"e", "error"⟩
  parentHeader := some ⟨"r", "execute_request"⟩
  channel := .ioPub
  content := .object [("ename", .string "E"),
    ("evalue", .string (String.ofList (List.replicate 3000 'x'))),
    ("traceback", .array [.string (String.ofList (List.replicate 2047 'x'))])]
  metadata := .null
  buffers := []

/-- A request whose code fails with the long error. -/
def longErrorCalls : List HistoryCall :=
  [.begin ⟨⟨"r", "execute_request"⟩, none, .shell, .object [("code", .string "stop()")],
    .null, []⟩ 0, .record longError]

theorem errorBytes_longError (entry : HistoryEntry) :
    (entry.setError longError.content).errorBytes = 4125 := by
  have hname : textField longError.content "ename" = ['E'] := by decide
  have hmessage : textField longError.content "evalue" = List.replicate 3000 'x' :=
    String.toList_ofList
  have hlines : tracebackLines longError.content = [List.replicate 2047 'x'] :=
    congrArg (fun line => [line]) String.toList_ofList
  rw [HistoryEntry.errorBytes_setError, hname, hmessage, hlines]
  decide +kernel

/-- The error of the request has more text than an error may have. -/
theorem not_bounded_longErrorCalls : ¬ (replay longErrorCalls).Bounded := by
  intro hbounded
  obtain ⟨entry, hentries⟩ : ∃ entry : HistoryEntry,
      (replay longErrorCalls).entries = [entry.setError longError.content] := ⟨_, rfl⟩
  have hle := hbounded.errors (entry.setError longError.content)
    (by rw [hentries]; exact List.mem_singleton_self _)
  rw [errorBytes_longError] at hle
  revert hle
  decide

end ExecutionHistory

end Kallichore
