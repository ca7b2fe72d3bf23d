import Kallichore.ExecutionHistory.Clip
import Mathlib.Algebra.Order.BigOperators.Group.List
import Mathlib.Algebra.Order.Ring.Nat
import Mathlib.Data.List.DropRight

/-!
# The execution history as the end of a log

The log has every request that was begun, however long ago, with all the messages that
were recorded for it since, unclipped. The history is the end of the log, each request in
it told by what a clip keeps of its code and of its output.
-/

namespace Kallichore

open Utf8

inductive HistoryCall
  | begin (request : JupyterMessage) (timestamp : Int)
  | record (message : JupyterMessage)

/-- The requests that calls begin, silent or not. -/
def HistoryCall.requestId : HistoryCall → Option String
  | .begin request _ => some request.msgId
  | .record _ => none

/-- Whether the message's parent is the request. -/
def belongsTo (request message : JupyterMessage) : Bool :=
  message.parentHeader.any fun parent => request.msgId = parent.msgId

/-- What a message adds to the output of its request. -/
def outputText (message : JupyterMessage) : List Char :=
  match message.header.msgType with
  | "stream" => textField message.content "text"
  | "execute_result" | "display_data" => HistoryEntry.displayText message.content ++ ['\n']
  | _ => []

def isError (message : JupyterMessage) : Bool := message.header.msgType = "error"

def isFailingReply (message : JupyterMessage) : Bool :=
  message.header.msgType = "execute_reply" ∧
    (message.content.index "status").asStr = some "error"

/-- A request that was begun, and the messages recorded for it. -/
structure Logged where
  request : JupyterMessage
  timestamp : Int
  messages : List JupyterMessage

namespace Logged

/-- The last `error` message, or else the first reply that failed. -/
def failure (logged : Logged) : Option JupyterMessage :=
  (logged.messages.filter isError).getLast?.or (logged.messages.find? isFailingReply)

def output (logged : Logged) : List Char := logged.messages.flatMap outputText

/-- The entry of a request that nothing has failed in. -/
def entryWithoutError (logged : Logged) : HistoryEntry :=
  let attribution := logged.request.metadata.index "attribution"
  { msgId := logged.request.msgId
    input := Clip.ofText maxInputBytes (textField logged.request.content "code")
    output := Clip.ofText maxOutputBytes logged.output
    error := none
    errorTruncated := false
    timestamp := logged.timestamp
    source := (attribution.index "source").asStr
    agent := (attribution.index "agent_name").asStr }

def entry (logged : Logged) : HistoryEntry :=
  match logged.failure with
  | none => logged.entryWithoutError
  | some message => logged.entryWithoutError.setError message.content

def add (logged : Logged) (message : JupyterMessage) : Logged :=
  if belongsTo logged.request message then
    { logged with messages := logged.messages ++ [message] }
  else logged

end Logged

def linesBytes (lines : List (List Char)) : ℕ := (lines.map utf8Len).sum

/-- The traceback of an error, without what is not a text. -/
def tracebackLines (content : Value) : List (List Char) :=
  (((content.index "traceback").asArray.getD []).filterMap Value.asStr).map String.toList

/-- The end of some lines, as long as it can be. -/
structure LongestEnd (budget : ℕ) (lines taken : List (List Char)) : Prop where
  ends : taken <:+ lines
  fits : linesBytes taken ≤ budget
  longest : ∀ more, more <:+ lines → linesBytes more ≤ budget → more <:+ taken

/-- The clips of an error's name and message. -/
def nameClip (content : Value) : Clip := .keeping maxErrorNameBytes (textField content "ename")

def messageClip (content : Value) : Clip :=
  .keeping (maxErrorBytes / 2) (textField content "evalue")

/-- The error is the one that a message tells of: its name and its message are clipped, and
the traceback has the end that fits beside them. -/
structure ExecutionError.Reports (error : ExecutionError) (content : Value) : Prop where
  name : error.name = (nameClip content).toText
  message : error.message = (messageClip content).toText
  traceback : LongestEnd (maxErrorBytes - (nameClip content).len - (messageClip content).len)
    (tracebackLines content) error.traceback

namespace Logged

end Logged

namespace ExecutionHistory

def apply (history : ExecutionHistory) : HistoryCall → ExecutionHistory
  | .begin request timestamp => history.begin request timestamp
  | .record message => history.record message

def replay (calls : List HistoryCall) : ExecutionHistory := calls.foldl apply ⟨[]⟩

end ExecutionHistory

/-! ## The log grows at its end -/

namespace Logged

end Logged

/-! ## Lines -/

theorem takeLines_isPrefix (budget : ℕ) (lines : List (List Char)) :
    takeLines budget lines <+: lines := by
  induction lines generalizing budget with
  | nil => exact List.prefix_refl []
  | cons line lines ih =>
      rw [takeLines]
      split
      · exact List.cons_prefix_cons.mpr ⟨rfl, ih _⟩
      · exact List.nil_prefix

theorem linesBytes_cons (line : List Char) (lines : List (List Char)) :
    linesBytes (line :: lines) = utf8Len line + linesBytes lines := rfl

theorem linesBytes_reverse (lines : List (List Char)) :
    linesBytes lines.reverse = linesBytes lines := by
  rw [linesBytes, List.map_reverse, List.sum_reverse, linesBytes]

theorem linesBytes_takeLines_le (budget : ℕ) (lines : List (List Char)) :
    linesBytes (takeLines budget lines) ≤ budget := by
  induction lines generalizing budget with
  | nil => exact Nat.zero_le budget
  | cons line lines ih =>
      rw [takeLines]
      split
      next hfits =>
        have hrest := ih (budget - utf8Len line)
        rw [linesBytes_cons]
        omega
      · exact Nat.zero_le budget

theorem isPrefix_takeLines {budget : ℕ} {taken lines : List (List Char)}
    (hbegins : taken <+: lines) (hfits : linesBytes taken ≤ budget) :
    taken <+: takeLines budget lines := by
  induction lines generalizing budget taken with
  | nil =>
      rw [List.prefix_nil.mp hbegins]
      exact List.nil_prefix
  | cons line lines ih =>
      cases taken with
      | nil => exact List.nil_prefix
      | cons first taken =>
          obtain ⟨rfl, hrest⟩ := List.cons_prefix_cons.mp hbegins
          rw [linesBytes_cons] at hfits
          rw [takeLines, if_pos (by omega)]
          exact List.cons_prefix_cons.mpr ⟨rfl, ih hrest (by omega)⟩

/-- No lines from the same start that fit have more bytes than those taken. -/
theorem linesBytes_le_takeLines {budget : ℕ} {taken lines : List (List Char)}
    (hbegins : taken <+: lines) (hfits : linesBytes taken ≤ budget) :
    linesBytes taken ≤ linesBytes (takeLines budget lines) := by
  obtain ⟨more, hmore⟩ := isPrefix_takeLines hbegins hfits
  rw [← hmore, linesBytes, linesBytes, List.map_append, List.sum_append]
  exact Nat.le_add_right _ _

theorem length_updateLast {α : Type*} (p : α → Bool) (f : α → α) (l : List α) :
    (updateLast p f l).length = l.length := by
  induction l with
  | nil => rfl
  | cons a l ih =>
      rw [updateLast]
      split
      · rw [List.length_cons, List.length_cons, ih]
      · split
        · rfl
        · rfl

namespace ExecutionHistory

theorem length_record (history : ExecutionHistory) (message : JupyterMessage) :
    (history.record message).entries.length = history.entries.length := by
  rw [record]
  split
  · rfl
  · exact length_updateLast _ _ _

end ExecutionHistory

end Kallichore
