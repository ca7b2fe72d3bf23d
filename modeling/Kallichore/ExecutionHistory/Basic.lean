import Kallichore.Jupyter.Message
import Kallichore.Lib.Utf8

/-!
# The execution history

A bounded record of the code a session has run and what it produced. Every part
of an entry is clipped as it arrives, and only the most recent entries are kept.
Texts are lists of characters here, since every limit of the source is in bytes
and every cut of it is at a character boundary.
-/

namespace Kallichore

open Utf8

/-- The most executions a session remembers. -/
def maxEntries : ℕ := 100

/-- The most code kept for one execution. -/
def maxInputBytes : ℕ := 4 * 1024

/-- The most output kept for one execution. -/
def maxOutputBytes : ℕ := 4 * 1024

/-- The most error text (name, message, and traceback) kept for one execution. -/
def maxErrorBytes : ℕ := 4 * 1024

def maxErrorNameBytes : ℕ := 256

def floorFrom (text : List Char) : ℕ → ℕ
  | 0 => 0
  | index + 1 =>
      if isCharBoundary text (index + 1) then index + 1 else floorFrom text index

/-- The largest character boundary in `text` at or before `index`. -/
def floorBoundary (text : List Char) (index : ℕ) : ℕ :=
  floorFrom text (min index (utf8Len text))

def ceilFrom (text : List Char) : ℕ → ℕ → ℕ
  | 0, index => index
  | left + 1, index =>
      if isCharBoundary text index then index else ceilFrom text left (index + 1)

/-- The smallest character boundary in `text` at or after `index`. The end of
the text is one, so the loop has at most the bytes up to it to look at. -/
def ceilBoundary (text : List Char) (index : ℕ) : ℕ :=
  let index := min index (utf8Len text)
  ceilFrom text (utf8Len text - index) index

/-- Text that keeps at most `max` bytes: the first half it is given and the most
recent half, counting what it drops between them. -/
structure Clip where
  max : ℕ
  head : List Char
  tail : List Char
  omitted : ℕ
  deriving DecidableEq, Repr

namespace Clip

def new (max : ℕ) : Clip where
  max := max
  head := []
  tail := []
  omitted := 0

/-- What is left of the text once the head has taken its part. -/
def pushHead (clip : Clip) (text : List Char) : Clip × List Char :=
  if clip.tail = [] then
    let stop := floorBoundary text (clip.max / 2 - utf8Len clip.head)
    ({ clip with head := clip.head ++ takeBytes text stop }, dropBytes text stop)
  else (clip, text)

def pushTail (clip : Clip) (text : List Char) : Clip :=
  let half := clip.max / 2
  if half ≤ utf8Len text then
    let start := ceilBoundary text (utf8Len text - half)
    { clip with
      omitted := clip.omitted + (utf8Len clip.tail + start)
      tail := dropBytes text start }
  else
    let tail := clip.tail ++ text
    if half < utf8Len tail then
      let start := ceilBoundary tail (utf8Len tail - half)
      { clip with omitted := clip.omitted + start, tail := dropBytes tail start }
    else { clip with tail }

def push (clip : Clip) (text : List Char) : Clip :=
  let (clip, text) := clip.pushHead text
  clip.pushTail text

/-- `Clip::from`. -/
def ofText (max : ℕ) (text : List Char) : Clip := (new max).push text

def len (clip : Clip) : ℕ := utf8Len clip.head + utf8Len clip.tail

def truncated (clip : Clip) : Bool := 0 < clip.omitted

/-- `Display for Clip`. -/
def toText (clip : Clip) : List Char :=
  clip.head ++
    (if clip.truncated then
      s!"\n[... {clip.omitted} bytes omitted ...]\n".toList
    else []) ++ clip.tail

end Clip

structure ExecutionError where
  name : List Char
  message : List Char
  traceback : List (List Char)
  deriving DecidableEq, Repr

/-- One execution: the `execute_request` it records, the parent of its output. -/
structure HistoryEntry where
  msgId : String
  input : Clip
  output : Clip
  error : Option ExecutionError
  errorTruncated : Bool
  timestamp : Int
  source : Option String
  agent : Option String
  deriving DecidableEq, Repr

/-- What the API reports of an execution. -/
structure ExecutionHistoryEntry where
  input : List Char
  output : List Char
  error : Option ExecutionError
  timestamp : Int
  source : Option String
  agent : Option String
  truncated : Bool
  deriving DecidableEq, Repr

/-- The executions a session has run, oldest first. -/
structure ExecutionHistory where
  entries : List HistoryEntry
  deriving DecidableEq, Repr

/-- A string field of a message's content, or an empty string. -/
def textField (content : Value) (key : String) : List Char :=
  ((content.index key).asStr.getD "").toList

/-- The last lines of a traceback that fit a budget, going back from its end. -/
def takeLines : ℕ → List (List Char) → List (List Char)
  | _, [] => []
  | budget, line :: lines =>
      if utf8Len line ≤ budget then line :: takeLines (budget - utf8Len line) lines
      else []

namespace HistoryEntry

/-- Record an error from an `error` message or an `execute_reply`, keeping the
end of the traceback, where the failure is. -/
def setError (entry : HistoryEntry) (content : Value) : HistoryEntry :=
  let name := Clip.ofText maxErrorNameBytes (textField content "ename")
  let message := Clip.ofText (maxErrorBytes / 2) (textField content "evalue")
  let lines :=
    (((content.index "traceback").asArray.getD []).filterMap Value.asStr).map String.toList
  let budget := maxErrorBytes - name.len - message.len
  let traceback := (takeLines budget lines.reverse).reverse
  { entry with
    errorTruncated := name.truncated || message.truncated || traceback.length < lines.length
    error := some { name := name.toText, message := message.toText, traceback } }

/-- The text of a result or a display: the plain one, or the types it has. -/
def displayText (content : Value) : List Char :=
  let data := content.index "data"
  match (data.index "text/plain").asStr with
  | some plain => plain.toList
  | none =>
      let types := (data.asObject.getD []).map Prod.fst
      ("[" ++ ", ".intercalate types ++ "]").toList

/-- Add a message from the kernel to the execution it belongs to. -/
def recordMessage (entry : HistoryEntry) (message : JupyterMessage) : HistoryEntry :=
  let content := message.content
  match message.header.msgType with
  | "stream" => { entry with output := entry.output.push (textField content "text") }
  | "execute_result" | "display_data" =>
      { entry with output := (entry.output.push (displayText content)).push ['\n'] }
  | "error" => entry.setError content
  | "execute_reply" =>
      if (content.index "status").asStr = some "error" ∧ entry.error = none then
        entry.setError content
      else entry
  | _ => entry

end HistoryEntry

/-- Apply `f` to the last element that satisfies `p`. -/
def updateLast {α : Type*} (p : α → Bool) (f : α → α) : List α → List α
  | [] => []
  | a :: as =>
      if as.any p then a :: updateLast p f as
      else if p a then f a :: as
      else a :: as

namespace ExecutionHistory

/-- Start an entry for an `execute_request` being sent to the kernel. Silent
requests are not recorded, since the kernel reports nothing for them. -/
def begin (history : ExecutionHistory) (request : JupyterMessage) (timestamp : Int) :
    ExecutionHistory :=
  let content := request.content
  if (content.index "silent").asBool = some true then history
  else
    let attribution := request.metadata.index "attribution"
    let entries :=
      if history.entries.length = maxEntries then history.entries.tail else history.entries
    { entries := entries ++ [{
        msgId := request.msgId
        input := Clip.ofText maxInputBytes (textField content "code")
        output := Clip.new maxOutputBytes
        error := none
        errorTruncated := false
        timestamp
        source := (attribution.index "source").asStr
        agent := (attribution.index "agent_name").asStr }] }

/-- Add a message from the kernel to the execution it belongs to, if any. -/
def record (history : ExecutionHistory) (message : JupyterMessage) : ExecutionHistory :=
  match message.parentHeader with
  | none => history
  | some parent =>
      { entries := updateLast (fun entry => entry.msgId = parent.msgId)
          (fun entry => entry.recordMessage message) history.entries }

end ExecutionHistory

end Kallichore
