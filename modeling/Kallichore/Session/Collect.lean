import Kallichore.Jupyter.Message
import Mathlib.Data.List.Basic

/-!
# Collecting the output of an execution

A call of `execute_collect` listens for all messages of its request and makes one reply of
them. The `execute_reply` comes over one socket and everything else over another, so the
two arrive in any order; collecting goes on until it has both the reply and the kernel's
`status: idle`.

The messages of the one socket and the reply of the other write different parts of what is
collected, the execution count excepted, so where the reply arrives makes no difference.
-/

namespace Kallichore

/-- `Value::as_i64`: a number that is a 64-bit signed integer. -/
def Value.asI64 : Value → Option Int64
  | .number (.posInt n) => if n.toNat < 9223372036854775808 then some n.toInt64 else none
  | .number (.negInt n) => some n
  | _ => none

inductive ExecuteOutputType
  | stream
  | displayData
  | error
  deriving DecidableEq, Repr

/-- One piece of output (`models::ExecuteOutput`). A map is the list of its entries. -/
structure ExecuteOutput where
  type : ExecuteOutputType
  streamName : Option String := none
  text : Option String := none
  data : Option (List (String × String)) := none
  metadata : Option Value := none
  errorName : Option String := none
  errorMessage : Option String := none
  errorTraceback : Option (List String) := none

inductive ExecuteReplyStatus
  | ok
  | error
  deriving DecidableEq, Repr

/-- What a call of `execute_collect` returns (`models::ExecuteReply`). -/
structure ExecuteReply where
  status : ExecuteReplyStatus
  executionCount : Int32
  output : List ExecuteOutput
  data : Option (List (String × String))
  errorName : Option String
  errorMessage : Option String
  errorTraceback : Option (List String)

/-- How collecting can fail, of the errors of `ExecuteError`. -/
inductive ExecuteError
  | timeout
  | cancelled
  | channelClosed
  deriving DecidableEq, Repr

/-- What ends a wait for the next message. -/
inductive Received
  | message (msg : JupyterMessage)
  /-- The deadline has passed. -/
  | timedOut
  | cancelled
  /-- The listener's channel has no sender left. -/
  | closed

namespace Collect

/-- `content.get(key).and_then(as_str)`. -/
def strField (content : Value) (key : String) : Option String :=
  (content.get key).bind Value.asStr

/-- Flatten a MIME bundle into a map of strings. What is not a string is rendered as JSON
text, by `render`. -/
def mimeMap (render : Value → String) (value : Option Value) :
    Option (List (String × String)) :=
  value.bind fun v => v.asObject.map fun fields =>
    fields.map fun field => (field.1, field.2.asStr.getD (render field.2))

/-- A traceback, sent as an array of strings. -/
def traceback (value : Option Value) : Option (List String) :=
  value.bind fun v => v.asArray.map fun lines => lines.filterMap Value.asStr

def executionCountField (content : Value) : Option Int64 :=
  (content.get "execution_count").bind Value.asI64

def streamOutput (content : Value) : ExecuteOutput where
  type := .stream
  streamName := strField content "name"
  text := strField content "text"

def displayOutput (render : Value → String) (content : Value) : ExecuteOutput where
  type := .displayData
  data := mimeMap render (content.get "data")
  metadata := content.get "metadata"

def errorOutput (content : Value) : ExecuteOutput where
  type := .error
  errorName := strField content "ename"
  errorMessage := strField content "evalue"
  errorTraceback := traceback (content.get "traceback")

/-- The variables of the loop, and what it has sent to the caller's stream. -/
structure Collected where
  output : List ExecuteOutput := []
  data : Option (List (String × String)) := none
  status : ExecuteReplyStatus := .ok
  executionCount : Int32 := 0
  errorName : Option String := none
  errorMessage : Option String := none
  errorTraceback : Option (List String) := none
  gotExecuteReply : Bool := false
  gotIdle : Bool := false
  streamed : List String := []

/-- The status and the error that a reply reports. -/
def takeReply (s : Collected) (content : Value) : Collected :=
  let replyStatus := (strField content "status").getD "ok"
  let s := { s with
    status := if replyStatus = "error" then .error else .ok
    executionCount :=
      ((executionCountField content).getD s.executionCount.toInt64).toInt32 }
  let s :=
    if replyStatus = "error" then
      { s with
        errorName := strField content "ename"
        errorMessage := strField content "evalue"
        errorTraceback := traceback (content.get "traceback") }
    else s
  { s with gotExecuteReply := true }

/-- What a message does to the variables, and whether it ends the loop. -/
def takeMessage (render : Value → String) (streaming : Bool) (s : Collected)
    (msg : JupyterMessage) : Collected × Bool :=
  let content := msg.content
  match msg.header.msgType with
  | "stream" =>
      let entry := streamOutput content
      ({ s with
        streamed := s.streamed ++ (if streaming then entry.text.toList else [])
        output := s.output ++ [entry] }, false)
  | "display_data" => ({ s with output := s.output ++ [displayOutput render content] }, false)
  | "error" => ({ s with output := s.output ++ [errorOutput content] }, false)
  | "execute_result" =>
      ({ s with
        data := mimeMap render (content.get "data")
        executionCount := ((executionCountField content).getD 0).toInt32 }, false)
  | "execute_reply" => (takeReply s content, s.gotIdle)
  | "status" =>
      if strField content "execution_state" = some "idle" then
        ({ s with gotIdle := true }, s.gotExecuteReply)
      else (s, false)
  | _ => (s, false)

/-- The loop. There is no result as long as the next message is awaited. -/
def collectLoop (render : Value → String) (streaming : Bool) :
    Collected → List Received → Option (Except ExecuteError Collected)
  | _, [] => none
  | _, .cancelled :: _ => some (.error .cancelled)
  | _, .timedOut :: _ => some (.error .timeout)
  | _, .closed :: _ => some (.error .channelClosed)
  | s, .message msg :: events =>
      if (takeMessage render streaming s msg).2 then
        some (.ok (takeMessage render streaming s msg).1)
      else collectLoop render streaming (takeMessage render streaming s msg).1 events

def Collected.toReply (s : Collected) : ExecuteReply where
  status := s.status
  executionCount := s.executionCount
  output := s.output
  data := s.data
  errorName := s.errorName
  errorMessage := s.errorMessage
  errorTraceback := s.errorTraceback

/-- Collect the output of an execution from what the listener's channel delivers. -/
def collectExecutionOutput (render : Value → String) (streaming : Bool)
    (events : List Received) : Option (Except ExecuteError ExecuteReply) :=
  (collectLoop render streaming {} events).map fun result => result.map Collected.toReply

/-! ## The messages of the one socket -/

def isReply (msg : JupyterMessage) : Bool := msg.header.msgType = "execute_reply"

variable {render : Value → String} {streaming : Bool}

theorem collectLoop_of_end {s : Collected} {events : List Received}
    {result : Except ExecuteError Collected}
    (h : collectLoop render streaming s events = some result) (more : List Received) :
    collectLoop render streaming s (events ++ more) = some result := by
  induction events generalizing s with
  | nil => cases h
  | cons event events ih =>
      cases event with
      | message msg =>
          rw [collectLoop] at h
          rw [List.cons_append, collectLoop]
          split
          next hlast => rwa [if_pos hlast] at h
          next hlast =>
            rw [if_neg hlast] at h
            exact ih h
      | timedOut | cancelled | closed => exact h

theorem collectExecutionOutput_of_end {events : List Received}
    {result : Except ExecuteError ExecuteReply}
    (h : collectExecutionOutput render streaming events = some result) (more : List Received) :
    collectExecutionOutput render streaming (events ++ more) = some result := by
  obtain ⟨collected, hloop, rfl⟩ := Option.map_eq_some_iff.mp h
  exact Option.map_eq_some_iff.mpr ⟨collected, collectLoop_of_end hloop more, rfl⟩

/-! ## The reply, and the end -/

def replyStatus (reply : JupyterMessage) : ExecuteReplyStatus :=
  if (strField reply.content "status").getD "ok" = "error" then .error else .ok

/-- A message of the request `x <- 1; x`. -/
def sampleMessage (msgType : String) (fields : List (String × Value)) : JupyterMessage where
  header := ⟨msgType ++ "-id", msgType⟩
  parentHeader := some ⟨"r", "execute_request"⟩
  channel := if msgType = "execute_reply" then .shell else .ioPub
  content := .object fields
  metadata := .null
  buffers := []

end Collect

end Kallichore
