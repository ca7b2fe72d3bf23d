import Mathlib.Tactic.Common

/-!
# Jupyter messages

The data every other module is about: JSON values as `serde_json` represents
them, the partial message header the supervisor keeps, and the message itself.
`JupyterMsg.ofMessage` is the classification the proxy dispatches on. It reads
the content as serde's derived deserializers do, so a message with a familiar
type and an unfamiliar content is an ordinary `other` message.
-/

namespace Kallichore

/-- A JSON number, in the three representations of `serde_json::Number`. A
float is carried as its bits. -/
inductive Number
  | posInt (n : UInt64)
  | negInt (n : Int64)
  | float (bits : UInt64)
  deriving DecidableEq, Repr

/-- A JSON value (`serde_json::Value`). -/
inductive Value
  | null
  | bool (b : Bool)
  | number (n : Number)
  | string (s : String)
  | array (elems : List Value)
  | object (fields : List (String × Value))
  deriving Repr, Inhabited

namespace Value

/-- `Value::get`: the field of an object. -/
def get (v : Value) (key : String) : Option Value :=
  match v with
  | object fields => fields.lookup key
  | _ => none

/-- `value[key]`, which is null where there is no such field. -/
def index (v : Value) (key : String) : Value := (v.get key).getD null

def asStr : Value → Option String
  | string s => some s
  | _ => none

def asBool : Value → Option Bool
  | bool b => some b
  | _ => none

def asArray : Value → Option (List Value)
  | array elems => some elems
  | _ => none

def asObject : Value → Option (List (String × Value))
  | object fields => some fields
  | _ => none

def asU16 : Value → Option UInt16
  | number (.posInt n) => if n.toNat < 65536 then some n.toUInt16 else none
  | _ => none

/-- The field values a derived `Deserialize` reads for a struct with the named
fields: by name from an object, whose other fields are ignored, or by position
from an array of exactly that length. -/
def structFields (names : List String) : Value → Option (List Value)
  | object fields => names.mapM fun name => fields.lookup name
  | array elems => if elems.length = names.length then some elems else none
  | _ => none

end Value

structure JupyterMessageHeader where
  msgId : String
  msgType : String
  deriving DecidableEq, Repr

/-- The Jupyter sockets over which messages are sent and received. -/
inductive JupyterChannel
  | shell
  | control
  | stdin
  | ioPub
  | heartbeat
  | registration
  deriving DecidableEq, Repr

/-- A Jupyter message, with its buffers as base64 text. -/
structure JupyterMessage where
  header : JupyterMessageHeader
  parentHeader : Option JupyterMessageHeader
  channel : JupyterChannel
  content : Value
  metadata : Value
  buffers : List String

/-- The message's own ID, the one every queue and listener table goes by. -/
def JupyterMessage.msgId (msg : JupyterMessage) : String := msg.header.msgId

structure JupyterExecuteRequest where
  code : String

inductive ExecutionState
  | busy
  | idle
  deriving DecidableEq, Repr

/-- The ports a kernel selected, as it announces them in a JEP 66 handshake. -/
structure HandshakeRequest where
  shellPort : UInt16
  iopubPort : UInt16
  stdinPort : UInt16
  controlPort : UInt16
  hbPort : UInt16

def JupyterExecuteRequest.ofValue (v : Value) : Option JupyterExecuteRequest :=
  match v.structFields ["code"] with
  | some [code] => code.asStr.map fun code => { code }
  | _ => none

/-- A unit variant is read from its name, or from an object whose one key is
its name and whose value is null. -/
def ExecutionState.ofValue : Value → Option ExecutionState
  | .string "busy" => some .busy
  | .string "idle" => some .idle
  | .object [("busy", .null)] => some .busy
  | .object [("idle", .null)] => some .idle
  | _ => none

def HandshakeRequest.ofValue (v : Value) : Option HandshakeRequest :=
  match v.structFields
      ["shell_port", "iopub_port", "stdin_port", "control_port", "hb_port"] with
  | some [shell, iopub, stdin, control, hb] => do
      let shellPort ← shell.asU16
      let iopubPort ← iopub.asU16
      let stdinPort ← stdin.asU16
      let controlPort ← control.asU16
      let hbPort ← hb.asU16
      return { shellPort, iopubPort, stdinPort, controlPort, hbPort }
  | _ => none

/-- The message types the supervisor knows how to handle. -/
inductive JupyterMsg
  | executeRequest (content : JupyterExecuteRequest)
  | interruptRequest
  | shutdownRequest
  | handshakeRequest (content : HandshakeRequest)
  | status (executionState : ExecutionState)
  | other

/-- `From<JupyterMessage> for JupyterMsg`. A request whose content does not
deserialize is `other`. -/
def JupyterMsg.ofMessage (msg : JupyterMessage) : JupyterMsg :=
  match msg.header.msgType with
  | "execute_request" =>
      match JupyterExecuteRequest.ofValue msg.content with
      | some content => executeRequest content
      | none => other
  | "status" =>
      match msg.content.structFields ["execution_state"] with
      | some [state] =>
          match ExecutionState.ofValue state with
          | some state => status state
          | none => other
      | _ => other
  | "interrupt_request" => interruptRequest
  | "shutdown_request" => shutdownRequest
  | "handshake_request" =>
      match HandshakeRequest.ofValue msg.content with
      | some content => handshakeRequest content
      | none => other
  | _ => other

end Kallichore
