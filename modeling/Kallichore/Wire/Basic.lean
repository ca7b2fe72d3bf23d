import Kallichore.Lib.Outcome
import Kallichore.Jupyter.Message

/-!
# Wire messages

A Jupyter message travels over ZeroMQ as a list of frames: socket identities, a
delimiter, a signature, the header, the parent header, the metadata, the
content, and any number of buffers. `fromJupyter` builds the frames after the
delimiter and `toJupyter` reads a whole frame list back. The decoder indexes
frames by position, so it is an `Outcome`: out of range it panics.

The crates both directions rely on enter as the functions of `Codecs`: the JSON
text of a value and its parser, standard base64, and HMAC-SHA256 of a key and a
byte string. What is assumed of them is stated where it is used.
-/

namespace Kallichore

abbrev Bytes := List UInt8

/-- The UTF-8 bytes of a string (`as_bytes`). -/
def asBytes (s : String) : Bytes := s.toByteArray.data.toList

/-- `std::str::from_utf8`. -/
def fromUtf8 (bytes : Bytes) : Option String :=
  String.fromUTF8? ⟨bytes.toArray⟩

theorem fromUtf8_eq_some_iff {bytes : Bytes} {s : String} :
    fromUtf8 bytes = some s ↔ asBytes s = bytes := by
  unfold fromUtf8 asBytes String.fromUTF8?
  constructor
  · intro h
    split at h
    · cases h
      rfl
    · cases h
  · rintro rfl
    simp [s.isValidUTF8]
    rfl

@[simp] theorem fromUtf8_asBytes (s : String) : fromUtf8 (asBytes s) = some s :=
  fromUtf8_eq_some_iff.mpr rfl

/-- Lower-case hexadecimal digits of a byte. -/
def hexByte (b : UInt8) : List Char :=
  [Nat.digitChar (b.toNat / 16), Nat.digitChar (b.toNat % 16)]

/-- `hex::encode`. -/
def hexEncode (bytes : Bytes) : String := String.ofList (bytes.flatMap hexByte)

/-- The functions of `serde_json`, `base64` and `hmac` that the codec calls. -/
structure Codecs where
  hmacSha256 : Bytes → Bytes → Bytes
  jsonText : Value → String
  jsonFromStr : String → Option Value
  jsonFromSlice : Bytes → Option Value
  base64Encode : Bytes → String
  base64Decode : String → Option Bytes

/-- Separates ZeroMQ socket identities from the message body payload. -/
def msgDelim : Bytes := asBytes "<IDS|MSG>"

/-- Why a message could not be encoded or decoded. -/
inductive WireError
  | noDelimiter
  | noSignature
  | signatureEncoding
  | signatureMismatch
  | utf8
  | json
  | base64
  deriving DecidableEq, Repr

/-- The supervisor's own error texts. The others are the libraries'. -/
def WireError.text : WireError → Option String
  | noDelimiter => some "No message delimiter found"
  | noSignature => some "Message has no signature part"
  | signatureEncoding => some "Invalid signature encoding"
  | signatureMismatch => some "HMAC signature validation failed"
  | utf8 | json | base64 => none

/-- What a session needs to talk to its kernel. The HMAC key is the bytes the
`Hmac` object was made from. -/
structure KernelConnection where
  sessionId : String
  username : String
  key : Option String
  protocolVersion : String
  hmacKey : Option Bytes

/-- The connection of a kernel that signs with its own key; no key means
unsigned messages. -/
def KernelConnection.withKey (connection : KernelConnection) (key : String) :
    KernelConnection :=
  if key.isEmpty then { connection with key := none, hmacKey := none }
  else { connection with key := some key, hmacKey := some (asBytes key) }

structure WireMessageHeader where
  msgId : String
  msgType : String
  session : String
  username : String
  date : String
  version : String

namespace WireMessageHeader

def new (header : JupyterMessageHeader) (session username protocolVersion : String)
    (date : String) : WireMessageHeader where
  msgId := header.msgId
  msgType := header.msgType
  version := protocolVersion
  date := date
  session := session
  username := username

/-- `From<WireMessageHeader> for JupyterMessageHeader`. -/
def toJupyter (header : WireMessageHeader) : JupyterMessageHeader where
  msgId := header.msgId
  msgType := header.msgType

/-- The header as a JSON value, with the fields in the order of a
`serde_json::Map`. -/
def toValue (header : WireMessageHeader) : Value :=
  .object [("date", .string header.date), ("msg_id", .string header.msgId),
    ("msg_type", .string header.msgType), ("session", .string header.session),
    ("username", .string header.username), ("version", .string header.version)]

def ofValue (v : Value) : Option WireMessageHeader :=
  match v.structFields
      ["msg_id", "msg_type", "session", "username", "date", "version"] with
  | some [msgId, msgType, session, username, date, version] => do
      let msgId ← msgId.asStr
      let msgType ← msgType.asStr
      let session ← session.asStr
      let username ← username.asStr
      let date ← date.asStr
      let version ← version.asStr
      return { msgId, msgType, session, username, date, version }
  | _ => none

/-- The JSON text of the header, field by field in the order of the struct. -/
def jsonText (D : Codecs) (header : WireMessageHeader) : String :=
  "\x7b\"msg_id\":" ++ D.jsonText (.string header.msgId) ++
    ",\"msg_type\":" ++ D.jsonText (.string header.msgType) ++
    ",\"session\":" ++ D.jsonText (.string header.session) ++
    ",\"username\":" ++ D.jsonText (.string header.username) ++
    ",\"date\":" ++ D.jsonText (.string header.date) ++
    ",\"version\":" ++ D.jsonText (.string header.version) ++ "\x7d"

@[simp] theorem ofValue_toValue (header : WireMessageHeader) :
    ofValue header.toValue = some header := by
  simp [ofValue, toValue, Value.structFields, Value.asStr, List.lookup_cons]

end WireMessageHeader

/-- A message as frames: its parts are the ones after the delimiter when it was
built from a Jupyter message, and all of them when it came from a socket. -/
structure WireMessage where
  sessionId : String
  channel : JupyterChannel
  parts : List Bytes

namespace WireMessage

/-- The signature part: the hexadecimal HMAC of the parts, empty without a key. -/
def sign (D : Codecs) (hmacKey : Option Bytes) (parts : List Bytes) : Bytes :=
  match hmacKey with
  | some key => asBytes (hexEncode (D.hmacSha256 key parts.flatten))
  | none => []

/-- Create a new wire message from a Jupyter message. The two dates are the
clock readings of the header and of the parent header. -/
def fromJupyter (D : Codecs) (date parentDate : String) (msg : JupyterMessage)
    (connection : KernelConnection) : Except WireError WireMessage :=
  let session := connection.sessionId
  let username := connection.username
  let version := connection.protocolVersion
  let header := WireMessageHeader.new msg.header session username version date
  let parent :=
    match msg.parentHeader with
    | some parent =>
        (WireMessageHeader.new parent session username version parentDate).jsonText D
    | none => "\x7b\x7d"
  let parts := [asBytes (header.jsonText D), asBytes parent,
    asBytes (D.jsonText msg.metadata), asBytes (D.jsonText msg.content)]
  -- The buffers follow the parts that are signed.
  match msg.buffers.mapM D.base64Decode with
  | some buffers =>
      .ok { sessionId := connection.sessionId
            channel := msg.channel
            parts := sign D connection.hmacKey parts :: parts ++ buffers }
  | none => .error .base64

def parseBuffer (D : Codecs) (buf : Bytes) : Except WireError Value :=
  match fromUtf8 buf with
  | some contents =>
      match D.jsonFromStr contents with
      | some val => .ok val
      | none => .error .json
  | none => .error .utf8

/-- `serde_json::from_value(Self::parse_buffer(buf)?)?`, read as a header. -/
def parseHeader (D : Codecs) (buf : Bytes) :
    Except WireError JupyterMessageHeader := do
  let val ← parseBuffer D buf
  match WireMessageHeader.ofValue val with
  | some header => .ok header.toJupyter
  | none => .error .json

/-- A frame too short to hold a header is an absent parent header. -/
def parseParent (D : Codecs) (buf : Bytes) :
    Except WireError (Option JupyterMessageHeader) :=
  if buf.length < 5 then .ok none
  else (parseHeader D buf).map some

/-- `serde_json::from_slice`. -/
def parseSlice (D : Codecs) (buf : Bytes) : Except WireError Value :=
  match D.jsonFromSlice buf with
  | some val => .ok val
  | none => .error .json

/-- Validate the HMAC signature if a key is provided. -/
def checkSignature (D : Codecs) (hmacKey : Option Bytes) (parts : List Bytes) :
    Except WireError Unit :=
  match hmacKey with
  | none => .ok ()
  | some key =>
      match parts with
      | [] => .error .noSignature
      | signature :: rest =>
          if signature = [] then .ok ()
          else
            match fromUtf8 signature with
            | none => .error .signatureEncoding
            | some text =>
                if text = hexEncode (D.hmacSha256 key (rest.take 4).flatten) then
                  .ok ()
                else .error .signatureMismatch

/-- The message in the frames after the delimiter. -/
def decodeParts (D : Codecs) (channel : JupyterChannel) (parts : List Bytes) :
    Outcome WireError JupyterMessage := do
  let header ← Outcome.ofExcept (parseHeader D (← Outcome.index parts 1))
  let parentHeader ← Outcome.ofExcept (parseParent D (← Outcome.index parts 2))
  let buffers := (parts.drop 5).map D.base64Encode
  let metadata ← Outcome.ofExcept (parseSlice D (← Outcome.index parts 3))
  let content ← Outcome.ofExcept (parseSlice D (← Outcome.index parts 4))
  return { header, parentHeader, metadata, content, channel, buffers }

/-- The frames after the first delimiter. -/
def afterDelim (frames : List Bytes) : Option (List Bytes) :=
  (frames.findIdx? (· = msgDelim)).map fun pos => frames.drop (pos + 1)

/-- Convert the wire message to a Jupyter message with optional HMAC
validation. -/
def toJupyter (D : Codecs) (wire : WireMessage) (channel : JupyterChannel)
    (hmacKey : Option Bytes) : Outcome WireError JupyterMessage :=
  match afterDelim wire.parts with
  | none => .err .noDelimiter
  | some parts => do
      Outcome.ofExcept (checkSignature D hmacKey parts)
      decodeParts D channel parts

def fromZmq (sessionId : String) (channel : JupyterChannel) (msg : List Bytes) :
    WireMessage where
  sessionId := sessionId
  channel := channel
  parts := msg

/-- `Into<ZmqMessage>`: shell and stdin share a socket identity, the session
ID. -/
def toZmq (wire : WireMessage) : List Bytes :=
  match wire.channel with
  | .shell | .stdin => asBytes wire.sessionId :: msgDelim :: wire.parts
  | _ => msgDelim :: wire.parts

end WireMessage

end Kallichore
