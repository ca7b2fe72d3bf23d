import Kallichore.Wire.Basic

/-!
# What the decoder accepts, and when it panics

`toJupyter` either finds five frames after the delimiter and decodes each of
them, or it stops early. The first theorem opens up an accepted frame list; a
signature frame is checked only when it is not empty, so what a key buys is
that the frame is empty or is the signature. The second says when the fixed
positions are out of range: a short frame list is an error only if something in
the frames that are there fails first.
-/

namespace Kallichore

namespace WireMessage

variable {D : Codecs}

theorem afterDelim_eq_some_iff {frames parts : List Bytes} :
    afterDelim frames = some parts ↔
      ∃ ids, msgDelim ∉ ids ∧ frames = ids ++ msgDelim :: parts := by
  unfold afterDelim
  constructor
  · intro h
    obtain ⟨pos, hpos, rfl⟩ := Option.map_eq_some_iff.mp h
    obtain ⟨hlt, heq, hbefore⟩ := List.findIdx?_eq_some_iff_getElem.mp hpos
    refine ⟨frames.take pos, ?_, ?_⟩
    · intro hmem
      obtain ⟨i, hi, hget⟩ := List.mem_iff_getElem.mp hmem
      rw [List.length_take] at hi
      rw [List.getElem_take] at hget
      have hne := hbefore i (by omega)
      simp [hget] at hne
    · have hdelim : frames[pos] = msgDelim := by simpa using heq
      rw [← hdelim, ← List.drop_eq_getElem_cons hlt, List.take_append_drop]
  · rintro ⟨ids, hids, rfl⟩
    have hpos : (ids ++ msgDelim :: parts).findIdx? (· = msgDelim) =
        some ids.length := by
      rw [List.findIdx?_eq_some_iff_getElem]
      refine ⟨by simp, by simp, ?_⟩
      intro i hi
      have hne : ids[i] ≠ msgDelim := fun heq => hids (heq ▸ List.getElem_mem hi)
      simpa [List.getElem_append_left hi] using hne
    rw [hpos]
    simp

theorem toJupyter_of_delim {wire : WireMessage} {ids parts : List Bytes}
    (hids : msgDelim ∉ ids) (hwire : wire.parts = ids ++ msgDelim :: parts)
    (channel : JupyterChannel) (hmacKey : Option Bytes) :
    wire.toJupyter D channel hmacKey =
      (Outcome.ofExcept (checkSignature D hmacKey parts) >>= fun _ =>
        decodeParts D channel parts) := by
  unfold toJupyter
  rw [afterDelim_eq_some_iff.mpr ⟨ids, hids, hwire⟩]

theorem exists_cons_of_getElem?_four {parts : List Bytes} {content : Bytes}
    (h : parts[4]? = some content) :
    ∃ signature header parent metadata buffers,
      parts = signature :: header :: parent :: metadata :: content :: buffers := by
  match parts, h with
  | signature :: header :: parent :: metadata :: content' :: buffers, h =>
      cases h
      exact ⟨signature, header, parent, metadata, buffers, rfl⟩

theorem parseHeader_of_json {text : String} {header : WireMessageHeader}
    (h : D.jsonFromStr text = some header.toValue) :
    parseHeader D (asBytes text) = .ok header.toJupyter := by
  have hbuffer : parseBuffer D (asBytes text) = .ok header.toValue := by
    simp only [parseBuffer, fromUtf8_asBytes, h]
  simp only [parseHeader, hbuffer, bind, Except.bind, WireMessageHeader.ofValue_toValue]

/-- Accepted frames are five or more, each decoding to its part of the message;
the rest are the buffers. -/
theorem decodeParts_eq_ok_iff {channel : JupyterChannel} {parts : List Bytes}
    {m : JupyterMessage} :
    decodeParts D channel parts = .ok m ↔
      ∃ signature header parent metadata content buffers,
        parts = signature :: header :: parent :: metadata :: content :: buffers ∧
          parseHeader D header = .ok m.header ∧
          parseParent D parent = .ok m.parentHeader ∧
          parseSlice D metadata = .ok m.metadata ∧
          parseSlice D content = .ok m.content ∧
          m.channel = channel ∧ m.buffers = buffers.map D.base64Encode := by
  constructor
  · intro h
    simp only [decodeParts, Outcome.bind_eq_ok_iff, Outcome.index_eq_ok_iff,
      Outcome.ofExcept_eq_ok_iff] at h
    obtain ⟨header, hheader, header', hheader', parent, hparent, parent', hparent',
      metadata, hmetadata, metadata', hmetadata', content, hcontent, content',
      hcontent', heq⟩ := h
    obtain ⟨signature, header₁, parent₁, metadata₁, buffers, rfl⟩ :=
      exists_cons_of_getElem?_four hcontent
    cases hheader
    cases hparent
    cases hmetadata
    cases heq
    exact ⟨signature, header, parent, metadata, content, buffers, rfl, hheader',
      hparent', hmetadata', hcontent', rfl, rfl⟩
  · rintro ⟨signature, header, parent, metadata, content, buffers, rfl,
      hheader, hparent, hmetadata, hcontent, rfl, hbuffers⟩
    simp only [decodeParts, Outcome.bind_eq_ok_iff, Outcome.index_eq_ok_iff,
      Outcome.ofExcept_eq_ok_iff]
    refine ⟨header, rfl, m.header, hheader, parent, rfl, m.parentHeader, hparent,
      metadata, rfl, m.metadata, hmetadata, content, rfl, m.content, hcontent, ?_⟩
    cases m
    cases hbuffers
    rfl

/-- Unsigned frames with the texts of a header and of a parent header decode to the
message they make up. -/
theorem toJupyter_of_json {headerText parentText : String} {header parent : WireMessageHeader}
    {metadata content : Bytes} {metadataValue contentValue : Value}
    (hheader : D.jsonFromStr headerText = some header.toValue)
    (hparent : D.jsonFromStr parentText = some parent.toValue)
    (hlength : 5 ≤ (asBytes parentText).length)
    (hmetadata : D.jsonFromSlice metadata = some metadataValue)
    (hcontent : D.jsonFromSlice content = some contentValue) (sessionId : String)
    (channel : JupyterChannel) :
    (fromZmq sessionId channel [msgDelim, [], asBytes headerText, asBytes parentText, metadata,
        content]).toJupyter D channel none =
      .ok { header := header.toJupyter, parentHeader := some parent.toJupyter, channel,
            content := contentValue, metadata := metadataValue, buffers := [] } := by
  have hwire : (fromZmq sessionId channel [msgDelim, [], asBytes headerText, asBytes parentText,
      metadata, content]).parts = [] ++ msgDelim :: [] :: asBytes headerText ::
        [asBytes parentText, metadata, content] := rfl
  rw [toJupyter_of_delim List.not_mem_nil hwire, checkSignature, Outcome.ofExcept,
    Outcome.ok_bind, decodeParts_eq_ok_iff]
  refine ⟨[], asBytes headerText, asBytes parentText, metadata, content, [], rfl,
    parseHeader_of_json hheader, ?_, ?_, ?_, rfl, rfl⟩
  · rw [parseParent, if_neg (Nat.not_lt.mpr hlength), parseHeader_of_json hparent]
    rfl
  · simp only [parseSlice, hmetadata]
  · simp only [parseSlice, hcontent]

/-- Under a key, the accepted signature frames are the empty one and the
signature of the four frames after it. -/
theorem checkSignature_eq_ok_iff {key signature : Bytes} {rest : List Bytes} :
    checkSignature D (some key) (signature :: rest) = .ok () ↔
      signature = [] ∨
        signature = asBytes (hexEncode (D.hmacSha256 key (rest.take 4).flatten)) := by
  -- A frame holds a text exactly when it is the bytes of that text.
  have hframe : ∀ text, signature = asBytes text ↔ fromUtf8 signature = some text :=
    fun text => eq_comm.trans fromUtf8_eq_some_iff.symm
  simp only [checkSignature, hframe]
  by_cases hempty : signature = []
  · simp [hempty]
  · rw [if_neg hempty]
    cases fromUtf8 signature with
    | none => simp [hempty]
    | some text =>
        by_cases htext :
            text = hexEncode (D.hmacSha256 key (rest.take 4).flatten)
        · simp [htext]
        · simp [hempty, htext]

/-- Signed decoding authenticates a message unless it is unsigned: whatever is
accepted under a key comes from frames whose signature frame is empty or is the
hexadecimal HMAC of the header, parent header, metadata and content frames the
message was decoded from. -/
theorem toJupyter_some_key {wire : WireMessage} {channel : JupyterChannel}
    {key : Bytes} {m : JupyterMessage}
    (h : wire.toJupyter D channel (some key) = .ok m) :
    ∃ ids signature header parent metadata content buffers,
      msgDelim ∉ ids ∧
        wire.parts = ids ++ msgDelim :: signature :: header :: parent ::
          metadata :: content :: buffers ∧
        parseHeader D header = .ok m.header ∧
        parseParent D parent = .ok m.parentHeader ∧
        parseSlice D metadata = .ok m.metadata ∧
        parseSlice D content = .ok m.content ∧
        (signature = [] ∨ signature = asBytes (hexEncode (D.hmacSha256 key
          (header ++ parent ++ metadata ++ content)))) := by
  unfold toJupyter at h
  split at h
  · cases h
  · next parts hparts =>
      obtain ⟨ids, hids, hwire⟩ := afterDelim_eq_some_iff.mp hparts
      obtain ⟨_, hsignature, hdecode⟩ := Outcome.bind_eq_ok_iff.mp h
      rw [Outcome.ofExcept_eq_ok_iff] at hsignature
      obtain ⟨signature, header, parent, metadata, content, buffers, rfl,
        hheader, hparent, hmetadata, hcontent, -, -⟩ :=
        decodeParts_eq_ok_iff.mp hdecode
      refine ⟨ids, signature, header, parent, metadata, content, buffers, hids,
        hwire, hheader, hparent, hmetadata, hcontent, ?_⟩
      simpa using checkSignature_eq_ok_iff.mp hsignature

/-- A header of a short message, and its text. -/
def sampleHeader : WireMessageHeader where
  msgId := "a"
  msgType := "status"
  session := "s"
  username := "u"
  date := "2025-01-01T00:00:00.000Z"
  version := "5.3"

def sampleHeaderText : String :=
  "\x7b\"msg_id\":\"a\",\"msg_type\":\"status\",\"session\":\"s\"," ++
    "\"username\":\"u\",\"date\":\"2025-01-01T00:00:00.000Z\"," ++
    "\"version\":\"5.3\"\x7d"

/-- The HMAC-SHA256 under the key `k` of the header text and three empty
objects. -/
def sampleDigest : Bytes :=
  [84, 29, 215, 249, 60, 2, 255, 148, 250, 92, 141, 195, 230, 169, 14, 199, 138,
    184, 101, 87, 126, 94, 197, 23, 242, 186, 77, 93, 119, 122, 246, 57]

/-- The library functions on the texts and bytes of the short message. -/
def sampleCodecs : Codecs where
  hmacSha256 _ _ := sampleDigest
  jsonText
    | .string s => "\"" ++ s ++ "\""
    | .object [] => "\x7b\x7d"
    | _ => "null"
  jsonFromStr text :=
    if text = sampleHeaderText then some sampleHeader.toValue else none
  jsonFromSlice bytes :=
    if bytes = asBytes "\x7b\x7d" then some (.object []) else none
  base64Encode _ := "AA=="
  base64Decode text := if text = "AA==" then some [0] else none

theorem sampleCodecs_jsonFromStr :
    sampleCodecs.jsonFromStr sampleHeaderText = some sampleHeader.toValue := by
  simp only [sampleCodecs, if_true]

theorem sampleCodecs_jsonFromSlice :
    sampleCodecs.jsonFromSlice (asBytes "\x7b\x7d") = some (.object []) := by
  simp only [sampleCodecs, if_true]

def sampleMessage : JupyterMessage where
  header := { msgId := "a", msgType := "status" }
  parentHeader := none
  channel := .ioPub
  content := .object []
  metadata := .object []
  buffers := []

/-- The short message under the given signature frame. -/
def sampleWire (signature : Bytes) : WireMessage where
  sessionId := "s"
  channel := .ioPub
  parts := [msgDelim, signature, asBytes sampleHeaderText, asBytes "\x7b\x7d",
    asBytes "\x7b\x7d", asBytes "\x7b\x7d"]

theorem emptyObject_length : (asBytes "\x7b\x7d").length < 5 := by decide

theorem sampleWire_toJupyter {signature : Bytes}
    (h : signature = [] ∨ signature = asBytes (hexEncode sampleDigest)) :
    (sampleWire signature).toJupyter sampleCodecs .ioPub (some (asBytes "k")) =
      .ok sampleMessage := by
  have hcheck : checkSignature sampleCodecs (some (asBytes "k"))
      (signature :: asBytes sampleHeaderText :: [asBytes "\x7b\x7d",
        asBytes "\x7b\x7d", asBytes "\x7b\x7d"]) = .ok () :=
    checkSignature_eq_ok_iff.mpr h
  have hwire : (sampleWire signature).parts = [] ++ msgDelim :: signature ::
      asBytes sampleHeaderText :: [asBytes "\x7b\x7d", asBytes "\x7b\x7d",
        asBytes "\x7b\x7d"] := rfl
  rw [toJupyter_of_delim List.not_mem_nil hwire, hcheck, Outcome.ofExcept,
    Outcome.ok_bind, decodeParts_eq_ok_iff]
  refine ⟨signature, asBytes sampleHeaderText,
    asBytes "\x7b\x7d", asBytes "\x7b\x7d", asBytes "\x7b\x7d", [], rfl, ?_,
    if_pos emptyObject_length, ?_, ?_, rfl, rfl⟩
  · exact parseHeader_of_json sampleCodecs_jsonFromStr
  · simp only [parseSlice, sampleCodecs_jsonFromSlice, sampleMessage]
  · simp only [parseSlice, sampleCodecs_jsonFromSlice, sampleMessage]

/-- The signed short message is accepted, and its signature frame is one of the
two that are. -/
theorem toJupyter_some_key_signed :
    let wire := sampleWire (asBytes (hexEncode sampleDigest))
    wire.toJupyter sampleCodecs .ioPub (some (asBytes "k")) = .ok sampleMessage ∧
      ∃ ids signature header parent metadata content buffers,
        msgDelim ∉ ids ∧
          wire.parts = ids ++ msgDelim :: signature :: header :: parent ::
            metadata :: content :: buffers ∧
          (signature = [] ∨ signature = asBytes (hexEncode
            (sampleCodecs.hmacSha256 (asBytes "k")
              (header ++ parent ++ metadata ++ content)))) := by
  have hok : (sampleWire (asBytes (hexEncode sampleDigest))).toJupyter sampleCodecs .ioPub
      (some (asBytes "k")) = .ok sampleMessage := sampleWire_toJupyter (Or.inr rfl)
  obtain ⟨ids, signature, header, parent, metadata, content, buffers, hids, hparts,
    -, -, -, -, hsignature⟩ := toJupyter_some_key hok
  exact ⟨hok, ids, signature, header, parent, metadata, content, buffers, hids,
    hparts, hsignature⟩

/-- The same message without a signature is accepted under the key, although its
empty signature frame is not the HMAC of anything. -/
theorem toJupyter_unsigned :
    (sampleWire []).toJupyter sampleCodecs .ioPub (some (asBytes "k")) =
        .ok sampleMessage ∧
      (sampleWire []).parts[1]? = some [] ∧
      ∀ signed, [] ≠ asBytes (hexEncode
        (sampleCodecs.hmacSha256 (asBytes "k") signed)) := by
  have hne : [] ≠ asBytes (hexEncode sampleDigest) := by decide
  exact ⟨sampleWire_toJupyter (Or.inl rfl), rfl, fun _ => hne⟩

/-! ## Frames out of range -/

/-- Something in the frames that are there fails before a missing one is
reached: the signature, the header, the parent header or the metadata. -/
def FailsEarly (D : Codecs) (hmacKey : Option Bytes) (parts : List Bytes) : Prop :=
  checkSignature D hmacKey parts ≠ .ok () ∨
    (∃ buf, parts[1]? = some buf ∧ ∀ header, parseHeader D buf ≠ .ok header) ∨
    (∃ buf, parts[2]? = some buf ∧ ∀ parent, parseParent D buf ≠ .ok parent) ∨
    (∃ buf, parts[3]? = some buf ∧ ∀ metadata, parseSlice D buf ≠ .ok metadata)

/-- The frames after the delimiter, if there is one, are all the decoder asks
for, or make it fail before it asks for a missing one. -/
def InRange (D : Codecs) (hmacKey : Option Bytes) (frames : List Bytes) : Prop :=
  ∀ parts, afterDelim frames = some parts →
    5 ≤ parts.length ∨ FailsEarly D hmacKey parts

theorem decodeParts_eq_panic_iff {channel : JupyterChannel} {parts : List Bytes} :
    decodeParts D channel parts = .panic ↔
      parts.length < 5 ∧
        (∀ buf, parts[1]? = some buf → ∃ header, parseHeader D buf = .ok header) ∧
        (∀ buf, parts[2]? = some buf → ∃ parent, parseParent D buf = .ok parent) ∧
        (∀ buf, parts[3]? = some buf →
          ∃ metadata, parseSlice D buf = .ok metadata) := by
  simp only [decodeParts, Outcome.bind_eq_panic_iff, Outcome.index_eq_ok_iff,
    Outcome.index_eq_panic_iff, Outcome.ofExcept_eq_ok_iff,
    Outcome.ofExcept_ne_panic, false_or]
  rcases parts with _ | ⟨_, _ | ⟨_, _ | ⟨_, _ | ⟨_, _ | ⟨_, buffers⟩⟩⟩⟩⟩
  · simp
  · simp
  · simp
  · simp
  · simp
  · have hlen : ¬ buffers.length + 1 + 1 + 1 + 1 + 1 < 5 := by omega
    simp [hlen]

theorem not_failsEarly_iff {hmacKey : Option Bytes} {parts : List Bytes} :
    ¬ FailsEarly D hmacKey parts ↔
      checkSignature D hmacKey parts = .ok () ∧
        (∀ buf, parts[1]? = some buf → ∃ header, parseHeader D buf = .ok header) ∧
        (∀ buf, parts[2]? = some buf → ∃ parent, parseParent D buf = .ok parent) ∧
        (∀ buf, parts[3]? = some buf →
          ∃ metadata, parseSlice D buf = .ok metadata) := by
  simp only [FailsEarly, ne_eq, not_or, not_not, not_exists, not_and, not_forall]

/-- Decoding returns a message or an error exactly when no frame it asks for is
missing. -/
theorem toJupyter_ne_panic_iff {wire : WireMessage} {channel : JupyterChannel}
    {hmacKey : Option Bytes} :
    wire.toJupyter D channel hmacKey ≠ .panic ↔ InRange D hmacKey wire.parts := by
  unfold toJupyter InRange
  cases hparts : afterDelim wire.parts with
  | none => simp
  | some parts =>
      have hpanic : (Outcome.ofExcept (checkSignature D hmacKey parts) >>= fun _ =>
          decodeParts D channel parts) = .panic ↔
          ¬ (5 ≤ parts.length ∨ FailsEarly D hmacKey parts) := by
        rw [not_or, Nat.not_le, not_failsEarly_iff]
        simp only [Outcome.bind_eq_panic_iff, Outcome.ofExcept_ne_panic,
          Outcome.ofExcept_eq_ok_iff, decodeParts_eq_panic_iff, false_or]
        constructor
        · rintro ⟨_, hsignature, hlen, hfields⟩
          exact ⟨hlen, hsignature, hfields⟩
        · rintro ⟨hlen, hsignature, hfields⟩
          exact ⟨_, hsignature, hlen, hfields⟩
      simp only [Option.some.injEq, forall_eq']
      exact (not_congr hpanic).trans not_not

end WireMessage

end Kallichore
