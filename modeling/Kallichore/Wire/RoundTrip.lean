import Kallichore.Wire.Decode

/-!
# Decoding an encoded message

The encoder and the decoder agree on where each part goes: whatever identities
stand before the delimiter, the frames `fromJupyter` builds decode to the
message they were built from. The parent header is told from an absent one by
its length, so its text has to be long enough; a buffer is found by its
position, so it may look like anything, a delimiter included.

What is used of the libraries is that the JSON texts of this message parse back
(`JsonRoundTrips`) and that its buffers are canonical base64.
-/

namespace Kallichore

theorem asBytes_append (s t : String) : asBytes (s ++ t) = asBytes s ++ asBytes t := by
  simp [asBytes]

theorem length_asBytes_le_append (s t : String) :
    (asBytes s).length ≤ (asBytes (s ++ t)).length := by
  rw [asBytes_append, List.length_append]
  exact Nat.le_add_right _ _

/-- The header text is too long for an absent parent: its first key alone is. -/
theorem WireMessageHeader.length_jsonText (D : Codecs) (header : WireMessageHeader) :
    5 ≤ (asBytes (header.jsonText D)).length := by
  have hopen : 5 ≤ (asBytes "\x7b\"msg_id\":").length := by decide
  unfold jsonText
  iterate 12 refine Nat.le_trans ?_ (length_asBytes_le_append _ _)
  exact hopen

namespace WireMessage

variable {D : Codecs} {date parentDate : String} {m : JupyterMessage}
  {connection : KernelConnection}

/-- The wire header of a Jupyter header on this connection. -/
def headerOn (connection : KernelConnection) (date : String)
    (header : JupyterMessageHeader) : WireMessageHeader :=
  .new header connection.sessionId connection.username connection.protocolVersion date

/-- The JSON texts written for the message parse back to what they stand for. -/
structure JsonRoundTrips (D : Codecs) (date parentDate : String)
    (connection : KernelConnection) (m : JupyterMessage) : Prop where
  header : D.jsonFromStr ((headerOn connection date m.header).jsonText D) =
    some (headerOn connection date m.header).toValue
  parent : ∀ parent, m.parentHeader = some parent →
    D.jsonFromStr ((headerOn connection parentDate parent).jsonText D) =
      some (headerOn connection parentDate parent).toValue
  metadata : D.jsonFromSlice (asBytes (D.jsonText m.metadata)) = some m.metadata
  content : D.jsonFromSlice (asBytes (D.jsonText m.content)) = some m.content

/-- The text is what `base64Encode` gives for some bytes, and decodes to them. -/
def CanonicalBase64 (D : Codecs) (text : String) : Prop :=
  ∃ bytes, D.base64Decode text = some bytes ∧ D.base64Encode bytes = text

theorem parseHeader_headerOn {header : JupyterMessageHeader}
    (h : D.jsonFromStr ((headerOn connection date header).jsonText D) =
      some (headerOn connection date header).toValue) :
    parseHeader D (asBytes ((headerOn connection date header).jsonText D)) =
      .ok header :=
  parseHeader_of_json h

/-- The text of the parent header, or of the empty map that stands for none. -/
def parentText (D : Codecs) (connection : KernelConnection) (parentDate : String)
    (m : JupyterMessage) : String :=
  match m.parentHeader with
  | some parent => (headerOn connection parentDate parent).jsonText D
  | none => "\x7b\x7d"

theorem parseParent_parentText
    (h : JsonRoundTrips D date parentDate connection m) :
    parseParent D (asBytes (parentText D connection parentDate m)) =
      .ok m.parentHeader := by
  unfold parseParent parentText
  cases hparent : m.parentHeader with
  | none => exact if_pos emptyObject_length
  | some parent =>
      have hlen := (headerOn connection parentDate parent).length_jsonText D
      simp only
      rw [if_neg (Nat.not_lt.mpr hlen), parseHeader_headerOn (h.parent parent hparent)]
      rfl

theorem mapM_base64Decode {texts : List String}
    (h : ∀ text ∈ texts, CanonicalBase64 D text) :
    ∃ buffers, texts.mapM D.base64Decode = some buffers ∧
      buffers.map D.base64Encode = texts := by
  induction texts with
  | nil => exact ⟨[], rfl, rfl⟩
  | cons text texts ih =>
      obtain ⟨bytes, hdecode, hencode⟩ := h text List.mem_cons_self
      obtain ⟨buffers, hbuffers, hback⟩ :=
        ih fun other hother => h other (List.mem_cons_of_mem _ hother)
      refine ⟨bytes :: buffers, ?_, ?_⟩
      · simp [List.mapM_cons, hdecode, hbuffers]
      · rw [List.map_cons, hencode, hback]

/-- The frames built for a message: its signature, the four signed parts and the
decoded buffers. -/
theorem parts_of_fromJupyter {w : WireMessage} {buffers : List Bytes}
    (hbuffers : m.buffers.mapM D.base64Decode = some buffers)
    (h : fromJupyter D date parentDate m connection = .ok w) :
    let parts := [asBytes ((headerOn connection date m.header).jsonText D),
      asBytes (parentText D connection parentDate m),
      asBytes (D.jsonText m.metadata), asBytes (D.jsonText m.content)]
    w = { sessionId := connection.sessionId
          channel := m.channel
          parts := sign D connection.hmacKey parts :: parts ++ buffers } := by
  unfold fromJupyter at h
  simp only [hbuffers] at h
  cases h
  cases hparent : m.parentHeader with
  | none => simp [parentText, headerOn, hparent]
  | some parent => simp [parentText, headerOn, hparent]

theorem checkSignature_sign (hmacKey : Option Bytes)
    (header parent metadata content : Bytes) (buffers : List Bytes) :
    checkSignature D hmacKey (sign D hmacKey [header, parent, metadata, content] ::
      header :: parent :: metadata :: content :: buffers) = .ok () := by
  cases hmacKey with
  | none => rfl
  | some key => exact checkSignature_eq_ok_iff.mpr (Or.inr rfl)

/-- Encoding then decoding gives the message back, whatever identities other
than the delimiter come first; in particular as the message is sent on its own
channel, if the session ID is not the delimiter. -/
theorem toJupyter_fromJupyter {w : WireMessage} {ids : List Bytes}
    (hjson : JsonRoundTrips D date parentDate connection m)
    (hbase64 : ∀ text ∈ m.buffers, CanonicalBase64 D text)
    (hids : msgDelim ∉ ids)
    (hw : fromJupyter D date parentDate m connection = .ok w)
    (sessionId : String) (channel : JupyterChannel) :
    (fromZmq sessionId channel (ids ++ msgDelim :: w.parts)).toJupyter D m.channel
        connection.hmacKey = .ok m ∧
      (asBytes connection.sessionId ≠ msgDelim →
        (fromZmq sessionId channel w.toZmq).toJupyter D m.channel
          connection.hmacKey = .ok m) := by
  obtain ⟨buffers, hbuffers, hback⟩ := mapM_base64Decode hbase64
  have hparts := parts_of_fromJupyter hbuffers hw
  have hdecode : ∀ ids, msgDelim ∉ ids → ∀ wire : WireMessage,
      wire.parts = ids ++ msgDelim :: w.parts →
        wire.toJupyter D m.channel connection.hmacKey = .ok m := by
    intro ids hids wire hwire
    rw [toJupyter_of_delim hids hwire, hparts]
    simp only [List.cons_append, List.nil_append, checkSignature_sign,
      Outcome.ofExcept, Outcome.ok_bind]
    rw [decodeParts_eq_ok_iff]
    refine ⟨_, _, _, _, _, buffers, rfl, parseHeader_headerOn hjson.header,
      parseParent_parentText hjson, ?_, ?_, rfl, hback.symm⟩
    · simp [parseSlice, hjson.metadata]
    · simp [parseSlice, hjson.content]
  refine ⟨hdecode ids hids _ rfl, fun hsession => ?_⟩
  have hchannel : w.channel = m.channel := by rw [hparts]
  have hsessionId : w.sessionId = connection.sessionId := by rw [hparts]
  -- Shell and stdin frames start with the session ID, the others with the
  -- delimiter itself.
  by_cases hshared : m.channel = .shell ∨ m.channel = .stdin
  · apply hdecode [asBytes connection.sessionId] (by simpa using hsession.symm) _
    rcases hshared with heq | heq <;>
      simp [fromZmq, toZmq, hchannel, hsessionId, heq]
  · apply hdecode [] List.not_mem_nil _
    rw [not_or] at hshared
    simp only [fromZmq, toZmq, hchannel]
    split
    · exact absurd ‹_› hshared.1
    · exact absurd ‹_› hshared.2
    · rfl

def sampleConnection : KernelConnection where
  sessionId := "s"
  username := "u"
  key := some "k"
  protocolVersion := "5.3"
  hmacKey := some (asBytes "k")

def sampleBuffered : JupyterMessage := { sampleMessage with buffers := ["AA=="] }

theorem sampleBuffered_roundTrips :
    JsonRoundTrips sampleCodecs sampleHeader.date sampleHeader.date sampleConnection
      sampleBuffered where
  header := by
    have htext : sampleHeader.jsonText sampleCodecs = sampleHeaderText := by decide
    change sampleCodecs.jsonFromStr (sampleHeader.jsonText sampleCodecs) = _
    rw [htext, sampleCodecs_jsonFromStr]
    rfl
  parent := by simp [sampleBuffered, sampleMessage]
  metadata := sampleCodecs_jsonFromSlice
  content := sampleCodecs_jsonFromSlice

theorem sampleBuffered_base64 :
    ∀ text ∈ sampleBuffered.buffers, CanonicalBase64 sampleCodecs text := by
  intro text htext
  have heq : text = "AA==" := by simpa [sampleBuffered] using htext
  exact ⟨[0], by rw [heq]; rfl, heq.symm⟩

/-- The short message, signed and with a buffer, encodes, and decodes back
behind an identity frame. -/
theorem toJupyter_fromJupyter_sample :
    ∃ w, fromJupyter sampleCodecs sampleHeader.date sampleHeader.date
        sampleBuffered sampleConnection = .ok w ∧
      (fromZmq "s" .ioPub ([[0]] ++ msgDelim :: w.parts)).toJupyter
        sampleCodecs .ioPub (some (asBytes "k")) = .ok sampleBuffered := by
  have hids : msgDelim ∉ ([[0]] : List Bytes) := by decide
  refine ⟨_, rfl, (toJupyter_fromJupyter sampleBuffered_roundTrips
    sampleBuffered_base64 hids rfl "s" .ioPub).1⟩

end WireMessage

end Kallichore
