import SqlClient.Proofs.Codec.RoundTrip
import SqlClient.Proofs.Text.Utf8
import SqlClient.Response.Ok

namespace SqlClient.OkResponse

open Response Decoder

structure Fields where
  header : UInt8
  affectedRows : UInt64
  lastInsertId : UInt64
  statusBits : UInt16
  warnings : UInt16
  header_eq : header = okHeader ∨ header = eofHeader

namespace Fields

variable (fields : Fields) (caps : Capabilities) (info : String)

def encodeStatus : Bytes :=
  if caps.has Capabilities.protocol41 then
    Encoder.uint16 fields.statusBits ++ Encoder.uint16 fields.warnings
  else if caps.has Capabilities.transactions then Encoder.uint16 fields.statusBits
  else []

def encode : Bytes :=
  Encoder.byte fields.header ++ (Encoder.lenencInt fields.affectedRows ++
    (Encoder.lenencInt fields.lastInsertId ++ fields.encodeStatus caps))

/-- Status word and warning count, zero where the session has no place for them. -/
def heard : UInt16 × UInt16 :=
  if caps.has Capabilities.protocol41 then (fields.statusBits, fields.warnings)
  else if caps.has Capabilities.transactions then (fields.statusBits, 0)
  else (0, 0)

def response : OkResponse where
  affectedRows := fields.affectedRows
  lastInsertId := fields.lastInsertId
  status := .ofBits (fields.heard caps).1.toNat
  warnings := (fields.heard caps).2
  info

/-- The ways to lay out the text. With session tracking its length stands in front of it, anything may
follow it, and an empty one may be left out; else it is the rest of the packet. -/
inductive EncodesInfo : Bytes → Prop
  | tracked (rest : Bytes) : caps.has Capabilities.sessionTrack = true →
      EncodesInfo (Encoder.lenencString info ++ rest)
  | omitted : caps.has Capabilities.sessionTrack = true → info = "" → EncodesInfo []
  | plain : caps.has Capabilities.sessionTrack = false → EncodesInfo (Utf8.encode info)

theorem header_known : ¬ (fields.header ≠ okHeader ∧ fields.header ≠ eofHeader) := by
  rw [not_and_or, not_not, not_not]
  exact fields.header_eq

theorem readsExactly_status :
    (decodeStatus caps).ReadsExactly (fields.encodeStatus caps) (fields.heard caps) := by
  unfold decodeStatus encodeStatus heard
  split
  · exact (readsExactly_uint16 _).bind ((readsExactly_uint16 _).bind_pure _)
  split
  · exact (readsExactly_uint16 _).bind_pure _
  · exact readsExactly_pure _

theorem decode_encode_append (tail : Bytes) :
    decode caps (fields.encode caps ++ tail) =
      ((decodeInfo caps).decode tail).map fun info ↦ fields.response caps (Utf8.decodeLossy info) := by
  unfold decode decoder encode Decoder.decode
  simp only [List.append_assoc]
  rw [bind_of_ok ((readsExactly_byte _).ok _), if_neg fields.header_known,
    bind_of_ok ((readsExactly_lenencInt _).ok _), bind_of_ok ((readsExactly_lenencInt _).ok _),
    bind_of_ok ((fields.readsExactly_status caps).ok _), bind_apply]
  cases decodeInfo caps tail <;> rfl

theorem needs_encode : (decoder caps).Needs (fields.encode caps) := by
  unfold encode
  apply (readsExactly_byte _).needs_bind
  rw [if_neg fields.header_known]
  apply (readsExactly_lenencInt _).needs_bind
  apply (readsExactly_lenencInt _).needs_bind
  rw [← List.append_nil (fields.encodeStatus caps)]
  exact (fields.readsExactly_status caps).needs_bind (needs_nil _)

variable {caps info}

theorem decodeInfo_of_sessionTrack (hcaps : caps.has Capabilities.sessionTrack = true) {tail : Bytes}
    (htail : tail ≠ []) : decodeInfo caps tail = lenencString tail := by
  have hsome : ¬ tail.isEmpty = true := by simpa using htail
  rw [decodeInfo, if_pos hcaps, bind_of_ok (get_apply tail), if_neg hsome]

theorem EncodesInfo.decode_eq (hinfo : (Utf8.encode info).length < UInt64.size) {tail : Bytes}
    (h : EncodesInfo caps info tail) : (decodeInfo caps).decode tail = .ok (Utf8.encode info) := by
  cases h with
  | tracked rest hcaps =>
    have hread := (readsExactly_lenencString hinfo).ok rest
    have hsome : Encoder.lenencString info ++ rest ≠ [] := by
      intro hnil
      rw [hnil] at hread
      cases hread
    exact decode_of_ok ((decodeInfo_of_sessionTrack hcaps hsome).trans hread)
  | omitted hcaps hempty =>
    have hread : decodeInfo caps [] = .ok ([], []) := by
      rw [decodeInfo, if_pos hcaps]
      rfl
    rw [hempty]
    exact decode_of_ok hread
  | plain hcaps =>
    have hread : decodeInfo caps (Utf8.encode info) = .ok (Utf8.encode info, []) := by
      rw [decodeInfo, hcaps]
      rfl
    exact decode_of_ok hread

theorem decode_of_header {first : UInt8} (rest : Bytes) (hok : first ≠ okHeader)
    (heof : first ≠ eofHeader) : decode caps (first :: rest) = .error .invalidPacket := by
  have hheader : first ≠ okHeader ∧ first ≠ eofHeader := ⟨hok, heof⟩
  have hread : byte (first :: rest) = .ok (first, rest) := rfl
  unfold decode decoder Decoder.decode
  rw [bind_of_ok hread, if_pos hheader]
  rfl

/-- Numbers and text come out as the server put them in; a packet that breaks off where more must
follow is too short, and one with another header is none at all. -/
theorem decoded_by_layout (caps : Capabilities) {info : String}
    (hinfo : (Utf8.encode info).length < UInt64.size) :
    (∀ tail, EncodesInfo caps info tail →
      decode caps (fields.encode caps ++ tail) = .ok (fields.response caps info)) ∧
    (∀ cut, cut <+: fields.encode caps → cut ≠ fields.encode caps →
      decode caps cut = .error .unexpectedEof) ∧
    (∀ first rest, first ≠ okHeader → first ≠ eofHeader →
      decode caps (first :: rest) = .error .invalidPacket) ∧
    (caps.has Capabilities.sessionTrack = true →
      ∀ cut, cut <+: Encoder.lenencString info → cut ≠ [] → cut ≠ Encoder.lenencString info →
        decode caps (fields.encode caps ++ cut) = .error .unexpectedEof) := by
  refine ⟨?_, ?_, fun _ rest ↦ decode_of_header rest, ?_⟩
  · intro tail htail
    rw [decode_encode_append, htail.decode_eq hinfo, Except.map, Utf8.decodeLossy_encode]
  · intro cut hcut hne
    rw [decode, Decoder.decode, fields.needs_encode caps hcut hne]
    rfl
  · intro hcaps cut hcut hsome hne
    have hread := (readsExactly_lenencString hinfo).needs hcut hne
    rw [decode_encode_append, Decoder.decode, decodeInfo_of_sessionTrack hcaps hsome, hread]
    rfl

def announcing : Fields where
  header := 0xFE
  affectedRows := 300
  lastInsertId := 7
  statusBits := 0x8008
  warnings := 5
  header_eq := .inr rfl

theorem announcing_decoded :
    (Utf8.encode "ok").length < UInt64.size ∧
      decode (.ofFlags [Capabilities.transactions, Capabilities.sessionTrack])
          [0xFE, 0xFC, 0x2C, 0x01, 7, 0x08, 0x80, 2, 0x6F, 0x6B, 0xAA] =
        .ok ⟨300, 7, .ofBits 0x8008, 0, "ok"⟩ ∧
      decode (.ofFlags [Capabilities.transactions, Capabilities.sessionTrack])
          [0xFE, 0xFC, 0x2C, 0x01, 7, 0x08, 0x80, 2, 0x6F] = .error .unexpectedEof := by
  have hinfo : (Utf8.encode "ok").length < UInt64.size := by decide
  have hcaps : (.ofFlags [Capabilities.transactions, Capabilities.sessionTrack] : Capabilities).has
      Capabilities.sessionTrack = true := by decide
  obtain ⟨hdecode, -, -, hcut⟩ := announcing.decoded_by_layout
    (.ofFlags [Capabilities.transactions, Capabilities.sessionTrack]) hinfo
  exact ⟨hinfo, hdecode _ (.tracked [0xAA] hcaps), hcut hcaps [2, 0x6F] (by decide) (by decide)
    (by decide)⟩

end Fields

end SqlClient.OkResponse
