import SqlClient.Proofs.Codec.RoundTrip
import SqlClient.Proofs.Response.Kind
import SqlClient.Proofs.Text.Utf8

namespace SqlClient.ServerError

open Response Decoder

variable (caps : Capabilities) (report : ServerError)

/-- Only sessions of the newer protocol have a state, and a marker in front of it. -/
def encodeState : Bytes :=
  if caps.has Capabilities.protocol41 then stateMarker :: Utf8.encode report.state else []

def encode : Bytes :=
  Encoder.byte errorHeader ++
    (Encoder.uint16 report.code ++ (report.encodeState caps ++ Utf8.encode report.message))

/-- The state has the five bytes that there is room for, or there is no room for one. -/
def Sendable : Prop :=
  if caps.has Capabilities.protocol41 then (Utf8.encode report.state).length = 5
  else report.state = ""

variable {caps report}

theorem ofResponse_eq_server_iff {packet : Bytes} {report : ServerError} :
    Error.ofResponse packet = .server report ↔ decode packet = .ok report := by
  refine ⟨fun h ↦ ?_, ofResponse_of_serverError⟩
  obtain ⟨report', hdecode, hserver⟩ | hbreaks := ofResponse_cases packet
  · cases h.symm.trans hserver
    exact hdecode
  · rw [h] at hbreaks
    cases hbreaks

theorem isError_encode (caps : Capabilities) (report : ServerError) :
    isError (report.encode caps) := rfl

theorem decoder_encode (caps : Capabilities) (report : ServerError) :
    decoder (report.encode caps) =
      match decodeState (report.encodeState caps ++ Utf8.encode report.message) with
      | .error error => .error error
      | .ok (state, message) =>
        .ok (⟨report.code, Utf8.decodeLossy state, Utf8.decodeLossy message⟩, []) := by
  have hheader : ¬ errorHeader ≠ errorHeader := by simp
  unfold decoder encode
  rw [bind_of_ok (byte_encode _ _), if_neg hheader]
  dsimp only
  rw [bind_of_ok (uint16_encode _ _), bind_apply]
  cases decodeState (report.encodeState caps ++ Utf8.encode report.message) <;> rfl

theorem decodeState_of_marker (rest : Bytes) :
    decodeState (stateMarker :: rest) = take 5 rest := by
  have hfirst : (stateMarker :: rest).head? = some stateMarker := rfl
  have hread : byte (stateMarker :: rest) = .ok (stateMarker, rest) := rfl
  rw [decodeState, bind_of_ok (get_apply _), if_pos hfirst, bind_of_ok hread]

theorem decodeState_of_head? {rest : Bytes} (h : rest.head? ≠ some stateMarker) :
    decodeState rest = .ok ([], rest) := by
  rw [decodeState, bind_of_ok (get_apply _), if_neg h, pure_apply]

theorem head?_message (message : String) :
    (Utf8.encode message).head? = some stateMarker ↔ message.toList.head? = some '#' := by
  have hascii : '#'.toNat < 0x80 := by decide
  exact Utf8.head?_encode message hascii

theorem decode_of_decodeState {state message : Bytes}
    (h : decodeState (report.encodeState caps ++ Utf8.encode report.message) = .ok (state, message)) :
    decode (report.encode caps) =
      .ok ⟨report.code, Utf8.decodeLossy state, Utf8.decodeLossy message⟩ := by
  rw [decode, Decoder.decode, decoder_encode, h]
  rfl

theorem decode_encode_of_protocol41 (hcaps : caps.has Capabilities.protocol41 = true)
    (hstate : (Utf8.encode report.state).length = 5) :
    decode (report.encode caps) = .ok report := by
  have hread := take_append (Utf8.encode report.message) (Utf8.encode report.state)
  rw [hstate, ← decodeState_of_marker, ← List.cons_append] at hread
  rw [decode_of_decodeState (by rw [encodeState, if_pos hcaps, hread])]
  simp only [Utf8.decodeLossy_encode]

/-- What is taken for a state is not empty. -/
theorem decode_encode_ne (hencode : report.encodeState caps = []) (hstate : report.state = "")
    (hmarker : report.message.toList.head? = some '#') : decode (report.encode caps) ≠ .ok report := by
  intro hdecode
  obtain ⟨rest, hrest⟩ := List.head?_eq_some_iff.mp ((head?_message _).mpr hmarker)
  rw [decode, Decoder.decode, decoder_encode, hencode, hrest, List.nil_append,
    decodeState_of_marker] at hdecode
  cases htake : take 5 rest with
  | error error =>
    rw [htake] at hdecode
    cases hdecode
  | ok taken =>
    obtain ⟨state, message⟩ := taken
    obtain ⟨-, hlength⟩ := take_eq_ok.mp htake
    have hne : state ≠ [] := List.ne_nil_of_length_eq_add_one hlength
    rw [htake] at hdecode
    have hreport := Except.ok.inj hdecode
    exact Utf8.decodeLossy_ne_empty hne ((congrArg ServerError.state hreport).trans hstate)

/-- Without a place for the state, a text that starts with the marker is taken for one. -/
theorem decode_encode_iff (h : report.Sendable caps) :
    decode (report.encode caps) = .ok report ↔
      caps.has Capabilities.protocol41 = true ∨ report.message.toList.head? ≠ some '#' := by
  unfold Sendable at h
  split at h
  · next hcaps => exact iff_of_true (decode_encode_of_protocol41 hcaps h) (.inl hcaps)
  next hcaps =>
  have hencode : report.encodeState caps = [] := if_neg hcaps
  rw [or_iff_right hcaps]
  constructor
  · intro hdecode hmarker
    exact decode_encode_ne hencode h hmarker hdecode
  · intro hmarker
    have hread := decodeState_of_head? (mt (head?_message _).mp hmarker)
    have hempty : Utf8.decodeLossy [] = report.state := (Utf8.decodeLossy_encode "").trans h.symm
    rw [decode_of_decodeState (by rw [hencode, List.nil_append, hread]), hempty,
      Utf8.decodeLossy_encode]

end SqlClient.ServerError
