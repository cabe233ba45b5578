import SqlClient.Proofs.Transport.Framing

namespace SqlClient.Packet

section Write

variable {stream : ByteStream}

theorem flatten_pieces (payload : Bytes) : (pieces payload).flatten = frame UInt8.ofNat payload := by
  rw [pieces, frame, List.flatten_eq_flatMap, List.flatMap_assoc]
  congr 1
  funext ⟨part, index⟩
  by_cases hpart : part = []
  · simp [hpart, framePart, headerFor]
  · simp [hpart, framePart, headerFor]

theorem frame_of_lt {payload : Bytes} (h : payload.length < maxPayload) (sequence : Nat → UInt8) :
    frame sequence payload = framePart payload (sequence 0) := by
  rw [frame, parts, if_pos h, List.zipIdx_singleton, List.flatMap_singleton]

/-- A command goes out as the frame of its payload, whatever stands in the room in front of it. -/
theorem written_write (h : stream.Accepting) {packet : Bytes}
    (hreserve : reserve ≤ packet.length) :
    (write packet stream).stream.written =
      stream.written ++ frame UInt8.ofNat (packet.drop reserve) := by
  unfold write
  rw [if_neg (Nat.not_lt.mpr hreserve)]
  by_cases hone : (packet.drop reserve).length < maxPayload
  · simp only [hone, if_true, h.transmit_eq, frame_of_lt hone]
    simp [ByteStream.written, headerFor, framePart]
  · simp only [hone, if_false, h.transmit_eq]
    simp [ByteStream.written, flatten_pieces]

def writeEach : List Bytes → ByteStream → Except Error Unit × ByteStream
  | [], stream => (.ok (), stream)
  | packet :: packets, stream =>
    let written := write packet stream
    match written.outcome with
    | .error error => (.error error, written.stream)
    | .ok () => writeEach packets written.stream

theorem exists_writeEach (h : stream.Accepting) {packets : List Bytes}
    (hreserve : ∀ packet ∈ packets, reserve ≤ packet.length) :
    ∃ wire, writeEach packets stream = (.ok (), wire) ∧
      wire.written = stream.written ++
        packets.flatMap fun packet ↦ frame UInt8.ofNat (packet.drop reserve) := by
  induction packets generalizing stream with
  | nil => exact ⟨stream, rfl, (List.append_nil _).symm⟩
  | cons packet packets ih =>
    have hpacket := hreserve packet (List.mem_cons_self ..)
    obtain ⟨wire, hrest, hwritten⟩ := ih (accepting_write h packet) fun packet' hmem ↦
      hreserve packet' (.tail _ hmem)
    refine ⟨wire, ?_, ?_⟩
    · rw [writeEach, outcome_write h hpacket]
      exact hrest
    · rw [hwritten, written_write h hpacket, List.flatMap_cons, List.append_assoc]

end Write

/-- Reads payloads one after the other into one buffer. Gives the sequence number and the content of
the buffer after each read. -/
def readEach : Nat → Bytes → ByteStream → Except Error (List (UInt8 × Bytes)) × ByteStream
  | 0, _, stream => (.ok [], stream)
  | count + 1, buffer, stream =>
    match readInto buffer stream with
    | (.error error, stream) => (.error error, stream)
    | (.ok (sequence, buffer), stream) =>
      let (result, stream) := readEach count buffer stream
      (result.map ((sequence, buffer) :: ·), stream)

theorem readInto_of_frame {stream : ByteStream} {sequence : Nat → UInt8} {payload rest : Bytes}
    (h : stream.incoming = frame sequence payload ++ rest) (buffer : Bytes) :
    readInto buffer stream =
      (.ok (sequence (payload.length / maxPayload), payload), { stream with incoming := rest }) := by
  rw [readInto_eq_read, read, h, read?_frame]

theorem readEach_frames {stream : ByteStream} {sequence : Nat → UInt8} {payloads : List Bytes}
    {rest : Bytes} (h : stream.incoming = payloads.flatMap (frame sequence) ++ rest)
    (buffer : Bytes) :
    readEach payloads.length buffer stream =
      (.ok (payloads.map fun payload ↦ (sequence (payload.length / maxPayload), payload)),
        { stream with incoming := rest }) := by
  induction payloads generalizing stream buffer with
  | nil =>
    rw [List.flatMap_nil, List.nil_append] at h
    rw [List.length_nil, readEach, ← h]
    rfl
  | cons payload payloads ih =>
    rw [List.flatMap_cons, List.append_assoc] at h
    rw [List.length_cons, readEach, readInto_of_frame h]
    dsimp only
    rw [ih rfl]
    rfl

/-- Payloads that are written one after the other, each behind four bytes of room, are read back in
order from the bytes on the wire, and what follows these is left. The number of the last part of a
payload is the number of full parts in front of it, as far as a byte can hold it. -/
theorem delivered (commands : List (Vector UInt8 reserve × Bytes)) (reader : ByteStream)
    (buffer suffix : Bytes) :
    ∃ wire, writeEach (commands.map fun (room, payload) ↦ room.toList ++ payload)
        { incoming := [] } = (.ok (), wire) ∧
      readEach commands.length buffer { reader with incoming := wire.written ++ suffix } =
        (.ok (commands.map fun (_, payload) ↦
          (UInt8.ofNat (payload.length / maxPayload % 256), payload)),
          { reader with incoming := suffix }) := by
  have hreserve : ∀ packet ∈ commands.map fun (room, payload) ↦ room.toList ++ payload,
      reserve ≤ packet.length := by
    intro packet hpacket
    obtain ⟨⟨room, payload⟩, -, rfl⟩ := List.mem_map.mp hpacket
    simp
  have haccepts : ({ incoming := [] } : ByteStream).Accepting := ⟨fun _ ↦ rfl, fun _ ↦ rfl⟩
  obtain ⟨wire, hwrite, hwritten⟩ := exists_writeEach haccepts hreserve
  have hframes : wire.written = (commands.map Prod.snd).flatMap (frame UInt8.ofNat) := by
    rw [hwritten, List.flatMap_map, List.flatMap_map]
    simp [ByteStream.written]
  have hincoming : { reader with incoming := wire.written ++ suffix }.incoming =
      (commands.map Prod.snd).flatMap (frame UInt8.ofNat) ++ suffix := by rw [hframes]
  have hread := readEach_frames hincoming buffer
  rw [List.length_map, List.map_map] at hread
  have hnumber (count : Nat) : UInt8.ofNat (count % 256) = UInt8.ofNat count := by
    simp [← UInt8.toNat_inj]
  refine ⟨wire, hwrite, ?_⟩
  simp only [hnumber]
  exact hread

end SqlClient.Packet
