import SqlClient.Proofs.Transport.Reads

namespace SqlClient

namespace ByteStream

theorem exists_write (piece : Bytes) (stream : ByteStream) :
    ∃ sent writes, (stream.write piece).2 = { stream with sent, writes } := by
  unfold write
  dsimp only
  split <;> exact ⟨_, _, rfl⟩

theorem exists_writeAll (pieces : List Bytes) (stream : ByteStream) :
    ∃ sent writes, (stream.writeAll pieces).2 = { stream with sent, writes } := by
  induction pieces generalizing stream with
  | nil => exact ⟨_, _, rfl⟩
  | cons piece pieces ih =>
    obtain ⟨sent, writes, hwrite⟩ := exists_write piece stream
    rw [writeAll]
    generalize stream.write piece = done at hwrite ⊢
    obtain ⟨error | _, stream'⟩ := done
    · exact ⟨sent, writes, hwrite⟩
    · cases hwrite
      exact ih _

theorem exists_flush (stream : ByteStream) :
    ∃ flushes, stream.flush.2 = { stream with flushes } := by
  unfold flush
  dsimp only
  split <;> exact ⟨_, rfl⟩

theorem exists_transmit (pieces : List Bytes) (stream : ByteStream) :
    ∃ sent writes flushes, (stream.transmit pieces).2 = { stream with sent, writes, flushes } := by
  obtain ⟨sent, writes, hwrite⟩ := exists_writeAll pieces stream
  rw [transmit]
  generalize stream.writeAll pieces = done at hwrite ⊢
  obtain ⟨error | _, stream'⟩ := done
  · exact ⟨sent, writes, stream.flushes, hwrite⟩
  · cases hwrite
    obtain ⟨flushes, hflush⟩ := exists_flush { stream with sent, writes }
    exact ⟨sent, writes, flushes, hflush⟩

structure Accepting (stream : ByteStream) : Prop where
  refuses_eq : ∀ call, stream.refuses call = none
  refusesFlush_eq : ∀ call, stream.refusesFlush call = none

variable {stream : ByteStream}

theorem writeAll_of_accepts (h : ∀ call, stream.refuses call = none) (pieces : List Bytes) :
    stream.writeAll pieces = (.ok (), { stream with
      writes := stream.writes + pieces.length, sent := stream.sent ++ pieces }) := by
  induction pieces generalizing stream with
  | nil => simp [writeAll]
  | cons piece pieces ih =>
    have hwrite : stream.write piece = (.ok (), { stream with
        writes := stream.writes + 1, sent := stream.sent ++ [piece] }) := by
      simp [write, h]
    rw [writeAll, hwrite]
    dsimp only
    rw [ih (by exact h)]
    simp [Nat.add_assoc, Nat.add_comm 1]

theorem Accepting.transmit_eq (h : stream.Accepting) (pieces : List Bytes) :
    stream.transmit pieces = (.ok (), { stream with
      writes := stream.writes + pieces.length, sent := stream.sent ++ pieces
      flushes := stream.flushes + 1 }) := by
  simp [transmit, writeAll_of_accepts h.refuses_eq, flush, h.refusesFlush_eq]

end ByteStream

namespace Packet

theorem exists_stream_write (packet : Bytes) (stream : ByteStream) :
    ∃ sent writes flushes,
      (write packet stream).stream = { stream with sent, writes, flushes } := by
  unfold write
  split
  · exact ⟨_, _, _, rfl⟩
  · exact ByteStream.exists_transmit ..

theorem incoming_write (packet : Bytes) (stream : ByteStream) :
    (write packet stream).stream.incoming = stream.incoming := by
  obtain ⟨sent, writes, flushes, hstream⟩ := exists_stream_write packet stream
  rw [hstream]

theorem accepting_write {stream : ByteStream} (h : stream.Accepting) (packet : Bytes) :
    (write packet stream).stream.Accepting := by
  obtain ⟨sent, writes, flushes, hstream⟩ := exists_stream_write packet stream
  rw [hstream]
  exact ⟨h.refuses_eq, h.refusesFlush_eq⟩

theorem outcome_write {stream : ByteStream} (h : stream.Accepting) {packet : Bytes}
    (hreserve : reserve ≤ packet.length) : (write packet stream).outcome = .ok () := by
  unfold write
  rw [if_neg (Nat.not_lt.mpr hreserve)]
  simp only [h.transmit_eq]
  rfl

def framePart (part : Bytes) (sequence : UInt8) : Bytes :=
  Header.encode ⟨part.length, sequence⟩ ++ part

def frame (sequence : Nat → UInt8) (payload : Bytes) : Bytes :=
  (parts payload).zipIdx.flatMap fun (part, index) ↦ framePart part (sequence index)

def frames (sequence : Nat → Nat → UInt8) (payloads : List Bytes) : Bytes :=
  payloads.zipIdx.flatMap fun (payload, index) ↦ frame (sequence index) payload

theorem length_headerEncode (header : Header) : header.encode.length = 4 := by
  rw [Header.encode, List.length_append, LittleEndian.length_encode]
  rfl

theorem decode_headerEncode {header : Header} (h : header.length ≤ maxPayload) :
    Header.decode header.encode = .ok header := by
  have hlt : header.length < Nat.pow 256 3 := Nat.lt_succ_of_le h
  have hlength := LittleEndian.decode_encode 3 header.length
  rw [Nat.mod_eq_of_lt hlt] at hlength
  change Except.ok (⟨LittleEndian.decode (LittleEndian.encode 3 header.length), header.sequence⟩ :
    Header) = _
  rw [hlength]

theorem readPart?_framePart {part : Bytes} (h : part.length ≤ maxPayload) (sequence : UInt8)
    (rest : Bytes) :
    readPart? (framePart part sequence ++ rest) = some (⟨part.length, sequence⟩, part, rest) := by
  have hheader := takeExactly?_append (Header.encode ⟨part.length, sequence⟩) (part ++ rest)
  have hdecode : Header.decode (Header.encode ⟨part.length, sequence⟩) = _ := decode_headerEncode h
  rw [length_headerEncode] at hheader
  rw [readPart?, framePart, List.append_assoc, hheader]
  simp only [Option.bind_eq_bind, Option.bind_some, hdecode, Except.toOption,
    takeExactly?_append, Option.pure_def]

theorem readOnto?_of_full {body rest : Bytes} (h : body.length = maxPayload) (sequence : UInt8)
    (buffer : Bytes) :
    readOnto? buffer (framePart body sequence ++ rest) = readOnto? (buffer ++ body) rest := by
  have hpart := readPart?_framePart (Nat.le_of_eq h) sequence rest
  rw [readOnto?]
  split
  · next hnone => cases hpart.symm.trans hnone
  · next hsome =>
    cases hpart.symm.trans hsome
    rw [if_pos h]

theorem readOnto?_of_last {body rest : Bytes} (h : body.length < maxPayload) (sequence : UInt8)
    (buffer : Bytes) :
    readOnto? buffer (framePart body sequence ++ rest) = some ⟨sequence, buffer ++ body, rest⟩ := by
  have hpart := readPart?_framePart (Nat.le_of_lt h) sequence rest
  rw [readOnto?]
  split
  · next hnone => cases hpart.symm.trans hnone
  · next hsome =>
    cases hpart.symm.trans hsome
    rw [if_neg (Nat.ne_of_lt h)]

/-- A payload is read back part by part. Its last part has the number of full ones in front of it. -/
theorem readOnto?_parts (sequence : Nat → UInt8) (payload buffer : Bytes) (index : Nat)
    (rest : Bytes) :
    readOnto? buffer (((parts payload).zipIdx index).flatMap
      (fun (part, index) ↦ framePart part (sequence index)) ++ rest) =
        some ⟨sequence (index + payload.length / maxPayload), buffer ++ payload, rest⟩ := by
  fun_induction parts payload generalizing buffer index with
  | case1 payload hlast =>
    rw [List.zipIdx_singleton, List.flatMap_singleton, readOnto?_of_last hlast,
      Nat.div_eq_of_lt hlast, Nat.add_zero]
  | case2 payload hmore ih =>
    have hlength : (payload.take maxPayload).length = maxPayload := by
      rw [List.length_take]
      omega
    have hcount : payload.length / maxPayload =
        (payload.length - maxPayload) / maxPayload + 1 :=
      Nat.div_eq_sub_div (by decide) (Nat.le_of_not_lt hmore)
    have hrest := ih (buffer ++ payload.take maxPayload) (index + 1)
    rw [List.append_assoc, List.take_append_drop, List.length_drop, Nat.add_assoc index,
      Nat.add_comm 1, ← hcount] at hrest
    rw [List.zipIdx_cons, List.flatMap_cons, List.append_assoc, readOnto?_of_full hlength]
    exact hrest

/-- A payload is read back from its frame, and what follows the frame is left. -/
theorem read?_frame (sequence : Nat → UInt8) (payload rest : Bytes) :
    read? (frame sequence payload ++ rest) =
      some ⟨sequence (payload.length / maxPayload), payload, rest⟩ := by
  have h := readOnto?_parts sequence payload [] 0 rest
  rwa [Nat.zero_add] at h

end Packet

namespace PacketStream

open Packet

theorem readPacket_of_frame {session : PacketStream} {sequence : Nat → UInt8} {payload rest : Bytes}
    (h : session.stream.incoming = frame sequence payload ++ rest) :
    Transport.readPacket session =
      (.ok payload, { session with stream := { session.stream with incoming := rest } }) := by
  have hread := read?_frame sequence payload rest
  rw [← h] at hread
  change readPacket session = _
  simp only [readPacket, Packet.read, hread]
  rfl

theorem takes_of_zipIdx {sequence : Nat → Nat → UInt8} {payloads : List Bytes} {rest : Bytes}
    (session : PacketStream) (index : Nat)
    (h : session.stream.incoming = (payloads.zipIdx index).flatMap
      (fun (payload, index) ↦ frame (sequence index) payload) ++ rest) :
    Takes session payloads
      { session with stream := { session.stream with incoming := rest } } := by
  induction payloads generalizing session index with
  | nil =>
    rw [List.zipIdx_nil, List.flatMap_nil, List.nil_append] at h
    rw [← h]
    exact .nil session
  | cons payload payloads ih =>
    rw [List.zipIdx_cons, List.flatMap_cons, List.append_assoc] at h
    exact .cons (readPacket_of_frame h) (ih _ (index + 1) rfl)

theorem takes_frames {session : PacketStream} {sequence : Nat → Nat → UInt8} {payloads : List Bytes}
    {rest : Bytes} (h : session.stream.incoming = frames sequence payloads ++ rest) :
    Takes session payloads { session with stream := { session.stream with incoming := rest } } :=
  takes_of_zipIdx session 0 h

end PacketStream

end SqlClient
