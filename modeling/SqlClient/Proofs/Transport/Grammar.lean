import SqlClient.Proofs.Transport.Framing

namespace SqlClient

namespace Packet

/-- Any four bytes are the header of a part that one packet can carry. -/
theorem exists_headerDecode {bytes : Bytes} (h : bytes.length = 4) :
    ∃ header, Header.decode bytes = .ok header ∧ header.encode = bytes ∧
      header.length ≤ maxPayload := by
  match bytes, h with
  | [a, b, c, sequence], _ =>
    have hlt : LittleEndian.decode [a, b, c] < Nat.pow 256 3 := LittleEndian.decode_lt [a, b, c]
    have hmax : LittleEndian.decode [a, b, c] ≤ maxPayload := Nat.le_of_lt_succ hlt
    have hbytes : LittleEndian.encode 3 (LittleEndian.decode [a, b, c]) = [a, b, c] :=
      LittleEndian.encode_decode [a, b, c]
    refine ⟨⟨LittleEndian.decode [a, b, c], sequence⟩, rfl, ?_, hmax⟩
    rw [Header.encode, hbytes]
    rfl

theorem readPart?_eq_some_iff {wire body rest : Bytes} {header : Header} :
    readPart? wire = some (header, body, rest) ↔
      wire = framePart body header.sequence ++ rest ∧ header.length = body.length ∧
        body.length ≤ maxPayload := by
  constructor
  · intro h
    simp only [readPart?, Option.bind_eq_bind, Option.bind_eq_some_iff, Option.pure_def,
      Option.some.injEq, Prod.mk.injEq, Prod.exists] at h
    obtain ⟨bytes, wire', hbytes, header', hheader, body', rest', hbody, rfl, rfl, rfl⟩ := h
    obtain ⟨rfl, hfour⟩ := takeExactly?_eq_some_iff.mp hbytes
    obtain ⟨rfl, hlength⟩ := takeExactly?_eq_some_iff.mp hbody
    obtain ⟨decoded, hdecode, hencode, hmax⟩ := exists_headerDecode hfour
    rw [hdecode] at hheader
    cases hheader
    refine ⟨?_, hlength.symm, by omega⟩
    rw [framePart, hlength, hencode, List.append_assoc]
  · rintro ⟨rfl, hlength, hmax⟩
    rw [readPart?_framePart hmax, ← hlength]

section Read

variable {wire buffer : Bytes}

/-- The wire starts with full parts and one that is not full, each behind its header. The parts
before the last may have any sequence numbers. -/
structure Opens (wire : Bytes) (full : List (Bytes × UInt8)) (last : Bytes) (sequence : UInt8)
    (rest : Bytes) : Prop where
  wire_eq : wire = full.flatMap (fun (body, number) ↦ framePart body number) ++
    (framePart last sequence ++ rest)
  length_full : ∀ part ∈ full, part.1.length = maxPayload
  length_last : last.length < maxPayload

theorem opens_last {last rest : Bytes} (h : last.length < maxPayload) (sequence : UInt8) :
    Opens (framePart last sequence ++ rest) [] last sequence rest where
  wire_eq := rfl
  length_full := by simp
  length_last := h

theorem Opens.cons {body last rest : Bytes} {full : List (Bytes × UInt8)} {sequence : UInt8}
    (h : Opens wire full last sequence rest) (hbody : body.length = maxPayload) (number : UInt8) :
    Opens (framePart body number ++ wire) ((body, number) :: full) last sequence rest where
  wire_eq := by rw [h.wire_eq, List.flatMap_cons, List.append_assoc]
  length_full := by
    intro part hpart
    cases hpart with
    | head => exact hbody
    | tail _ hmem => exact h.length_full part hmem
  length_last := h.length_last

theorem exists_opens {received : Received} (h : readOnto? buffer wire = some received) :
    ∃ full last, Opens wire full last received.sequence received.rest ∧
      received.payload = buffer ++ ((full.map Prod.fst).flatten ++ last) := by
  fun_induction readOnto? buffer wire with
  | case1 => cases h
  | case2 buffer wire header body rest hpart hfull ih =>
    obtain ⟨rfl, hlength, -⟩ := readPart?_eq_some_iff.mp hpart
    obtain ⟨full, last, hopens, hpayload⟩ := ih h
    refine ⟨(body, header.sequence) :: full, last, hopens.cons (by omega) _, ?_⟩
    rw [hpayload]
    simp
  | case3 buffer wire header body rest hpart hshort =>
    obtain ⟨rfl, hlength, hmax⟩ := readPart?_eq_some_iff.mp hpart
    cases h
    exact ⟨[], body, opens_last (by omega) _, by simp⟩

theorem Opens.readOnto? {full : List (Bytes × UInt8)} {last rest : Bytes} {sequence : UInt8}
    (h : Opens wire full last sequence rest) (buffer : Bytes) :
    readOnto? buffer wire =
      some ⟨sequence, buffer ++ ((full.map Prod.fst).flatten ++ last), rest⟩ := by
  obtain ⟨rfl, hfull, hlast⟩ := h
  induction full generalizing buffer with
  | nil => exact readOnto?_of_last hlast sequence buffer
  | cons part full ih =>
    have hpart := hfull part (List.mem_cons_self ..)
    have hrest := ih (buffer ++ part.1) fun part' hmem ↦ hfull part' (.tail part hmem)
    rw [List.flatMap_cons, List.append_assoc, readOnto?_of_full hpart, hrest]
    simp

end Read

/-- Whatever a buffer holds, a payload is read into it exactly if the wire starts with one. Then what
follows the payload is left; otherwise the stream has come to its end. -/
theorem readInto_iff_opens (buffer : Bytes) (stream : ByteStream) :
    (∀ sequence payload stream', readInto buffer stream = (.ok (sequence, payload), stream') ↔
      ∃ full last rest, Opens stream.incoming full last sequence rest ∧
        payload = (full.map Prod.fst).flatten ++ last ∧
        stream' = { stream with incoming := rest }) ∧
    ((∀ full last sequence rest, ¬ Opens stream.incoming full last sequence rest) →
      ∃ stream', readInto buffer stream = (.error (.io stream.ending), stream')) ∧
    ∀ buffer', readInto buffer' stream = readInto buffer stream := by
  refine ⟨?_, ?_, ?_⟩
  · intro sequence payload stream'
    rw [readInto_eq_read, read]
    constructor
    · intro h
      split at h
      · next received hread =>
        cases h
        obtain ⟨full, last, hopens, hpayload⟩ := exists_opens hread
        exact ⟨full, last, received.rest, hopens, hpayload, rfl⟩
      · cases h
    · rintro ⟨full, last, rest, hopens, rfl, rfl⟩
      rw [read?, hopens.readOnto? []]
      rfl
  · intro hclosed
    refine ⟨{ stream with incoming := [] }, ?_⟩
    rw [readInto_eq_read, read]
    split
    · next received hread =>
      obtain ⟨full, last, hopens, -⟩ := exists_opens hread
      exact absurd hopens (hclosed full last received.sequence received.rest)
    · rfl
  · intro buffer'
    rw [readInto_eq_read, readInto_eq_read]

end Packet

end SqlClient
