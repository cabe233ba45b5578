import SqlClient.Decoder
import SqlClient.ByteStream

namespace SqlClient

namespace Packet

def maxPayload : Nat := 0xFFFFFF

structure Header where
  length : Nat
  sequence : UInt8
  deriving DecidableEq, Repr

/-- The header on the wire; of the length it carries the low 24 bits. -/
def Header.encode (header : Header) : Bytes :=
  LittleEndian.encode 3 header.length ++ [header.sequence]

def Header.decode : Bytes → Except Error Header
  | a :: b :: c :: sequence :: _ => .ok ⟨LittleEndian.decode [a, b, c], sequence⟩
  | _ => .error .unexpectedEof

def readPart? (wire : Bytes) : Option (Header × Bytes × Bytes) := do
  let (bytes, wire) ← takeExactly? 4 wire
  let header ← (Header.decode bytes).toOption
  let (body, wire) ← takeExactly? header.length wire
  return (header, body, wire)

theorem length_readPart? {wire body rest : Bytes} {header : Header}
    (h : readPart? wire = some (header, body, rest)) : rest.length < wire.length := by
  simp only [readPart?, Option.bind_eq_bind, Option.bind_eq_some_iff, Option.pure_def,
    Option.some.injEq, Prod.mk.injEq, Prod.exists] at h
  obtain ⟨bytes, wire', h₁, header', -, body', rest', h₂, -, -, rfl⟩ := h
  have := length_of_takeExactly? h₁
  have := length_of_takeExactly? h₂
  omega

structure Received where
  sequence : UInt8
  payload : Bytes
  rest : Bytes

def readOnto? (buffer wire : Bytes) : Option Received :=
  match _h : readPart? wire with
  | none => none
  | some (header, body, rest) =>
    if header.length = maxPayload then readOnto? (buffer ++ body) rest
    else some ⟨header.sequence, buffer ++ body, rest⟩
termination_by wire.length
decreasing_by exact length_readPart? _h

/-- One payload off the front of the wire. `none` if the wire ends before the payload does; nobody
checks sequence numbers. -/
def read? (wire : Bytes) : Option Received :=
  readOnto? [] wire

theorem length_readOnto? {buffer wire : Bytes} {received : Received}
    (h : readOnto? buffer wire = some received) : received.rest.length < wire.length := by
  fun_induction readOnto? buffer wire with
  | case1 => cases h
  | case2 buffer wire header body rest hp _ ih => exact Nat.lt_trans (ih h) (length_readPart? hp)
  | case3 buffer wire header body rest hp _ =>
    cases h
    exact length_readPart? hp

theorem length_read? {wire : Bytes} {received : Received} (h : read? wire = some received) :
    received.rest.length < wire.length :=
  length_readOnto? h

def read (stream : ByteStream) : Except Error (UInt8 × Bytes) × ByteStream :=
  match read? stream.incoming with
  | some received =>
    (.ok (received.sequence, received.payload), { stream with incoming := received.rest })
  | none => (.error (.io stream.ending), { stream with incoming := [] })

/-- Reads the next payload into a buffer, in place of what the buffer held. Gives the sequence number
and the buffer; after a failure the buffer is of no use. -/
def readInto (buffer : Bytes) (stream : ByteStream) : Except Error (UInt8 × Bytes) × ByteStream :=
  match readOnto? (buffer.drop buffer.length) stream.incoming with
  | some received =>
    (.ok (received.sequence, received.payload), { stream with incoming := received.rest })
  | none => (.error (.io stream.ending), { stream with incoming := [] })

theorem readInto_eq_read (buffer : Bytes) (stream : ByteStream) :
    readInto buffer stream = read stream := by
  rw [readInto, List.drop_length]
  rfl

theorem length_read {stream stream' : ByteStream} {received : UInt8 × Bytes}
    (h : read stream = (.ok received, stream')) :
    stream'.incoming.length < stream.incoming.length := by
  unfold read at h
  split at h
  · next hr =>
    obtain ⟨-, rfl⟩ := Prod.mk.inj h
    exact length_read? hr
  · cases h

/-- The parts of a payload: full ones, and one that is not. -/
def parts (payload : Bytes) : List Bytes :=
  if payload.length < maxPayload then [payload]
  else payload.take maxPayload :: parts (payload.drop maxPayload)
termination_by payload.length
decreasing_by simp only [List.length_drop, maxPayload] at *; omega

def headerFor (part : Bytes) (index : Nat) : Bytes :=
  Header.encode ⟨part.length, UInt8.ofNat index⟩

def pieces (payload : Bytes) : List Bytes :=
  (parts payload).zipIdx.flatMap fun (part, index) ↦
    if part.isEmpty then [headerFor part index] else [headerFor part index, part]

/-- How many bytes a command keeps free in front of its payload for the header of a single part. -/
def reserve : Nat := 4

structure Written where
  outcome : Except Error Unit
  packet : Bytes
  stream : ByteStream

/-- Writes a command, `reserve` bytes of room followed by the payload, with sequence numbers from
zero. A payload of one part gets its header into the room and goes out in one call; longer ones go
out part by part and leave the room as it was. -/
def write (packet : Bytes) (stream : ByteStream) : Written :=
  if packet.length < reserve then
    { outcome := .error <| .libraryBug <|
        "write buffer lost its reserved header: " ++ toString packet.length ++ " < 4"
      packet, stream }
  else
    let payload := packet.drop reserve
    let (packet, calls) :=
      if payload.length < maxPayload then
        let packet := headerFor payload 0 ++ payload
        (packet, [packet])
      else (packet, pieces payload)
    let (result, stream) := stream.transmit calls
    { outcome := result.mapError .io, packet, stream }

theorem error_of_write {packet : Bytes} {stream : ByteStream} {error : Error}
    (h : (write packet stream).outcome = .error error) :
    (packet.length < reserve ∧ ∃ text, error = .libraryBug text) ∨ ∃ cause, error = .io cause := by
  unfold write at h
  split at h
  · next hshort =>
    cases h
    exact .inl ⟨hshort, _, rfl⟩
  · right
    dsimp only at h
    generalize (ByteStream.transmit _ stream).1 = result at h
    cases result with
    | ok => cases h
    | error cause =>
      cases h
      exact ⟨cause, rfl⟩

end Packet

end SqlClient
