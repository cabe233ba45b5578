import SqlClient.Proofs.Transport.Writing

namespace SqlClient

/-- The related states of two transports answer every call alike, and stay related. Of a command only
what stands behind the room for its header is the same. -/
structure Simulates {τ τ' : Type} [Transport τ] [Transport τ'] (R : τ → τ' → Prop) : Prop where
  capabilities_eq {t : τ} {t' : τ'} : R t t' →
    Transport.capabilities t = Transport.capabilities t'
  writeCommand {t : τ} {t' : τ'} {room room' : Bytes} : R t t' →
    room.length = Packet.reserve → room'.length = Packet.reserve → ∀ payload,
    (Transport.writeCommand (room ++ payload) t).1.1 =
        (Transport.writeCommand (room' ++ payload) t').1.1 ∧
      R (Transport.writeCommand (room ++ payload) t).2
        (Transport.writeCommand (room' ++ payload) t').2
  readPacket {t : τ} {t' : τ'} : R t t' →
    (Transport.readPacket t).1 = (Transport.readPacket t').1 ∧
      R (Transport.readPacket t).2 (Transport.readPacket t').2

theorem Simulates.exists_readPacket {τ τ' : Type} [Transport τ] [Transport τ'] {R : τ → τ' → Prop}
    (hR : Simulates R) {t next : τ} {t' : τ'} (h : R t t') {result : Except Error Bytes}
    (hread : Transport.readPacket t = (result, next)) :
    ∃ next', Transport.readPacket t' = (result, next') ∧ R next next' := by
  obtain ⟨hresult, hnext⟩ := hR.readPacket h
  rw [hread] at hresult hnext
  exact ⟨_, Prod.ext hresult.symm rfl, hnext⟩

structure PayloadQueue where
  payloads : List Bytes
  stream : ByteStream
  capabilities : Capabilities

namespace PayloadQueue

def writeCommand (packet : Bytes) (queue : PayloadQueue) :
    (Except Error Unit × Bytes) × PayloadQueue :=
  let written := Packet.write packet queue.stream
  ((written.outcome, written.packet), { queue with stream := written.stream })

def readPacket (queue : PayloadQueue) : Except Error Bytes × PayloadQueue :=
  match queue.payloads with
  | [] => (.error (.io queue.stream.ending), queue)
  | payload :: payloads => (.ok payload, { queue with payloads })

theorem length_of_readPacket {queue queue' : PayloadQueue} {payload : Bytes}
    (h : queue.readPacket = (.ok payload, queue')) :
    queue'.payloads.length < queue.payloads.length := by
  unfold readPacket at h
  split at h
  · cases h
  · next hpayloads =>
    obtain ⟨-, rfl⟩ := Prod.mk.inj h
    simp [hpayloads]

instance : FiniteTransport PayloadQueue where
  capabilities := capabilities
  writeCommand := writeCommand
  readPacket := readPacket
  backlog queue := queue.payloads.length
  backlog_of_readPacket := length_of_readPacket

end PayloadQueue

namespace PacketStream

open Packet

structure Carries (sequence : Nat → Nat → UInt8) (session : PacketStream) (queue : PayloadQueue) :
    Prop where
  exists_incoming : ∃ index, session.stream.incoming = (queue.payloads.zipIdx index).flatMap
    fun (payload, index) ↦ frame (sequence index) payload
  stream_eq : queue.stream = { session.stream with incoming := queue.stream.incoming }
  capabilities_eq : session.capabilities = queue.capabilities

variable {sequence : Nat → Nat → UInt8} {session : PacketStream} {queue : PayloadQueue}

theorem readPacket_of_nil (h : session.stream.incoming = []) :
    Transport.readPacket session = (.error (.io session.stream.ending), session) := by
  have hread : read? session.stream.incoming = none := by
    rw [h, read?, readOnto?]
    rfl
  change readPacket session = _
  simp only [readPacket, Packet.read, hread, ← h]
  rfl

theorem Carries.readPacket (h : Carries sequence session queue) :
    (Transport.readPacket session).1 = (Transport.readPacket queue).1 ∧
      Carries sequence (Transport.readPacket session).2 (Transport.readPacket queue).2 := by
  obtain ⟨payloads, stream, capabilities⟩ := queue
  obtain ⟨index, hincoming⟩ := h.exists_incoming
  cases payloads with
  | nil =>
    have hstream : stream = { session.stream with incoming := stream.incoming } := h.stream_eq
    have hending : stream.ending = session.stream.ending := by rw [hstream]
    rw [readPacket_of_nil hincoming, ← hending]
    exact ⟨rfl, h⟩
  | cons payload payloads =>
    rw [List.zipIdx_cons, List.flatMap_cons] at hincoming
    rw [readPacket_of_frame hincoming]
    exact ⟨rfl, ⟨index + 1, rfl⟩, h.stream_eq, h.capabilities_eq⟩

theorem Carries.writeCommand (h : Carries sequence session queue) {room room' : Bytes}
    (hroom : room.length = reserve) (hroom' : room'.length = reserve) (payload : Bytes) :
    (Transport.writeCommand (room ++ payload) session).1.1 =
        (Transport.writeCommand (room' ++ payload) queue).1.1 ∧
      Carries sequence (Transport.writeCommand (room ++ payload) session).2
        (Transport.writeCommand (room' ++ payload) queue).2 := by
  have hcalls := ByteStream.transmit_incoming (calls payload) session.stream queue.stream.incoming
  rw [← h.stream_eq] at hcalls
  obtain ⟨houtcome, hstream⟩ := write_append hroom payload session.stream
  obtain ⟨houtcome', hstream'⟩ := write_append hroom' payload queue.stream
  have hincoming := incoming_write (room ++ payload) session.stream
  obtain ⟨index, hframes⟩ := h.exists_incoming
  refine ⟨?_, ⟨index, hincoming.trans hframes⟩, ?_, h.capabilities_eq⟩
  · change (write (room ++ payload) session.stream).outcome =
      (write (room' ++ payload) queue.stream).outcome
    rw [houtcome, houtcome', hcalls]
  · change (write (room' ++ payload) queue.stream).stream =
      { (write (room ++ payload) session.stream).stream with
        incoming := (write (room' ++ payload) queue.stream).stream.incoming }
    rw [hstream, hstream', hcalls]

/-- What stands in the room for the header is of no account. -/
theorem simulates_self : Simulates fun session session' : PacketStream ↦ session = session' where
  capabilities_eq h := by rw [h]
  writeCommand {session _ room room'} h hroom hroom' payload := by
    subst h
    obtain ⟨houtcome, hstream⟩ := write_append hroom payload session.stream
    obtain ⟨houtcome', hstream'⟩ := write_append hroom' payload session.stream
    refine ⟨houtcome.trans houtcome'.symm, ?_⟩
    exact congrArg (fun stream ↦ { session with stream }) (hstream.trans hstream'.symm)
  readPacket h := by
    subst h
    exact ⟨rfl, rfl⟩

theorem simulates_queue (sequence : Nat → Nat → UInt8) : Simulates (Carries sequence) where
  capabilities_eq h := h.capabilities_eq
  writeCommand h := h.writeCommand
  readPacket h := h.readPacket

end PacketStream

end SqlClient
