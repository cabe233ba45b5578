import SqlClient.Flags
import SqlClient.Packet

namespace SqlClient

/-- Errors of a transport are failures of the session below the packets, whatever their kind. -/
class Transport (τ : Type) where
  capabilities : τ → Capabilities
  /-- Sends a command, room for a header followed by the payload. The packet comes back as the
  transport leaves it. -/
  writeCommand : Bytes → τ → (Except Error Unit × Bytes) × τ
  readPacket : τ → Except Error Bytes × τ

/-- A transport that cannot hand out packets forever without a command in between. -/
class FiniteTransport (τ : Type) extends Transport τ where
  backlog : τ → Nat
  backlog_of_readPacket : ∀ {transport transport' : τ} {payload : Bytes},
    readPacket transport = (.ok payload, transport') → backlog transport' < backlog transport

structure PacketStream where
  stream : ByteStream
  capabilities : Capabilities

namespace PacketStream

def writeCommand (packet : Bytes) (session : PacketStream) :
    (Except Error Unit × Bytes) × PacketStream :=
  let written := Packet.write packet session.stream
  ((written.outcome, written.packet), { session with stream := written.stream })

def readPacket (session : PacketStream) : Except Error Bytes × PacketStream :=
  let (result, stream) := Packet.read session.stream
  (result.map Prod.snd, { session with stream })

theorem length_of_readPacket {session session' : PacketStream} {payload : Bytes}
    (h : session.readPacket = (.ok payload, session')) :
    session'.stream.incoming.length < session.stream.incoming.length := by
  unfold readPacket at h
  cases hr : (Packet.read session.stream).1 with
  | error error => simp [hr, Except.map] at h
  | ok received =>
    obtain ⟨-, rfl⟩ := Prod.mk.inj h
    exact Packet.length_read (Prod.ext hr rfl)

instance : FiniteTransport PacketStream where
  capabilities := capabilities
  writeCommand := writeCommand
  readPacket := readPacket
  backlog session := session.stream.incoming.length
  backlog_of_readPacket := length_of_readPacket

end PacketStream

structure ScriptedTransport where
  capabilities : Capabilities
  script : List (Except Error Bytes)
  ending : Error := .io .endOfStream
  refuses : Nat → Option Error := fun _ ↦ none
  commands : List Bytes := []
  writes : Nat := 0

namespace ScriptedTransport

def writeCommand (packet : Bytes) (scripted : ScriptedTransport) :
    (Except Error Unit × Bytes) × ScriptedTransport :=
  let scripted' := { scripted with writes := scripted.writes + 1 }
  match scripted.refuses scripted.writes with
  | some error => ((.error error, packet), scripted')
  | none => ((.ok (), packet), { scripted' with commands := scripted.commands ++ [packet] })

def readPacket (scripted : ScriptedTransport) : Except Error Bytes × ScriptedTransport :=
  match scripted.script with
  | [] => (.error scripted.ending, scripted)
  | result :: script => (result, { scripted with script })

theorem length_of_readPacket {scripted scripted' : ScriptedTransport} {payload : Bytes}
    (h : scripted.readPacket = (.ok payload, scripted')) :
    scripted'.script.length < scripted.script.length := by
  unfold readPacket at h
  split at h
  · cases h
  · next hs =>
    obtain ⟨-, rfl⟩ := Prod.mk.inj h
    simp [hs]

instance : FiniteTransport ScriptedTransport where
  capabilities := capabilities
  writeCommand := writeCommand
  readPacket := readPacket
  backlog scripted := scripted.script.length
  backlog_of_readPacket := length_of_readPacket

end ScriptedTransport

end SqlClient
