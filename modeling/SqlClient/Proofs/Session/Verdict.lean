import SqlClient.Proofs.Connection.Verdict
import SqlClient.Proofs.Session.Broken
import SqlClient.Proofs.Transport.Framing

namespace SqlClient

open Connection Response

namespace Client

section Performs

variable {τ : Type} [Transport τ]

/-- The packet that comes in reply to a call that is answered by a single packet. -/
def Operation.reply? : Operation → Connection τ → Option Bytes
  | .exec sql, conn => conn.reply? (.query sql)
  | .ping, conn => conn.reply? .ping
  | .query _, _ | .discardPending, _ | .nextRow, _ | .readValue, _ | .release, _ => none

variable {client client' : Client τ} {operation : Operation} {error : Error}

theorem Performs.kind_ne_ok_of_ping (h : Performs client .ping (some error) client')
    {packet : Bytes} (hreply : client.connection.reply? .ping = some packet) :
    kind packet ≠ .ok .ok := by
  generalize herror : some error = failure at h
  cases h with
  | ping conn => exact Connection.kind_ne_ok_of_ping (eq_error_of_error? herror.symm) hreply

variable [BreakingTransport τ]

theorem Performs.verdict (h : Performs client operation (some error) client')
    (hclient : client.Consistent) :
    Verdict (operation.reply? client.connection) error client'.connection := by
  generalize herror : some error = failure at h
  cases h with
  | query sql conn =>
    have haccords := accords_query sql conn
    cases hresult : conn.query sql with
    | cursor cursor =>
      rw [hresult] at herror
      cases herror
    | error error' conn' =>
      rw [hresult] at herror haccords
      cases herror
      exact verdict_of_none haccords
  | exec sql conn => exact verdict_exec (eq_error_of_error? herror.symm)
  | ping conn => exact verdict_ping (eq_error_of_error? herror.symm)
  | discardPending hdiscards =>
    exact verdict_of_none (hdiscards.accords.of_error? herror.symm)
  | nextRow cursor =>
    have hnext : cursor.nextRow.2.Consistent := Cursor.Consistent.nextRow hclient
    rw [Cursor.Consistent, ← herror] at hnext
    exact verdict_of_none hnext
  | readValue | release => cases herror

end Performs

section PacketStream

variable {client client' : Client PacketStream} {operation : Operation} {error : Error}

/-- After an error the connection can still be used if the error does not break it, and if it is why
the OK packet in reply to a statement cannot be decoded. Nothing is said of a statement or a ping whose
reply is an error packet that cannot be decoded. -/
theorem isValid_iff_of_error {stream : ByteStream} {caps : Capabilities}
    (hrun : Run (idle (ofStream stream caps)) client)
    (hcall : Performs client operation (some error) client')
    (hreply : ∀ packet, operation.reply? client.connection = some packet →
      ¬ Undecodable client'.connection.capabilities packet .error error) :
    client'.connection.isValid = true ↔
      error.breaksConnection = false ∨ ∃ sql packet, operation = .exec sql ∧
        client.connection.reply? (.query sql) = some packet ∧
        Undecodable client'.connection.capabilities packet .ok error := by
  cases hcall.verdict (consistent_of_run hrun) with
  | accords haccords hkind =>
    rw [haccords]
    constructor
    · intro hkept
      exact .inl (by simpa using hkept)
    · rintro (hkept | ⟨sql, packet, rfl, hpacket, hundecodable⟩)
      · rw [hkept]
        rfl
      · cases hundecodable with
        | ok hok _ => exact absurd hok (hkind packet hpacket)
  | @undecodableOk packet hpacket hundecodable hvalid =>
    refine iff_of_true hvalid (.inr ?_)
    cases operation with
    | exec sql => exact ⟨sql, packet, rfl, hpacket, hundecodable⟩
    | ping =>
      -- The packet that acknowledges a ping is not decoded.
      cases hundecodable with
      | ok hok _ => exact absurd hok (hcall.kind_ne_ok_of_ping hpacket)
    | query | discardPending | nextRow | readValue | release => cases hpacket
  | undecodableError hpacket hundecodable => exact absurd hundecodable (hreply _ hpacket)

/-- Over a byte stream that refuses nothing, the reply to a statement is the next payload. -/
theorem exec_of_frame {conn : Connection PacketStream} (hready : conn.Ready)
    (hwrites : conn.transport.stream.Accepting) {sequence : Nat → UInt8}
    {packet rest : Bytes}
    (hwire : conn.transport.stream.incoming = Packet.frame sequence packet ++ rest) (sql : String) :
    ∃ answered, conn.reply? (.query sql) = some packet ∧
      exec sql conn = execAnswer packet answered ∧ answered.isValid = true := by
  have hwrite : (Packet.write (conn.room ++ (Command.query sql).encode)
      conn.transport.stream).outcome = .ok () := by
    apply Packet.outcome_write hwrites
    rw [List.length_append, length_room]
    omega
  obtain ⟨sent, hsend, hvalid, hincoming⟩ : ∃ sent, send (.query sql) conn = .ok () sent ∧
      sent.isValid = true ∧
      sent.transport.stream.incoming = conn.transport.stream.incoming :=
    ⟨_, send_eq_ok.mpr ⟨hready, _, _, Prod.ext (Prod.ext hwrite rfl) rfl, rfl⟩, hready.valid,
      Packet.incoming_write ..⟩
  obtain ⟨answered, hread, hvalid⟩ : ∃ answered, readResponse sent = .ok packet answered ∧
      answered.isValid = true :=
    ⟨_, readResponse_eq_ok.mpr ⟨_, PacketStream.readPacket_of_frame (hincoming.trans hwire), rfl⟩,
      hvalid⟩
  refine ⟨answered, ?_, ?_, hvalid⟩
  · rw [reply?, seqRight_apply, hsend]
    simp only [hread]
  · rw [exec_of_send hsend, hread]

def replying (packet : Bytes) : Connection PacketStream :=
  ofStream { incoming := Packet.frame (fun _ ↦ 1) packet } (.ofFlags [Capabilities.protocol41])

theorem exec_replying (sql : String) (packet : Bytes) :
    ∃ answered, (replying packet).reply? (.query sql) = some packet ∧
      exec sql (replying packet) = execAnswer packet answered ∧ answered.isValid = true := by
  have hwire : (replying packet).transport.stream.incoming =
      Packet.frame (fun _ ↦ 1) packet ++ [] := (List.append_nil _).symm
  exact exec_of_frame ⟨rfl, rfl⟩ ⟨fun _ ↦ rfl, fun _ ↦ rfl⟩ hwire sql

theorem isValid_iff_of_eof :
    ∃ client', Performs (idle (replying [0xFE, 0, 0, 2, 0])) (.exec "SELECT 1")
        (some .invalidPacket) client' ∧
      (∀ packet, (Operation.exec "SELECT 1").reply? (replying [0xFE, 0, 0, 2, 0]) = some packet →
        ¬ Undecodable client'.connection.capabilities packet .error .invalidPacket) ∧
      (client'.connection.isValid = true ↔
        Error.invalidPacket.breaksConnection = false ∨ ∃ sql packet,
          Operation.exec "SELECT 1" = .exec sql ∧
          (replying [0xFE, 0, 0, 2, 0]).reply? (.query sql) = some packet ∧
          Undecodable client'.connection.capabilities packet .ok .invalidPacket) := by
  obtain ⟨conn, hreply, hexec, -⟩ := exec_replying "SELECT 1" [0xFE, 0, 0, 2, 0]
  have hcall := Performs.exec "SELECT 1" (replying [0xFE, 0, 0, 2, 0])
  have hanswer : execAnswer [0xFE, 0, 0, 2, 0] conn = .error .invalidPacket conn.invalidate := rfl
  rw [hexec, hanswer] at hcall
  have hdecodable : ∀ packet,
      (Operation.exec "SELECT 1").reply? (replying [0xFE, 0, 0, 2, 0]) = some packet →
      ¬ Undecodable conn.invalidate.capabilities packet .error .invalidPacket := by
    intro packet hpacket hundecodable
    cases hreply.symm.trans hpacket
    cases hundecodable with
    | error hkind _ => cases hkind
  have hiff := isValid_iff_of_error .refl hcall hdecodable
  exact ⟨_, hcall, hdecodable, hiff⟩

/-- The OK packet in reply ends too early, but has been read as a whole. -/
theorem isValid_of_truncated_ok :
    ∃ client', Performs (idle (replying [0x00])) (.exec "SELECT 1") (some .unexpectedEof) client' ∧
      client'.connection.isValid = true ∧ Error.unexpectedEof.breaksConnection = true := by
  obtain ⟨conn, -, hexec, hvalid⟩ := exec_replying "SELECT 1" [0x00]
  have hcall := Performs.exec "SELECT 1" (replying [0x00])
  have hanswer : execAnswer [0x00] conn = .error .unexpectedEof conn := rfl
  rw [hexec, hanswer] at hcall
  exact ⟨_, hcall, hvalid, rfl⟩

end PacketStream

end Client

end SqlClient
