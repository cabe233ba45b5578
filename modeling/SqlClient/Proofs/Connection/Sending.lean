import SqlClient.Proofs.Connection.Invariant
import SqlClient.Proofs.Transport.Writing

namespace SqlClient

open Connection Response

def Error.isRefusal : Error → Bool
  | connectionBroken | resultSetPending => true
  | _ => false

theorem Response.FromPacket.isRefusal {error : Error} (h : FromPacket error) :
    error.isRefusal = false := by
  cases h <;> rfl

def Command.frame (command : Command) : Bytes :=
  Packet.frame UInt8.ofNat command.encode

def ByteStream.Accepted (start stream : ByteStream) : Prop :=
  ∀ call, start.writes ≤ call → call < stream.writes → start.refuses call = none

/-- Since `start` the commands went out, up to a call that was refused. -/
structure Connection.Sent (start : ByteStream) (commands : List Command)
    (conn : Connection PacketStream) : Prop where
  refuses_eq : conn.transport.stream.refuses = start.refuses
  writes_le : start.writes ≤ conn.transport.stream.writes
  exists_written : ∃ bytes, conn.transport.stream.written = start.written ++ bytes ∧
    bytes <+: commands.flatMap Command.frame
  /-- A connection that is still whole has seen no refusal. -/
  written_eq : conn.isValid = true ∨ start.Accepted conn.transport.stream →
    conn.transport.stream.written = start.written ++ commands.flatMap Command.frame

def Connection.Tried (start : ByteStream) (commands : List Command) (error : Error)
    (conn : Connection PacketStream) : Prop :=
  Sent start commands conn ∧ error.isRefusal = false

namespace Connection

variable {start : ByteStream} {commands commands' : List Command} {conn last : Connection PacketStream}

theorem sent_refl (conn : Connection PacketStream) : Sent conn.transport.stream [] conn where
  refuses_eq := rfl
  writes_le := Nat.le_refl _
  exists_written := ⟨[], (List.append_nil _).symm, List.prefix_rfl⟩
  written_eq _ := (List.append_nil _).symm

theorem Sent.setBuffer (h : Sent start commands conn) (writeBuffer : Bytes) :
    Sent start commands { conn with writeBuffer } :=
  ⟨h.refuses_eq, h.writes_le, h.exists_written, h.written_eq⟩

theorem Sent.setPending (h : Sent start commands conn) (pending : Pending) :
    Sent start commands { conn with pending } :=
  ⟨h.refuses_eq, h.writes_le, h.exists_written, h.written_eq⟩

theorem Sent.invalidate (h : Sent start commands conn) : Sent start commands conn.invalidate :=
  ⟨h.refuses_eq, h.writes_le, h.exists_written, fun haccepted ↦ h.written_eq <| .inr <| by
    rcases haccepted with hvalid | haccepted
    · cases hvalid
    · exact haccepted⟩

theorem Sent.setIncoming (h : Sent start commands conn) (incoming : Bytes) :
    Sent start commands { conn with transport := { conn.transport with
      stream := { conn.transport.stream with incoming } } } :=
  ⟨h.refuses_eq, h.writes_le, h.exists_written, h.written_eq⟩

theorem Sent.append (h : Sent start commands conn) (h' : Sent conn.transport.stream commands' last)
    (hbroken : conn.isValid = false → commands' = [] ∧ last.isValid = false) :
    Sent start (commands ++ commands') last := by
  obtain ⟨bytes, hbytes, hprefix⟩ := h.exists_written
  obtain ⟨bytes', hbytes', hprefix'⟩ := h'.exists_written
  refine ⟨h'.refuses_eq.trans h.refuses_eq, Nat.le_trans h.writes_le h'.writes_le, ?_, ?_⟩
  · cases hvalid : conn.isValid with
    | true =>
      rw [h.written_eq (.inl hvalid), List.append_assoc] at hbytes'
      refine ⟨_, hbytes', ?_⟩
      rw [List.flatMap_append]
      exact List.prefix_append_right_inj _ |>.mpr hprefix'
    | false =>
      -- The first commands may have been cut off, but nothing more is sent then.
      obtain ⟨rfl, -⟩ := hbroken hvalid
      rw [List.prefix_nil.mp hprefix', List.append_nil] at hbytes'
      rw [List.append_nil]
      exact ⟨bytes, hbytes'.trans hbytes, hprefix⟩
  · intro hwhole
    obtain ⟨hconn, hlast⟩ : (conn.isValid = true ∨ start.Accepted conn.transport.stream) ∧
        (last.isValid = true ∨ conn.transport.stream.Accepted last.transport.stream) := by
      rcases hwhole with hvalid | haccepted
      · refine ⟨.inl ?_, .inl hvalid⟩
        by_contra hinvalid
        obtain ⟨-, hlast⟩ := hbroken (by simpa using hinvalid)
        cases hlast.symm.trans hvalid
      · refine ⟨.inr fun call hle hlt ↦ ?_, .inr fun call hle hlt ↦ ?_⟩
        · exact haccepted call hle (Nat.lt_of_lt_of_le hlt h'.writes_le)
        · rw [h.refuses_eq]
          exact haccepted call (Nat.le_trans h.writes_le hle) hlt
    rw [h'.written_eq hlast, h.written_eq hconn, List.flatMap_append, List.append_assoc]

theorem sent_send (hready : conn.Ready) (command : Command) :
    Ends (Sent conn.transport.stream [command])
      (Tried conn.transport.stream [command]) (send command conn) := by
  generalize hwrite : Packet.write (conn.room ++ command.encode) conn.transport.stream = written
  have htransport : Transport.writeCommand (conn.room ++ command.encode) conn.transport =
      ((written.outcome, written.packet), { conn.transport with stream := written.stream }) := by
    rw [← hwrite]
    rfl
  obtain ⟨hrefuses, hwrites, bytes, hprefix, hwritten, hends⟩ :=
    Packet.write_cases conn.length_room _ _ hwrite
  have hframe : [command].flatMap Command.frame = Packet.frame UInt8.ofNat command.encode :=
    List.flatMap_singleton ..
  rw [send_of_ready hready, htransport]
  rcases hends with ⟨hok, hall⟩ | ⟨cause, herror, hends⟩
  · rw [hok]
    refine ⟨hrefuses, hwrites, ⟨bytes, hwritten, by rwa [hframe]⟩, fun _ ↦ ?_⟩
    rw [hframe, ← hall]
    exact hwritten
  · rw [herror]
    refine ⟨⟨hrefuses, hwrites, ⟨bytes, hwritten, by rwa [hframe]⟩, ?_⟩, rfl⟩
    intro haccepted
    rcases hends with hall | ⟨call, hle, hlt, hfate⟩
    · rw [hframe, ← hall]
      exact hwritten
    · rcases haccepted with hvalid | haccepted
      · cases hvalid
      · cases (haccepted call hle hlt).symm.trans hfate

theorem sent_afterwards {α : Type} {result : EStateM.Result Error (Connection PacketStream) α}
    (h : Ends (Sent start commands) (Tried start commands) result) :
    Sent start commands (afterwards result) :=
  h.afterwards (fun _ h ↦ h) fun _ _ h ↦ h.1

theorem Sent.readPacket (h : Sent start commands conn) {result : Except Error Bytes}
    {t : PacketStream} (hread : Transport.readPacket conn.transport = (result, t)) :
    Sent start commands { conn with transport := t } ∧
      ∀ error, result = .error error → error.isRefusal = false := by
  change PacketStream.readPacket conn.transport = _ at hread
  unfold PacketStream.readPacket Packet.read at hread
  cases hwire : Packet.read? conn.transport.stream.incoming with
  | some received =>
    rw [hwire] at hread
    cases hread
    exact ⟨h.setIncoming received.rest, fun error herror ↦ by cases herror⟩
  | none =>
    rw [hwire] at hread
    cases hread
    refine ⟨h.setIncoming [], ?_⟩
    rintro _ ⟨⟩
    rfl

theorem keeps_sent_readResponse :
    Keeps (Sent start commands) (Tried start commands) readResponse := by
  refine keeps_readResponse fun conn result t h hread ↦ ?_
  obtain ⟨hsent, herror⟩ := h.readPacket hread
  cases result with
  | ok packet => exact hsent
  | error error => exact ⟨hsent.invalidate, herror error rfl⟩

theorem invariant_sent : Invariant (Sent start commands) (Tried start commands) where
  read := keeps_sent_readResponse
  setPending _ pending h := h.setPending pending
  throw h herror := ⟨h, herror.isRefusal⟩
  reject h := ⟨h, rfl⟩
  invalidate h := ⟨h.1.invalidate, h.2⟩

theorem close_of_valid {τ : Type} [Transport τ] {conn : Connection τ} (h : conn.isValid = true) :
    close conn = send .quit { conn with pending := .none } := by
  unfold close
  rw [bind_apply, get_apply]
  dsimp only
  rw [if_pos h, bind_apply]
  rfl

theorem sent_close (h : conn.isValid = true) :
    Sent conn.transport.stream [.quit] (afterwards (close conn)) := by
  have hready : { conn with pending := .none }.Ready := ⟨h, rfl⟩
  rw [close_of_valid h]
  exact sent_afterwards (sent_send hready .quit)

theorem sent_discardPending (conn : Connection PacketStream) :
    Sent conn.transport.stream [] (afterwards (discardPending conn)) := by
  -- On a broken connection this is refused, so only what went out is of account here.
  have hinvariant : Invariant (Sent conn.transport.stream [])
      (fun _ ↦ Sent conn.transport.stream []) := {
    read := fun conn' h ↦ (keeps_sent_readResponse conn' h).mono (fun _ h ↦ h) fun _ _ h ↦ h.1
    setPending := fun _ pending h ↦ h.setPending pending
    throw := fun h _ ↦ h
    reject := fun h ↦ h
    invalidate := fun h ↦ h.invalidate }
  have hends := hinvariant.discardsPending (discardsPending_iff.mpr rfl)
    (fun _ ↦ sent_refl conn) fun _ ↦ sent_refl conn
  exact hends.afterwards (fun _ h ↦ h) fun _ _ h ↦ h

end Connection

end SqlClient
