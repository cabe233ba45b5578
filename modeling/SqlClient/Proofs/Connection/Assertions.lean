import SqlClient.Proofs.Codec.Coercion
import SqlClient.Proofs.Connection.Invariant
import SqlClient.Proofs.Connection.Settling
import SqlClient.Proofs.Cursor.Breaking

namespace SqlClient

open Response Discard Connection

theorem Response.FromPacket.isLibraryBug {error : Error} (h : FromPacket error) :
    error.isLibraryBug = false := by
  cases h <;> rfl

section Transport

variable {τ : Type} [Transport τ]

structure Safe (P : τ → Prop) : Prop where
  write {packet : Bytes} {t : τ} : Packet.reserve ≤ packet.length → P t →
    P (Transport.writeCommand packet t).2 ∧ Sound (Transport.writeCommand packet t).1.1
  read {t : τ} : P t → P (Transport.readPacket t).2 ∧ Sound (Transport.readPacket t).1

theorem PacketStream.safe : Safe fun _ : PacketStream ↦ True where
  write {packet session} hroom _ := by
    refine ⟨trivial, ?_⟩
    intro error herror
    change (Packet.write packet session.stream).outcome = .error error at herror
    obtain ⟨hshort, -⟩ | ⟨cause, rfl⟩ := Packet.error_of_write herror
    · omega
    · rfl
  read {session} _ := by
    refine ⟨trivial, ?_⟩
    intro error herror
    change (Packet.read session.stream).1.map Prod.snd = .error error at herror
    unfold Packet.read at herror
    split at herror <;> cases herror
    rfl

def Call.IsRoomy : Call → Prop
  | .write packet _ => Packet.reserve ≤ packet.length
  | .read _ => True

theorem Safe.observed {P : τ → Prop} (h : Safe P) :
    Safe fun observed : Observed τ ↦ P observed.inner ∧ ∀ call ∈ observed.calls, call.IsRoomy where
  write {packet observed} hroom hP := by
    obtain ⟨hinner, hsound⟩ := h.write hroom hP.1
    refine ⟨⟨hinner, ?_⟩, hsound⟩
    intro call hmem
    obtain hmem | hmem := List.mem_append.mp hmem
    · exact hP.2 call hmem
    · rw [List.mem_singleton.mp hmem]
      exact hroom
  read {observed} hP := by
    obtain ⟨hinner, hsound⟩ := h.read hP.1
    refine ⟨⟨hinner, ?_⟩, hsound⟩
    intro call hmem
    obtain hmem | hmem := List.mem_append.mp hmem
    · exact hP.2 call hmem
    · rw [List.mem_singleton.mp hmem]
      trivial

end Transport

section Actions

variable {τ : Type} [Transport τ] {P : τ → Prop} {conn : Connection τ}

def Connection.On (P : τ → Prop) (conn : Connection τ) : Prop :=
  P conn.transport

def Connection.Blameless (P : τ → Prop) (error : Error) (conn : Connection τ) : Prop :=
  P conn.transport ∧ error.isLibraryBug = false

namespace Safe

theorem keeps_send (h : Safe P) (command : Command) :
    Keeps (On P) (Blameless P) (send command) := by
  intro conn hconn
  have hroom : Packet.reserve ≤ (conn.room ++ command.encode).length := by
    rw [List.length_append, conn.length_room]
    omega
  -- A connection that refuses to send says why; otherwise it is up to the transport.
  refine ends_send (fun _ ↦ ⟨hconn, rfl⟩) (fun _ ↦ ⟨hconn, rfl⟩) ?_
  intro _ outcome packet t hwrite
  obtain ⟨hstill, hsound⟩ := h.write hroom hconn
  rw [hwrite] at hstill hsound
  cases outcome with
  | ok _ => exact hstill
  | error error => exact ⟨hstill, hsound error rfl⟩

theorem invariant (h : Safe P) : Invariant (On P) (Blameless P) where
  read := by
    apply keeps_readResponse
    intro conn result t hconn hread
    obtain ⟨hstill, hsound⟩ := h.read hconn
    rw [hread] at hstill hsound
    cases result with
    | ok packet => exact hstill
    | error error => exact ⟨hstill, hsound error rfl⟩
  setPending _ _ hconn := hconn
  throw hconn herror := ⟨hconn, herror.isLibraryBug⟩
  reject hconn := ⟨hconn, rfl⟩
  invalidate herror := herror

theorem exec (h : Safe P) (sql : String) (hconn : On P conn) :
    Ends (On P) (Blameless P) (exec sql conn) :=
  h.invariant.exec (h.keeps_send (.query sql) conn hconn)

theorem ping (h : Safe P) (hconn : On P conn) : Ends (On P) (Blameless P) (ping conn) :=
  h.invariant.ping (h.keeps_send .ping conn hconn)

theorem query (h : Safe P) (sql : String) (hconn : On P conn) :
    (conn.query sql).Ends (On P) (Blameless P) :=
  h.invariant.query (h.keeps_send (.query sql) conn hconn)

theorem close (h : Safe P) (hconn : On P conn) : Ends (On P) (Blameless P) (close conn) :=
  h.invariant.close (h.keeps_send .quit) conn hconn

theorem discardsPending (h : Safe P) {result : EStateM.Result Error (Connection τ) Unit}
    (hdiscards : DiscardsPending conn result) (hconn : On P conn) :
    Ends (On P) (Blameless P) result :=
  h.invariant.discardsPending hdiscards (fun _ ↦ ⟨hconn, rfl⟩) fun _ ↦ hconn

theorem next (h : Safe P) {resultSet : ResultSet τ} (hconn : On P resultSet.conn) :
    On P resultSet.next.2.conn ∧ Sound resultSet.next.1 := by
  cases hopen : resultSet.finished with
  | true =>
    rw [ResultSet.next, if_pos hopen]
    refine ⟨hconn, ?_⟩
    intro error herror
    cases herror
  | false =>
    obtain ⟨hstill, hsound⟩ := h.read hconn
    obtain ⟨result, t, hread⟩ : ∃ result t,
        Transport.readPacket resultSet.conn.transport = (result, t) := ⟨_, _, rfl⟩
    rw [hread] at hstill hsound
    obtain ⟨packet, hnext, -⟩ | ⟨status, hnext, -⟩ | ⟨error, hnext, hfailed, hpacket⟩ :=
      ResultSet.next_cases hopen hread
    · rw [hnext]
      exact ⟨hstill, fun _ herror ↦ by cases herror⟩
    · rw [hnext]
      exact ⟨hstill, fun _ herror ↦ by cases herror⟩
    · -- Either the transport has failed or what it has read cannot be decoded.
      have hblameless : error.isLibraryBug = false := by
        cases result with
        | ok packet => exact (hpacket rfl).isLibraryBug
        | error failure =>
          rw [← hfailed failure rfl]
          exact hsound failure rfl
      rw [hnext]
      refine ⟨?_, ?_⟩
      · rw [On, ResultSet.transport_fail]
        exact hstill
      · rintro _ ⟨⟩
        exact hblameless

end Safe

end Actions

namespace Connection

variable {τ : Type} [Transport τ] {conn : Connection (Observed τ)} {phase : Phase}
  {caps : Capabilities} {result : EStateM.Result Error (Connection (Observed τ)) Unit}

/-- The machine is fed the packets one by one as long as it has not finished. -/
theorem DiscardsFrom.exists_passes (h : DiscardsFrom caps phase conn result)
    (hphase : phase ≠ .finished) :
    ∃ packets last phase',
      (afterwards result).transport.calls = conn.transport.calls ++ Call.reads packets last ∧
      Passes caps phase packets phase' ∧ phase' ≠ .finished := by
  obtain ⟨packets, t, phase', last, htakes, hlast, hpasses, -⟩ := h.exists_takes
  exact ⟨packets, last, phase', Observed.calls_of_takes htakes hlast, hpasses,
    hpasses.ne_finished hphase⟩

end Connection

end SqlClient
