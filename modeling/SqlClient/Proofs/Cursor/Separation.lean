import SqlClient.Proofs.Codec.Row
import SqlClient.Proofs.Cursor.Draining

namespace SqlClient

open Response

namespace Response

variable {packet : Bytes}

/-- The result set hands the packet out, and the machine asks for the next one. -/
structure ReadAsRow (packet : Bytes) : Prop where
  next {τ : Type} [Transport τ] {resultSet : ResultSet τ} {t : τ} :
    resultSet.finished = false →
    Transport.readPacket resultSet.conn.transport = (.ok packet, t) →
    resultSet.next =
      (.ok (some packet), { resultSet with conn := { resultSet.conn with transport := t } })
  drive (caps : Capabilities) : Discard.Phase.rows.drive caps packet = .ok .rows

/-- Behind the packet both go by its status; if it has none, both fail for the same reason. -/
structure ReadAsEnd (packet : Bytes) : Prop where
  next {τ : Type} [Transport τ] {resultSet : ResultSet τ} {t : τ} :
    resultSet.finished = false →
    Transport.readPacket resultSet.conn.transport = (.ok packet, t) →
    resultSet.next =
      match terminatorStatus (Transport.capabilities t) packet with
      | .ok status =>
        (.ok none, { resultSet with conn := { resultSet.conn with transport := t } }.finish status)
      | .error error => { resultSet with conn := { resultSet.conn with transport := t } }.fail error
  drive (caps : Capabilities) :
    Discard.Phase.rows.drive caps packet = (terminatorStatus caps packet).map .afterResult

theorem readAsRow_of_isRow (h : isRow packet) : ReadAsRow packet :=
  ⟨fun hopen hread ↦ ResultSet.next_of_isRow hopen hread h, fun _ ↦ Discard.drive_of_isRow h⟩

theorem readAsEnd_of_isTerminator (h : isTerminator packet) : ReadAsEnd packet := by
  refine ⟨fun {_ _ _ t} hopen hread ↦ ?_, fun _ ↦ Discard.drive_of_isTerminator h⟩
  cases hstatus : terminatorStatus (Transport.capabilities t) packet with
  | ok status => exact ResultSet.next_of_terminator hopen hread h hstatus
  | error error => exact ResultSet.next_of_malformed hopen hread h hstatus

theorem isTerminator_of_head? (hfirst : packet.head? = some eofHeader)
    (hlength : packet.length < Packet.maxPayload) : isTerminator packet = true := by
  simp [isTerminator, hfirst, hlength]

end Response

/-- No row is taken for an error or for the end of the rows, whatever its values, and nothing that has
the form of an end is taken for a row. -/
theorem Row.told_apart :
    (∀ values, Row.Storable values →
      (Row.encode values).head? ≠ some errorHeader ∧ isTerminator (Row.encode values) = false ∧
        ReadAsRow (Row.encode values)) ∧
      ∀ packet : Bytes, packet.head? = some eofHeader → packet.length < Packet.maxPayload →
        isTerminator packet = true ∧ ReadAsEnd packet := by
  constructor
  · intro values hstorable
    have hrow := Row.isRow_encode hstorable
    obtain ⟨herror, hterminator⟩ := isRow_eq_true_iff.mp hrow
    exact ⟨by simpa [isError] using herror, hterminator, readAsRow_of_isRow hrow⟩
  · intro packet hfirst hlength
    have hterminator := isTerminator_of_head? hfirst hlength
    exact ⟨hterminator, readAsEnd_of_isTerminator hterminator⟩

namespace ResultSet

def scripted (packets : List Bytes) : ResultSet ScriptedTransport where
  conn := { Connection.ofTransport {
    capabilities := .ofBits 0
    script := packets.map .ok } with pending := .rows }
  columns := []
  finished := false

/-- A row of NULL and of a string that is the header of an end, and an end behind it. -/
theorem told_apart_after_null :
    Row.Storable [none, some [0xFE]] ∧
      (scripted [[0xFB, 0x01, 0xFE], [0xFE, 0, 0, 2, 0]]).next =
        (.ok (some (Row.encode [none, some [0xFE]])), scripted [[0xFE, 0, 0, 2, 0]]) ∧
      (scripted [[0xFE, 0, 0, 2, 0]]).next = (.ok none, (scripted []).finish (.ofBits 2)) := by
  have hstorable : Row.Storable [none, some [0xFE]] := by
    simp [Row.Storable, UInt64.size]
  obtain ⟨-, -, hrow⟩ := Row.told_apart.1 _ hstorable
  obtain ⟨-, hend⟩ := Row.told_apart.2 [0xFE, 0, 0, 2, 0] rfl (by decide)
  have hread : Transport.readPacket (scripted [[0xFE, 0, 0, 2, 0]]).conn.transport =
      (.ok [0xFE, 0, 0, 2, 0], (scripted []).conn.transport) := rfl
  exact ⟨hstorable, hrow.next rfl rfl, hend.next rfl hread⟩

end ResultSet

end SqlClient
