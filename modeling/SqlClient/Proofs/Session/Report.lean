import SqlClient.Proofs.Connection.Verdict
import SqlClient.Proofs.Cursor.Draining
import SqlClient.Proofs.Response.Report
import SqlClient.Proofs.Session.Client

namespace SqlClient

open Response Connection

namespace Client

variable {τ : Type} [Transport τ] {client client' : Client τ} {operation : Operation}
  {error : Option Error} {packet : Bytes}

inductive Meets : Client τ → Operation → Bytes → Prop
  | reply {conn : Connection τ} {operation : Operation} {command : Command} {packet : Bytes} :
      operation.command? = some command → conn.reply? command = some packet →
      Meets (idle conn) operation packet
  | row {cursor : Cursor (ResultSet τ)} {packet : Bytes} {t : τ} : cursor.Open →
      Transport.readPacket cursor.release.transport = (.ok packet, t) →
      Meets (reading cursor) .nextRow packet

/-- A call that meets an error packet ends with what can be made of it. -/
theorem Performs.of_isError (h : Performs client operation error client')
    (hmeets : client.Meets operation packet) (hpacket : isError packet)
    (hvalid : client.connection.isValid = true) :
    error = some (Error.ofResponse packet) ∧
      ∀ report, ServerError.decode packet = .ok report → client'.connection.isValid = true := by
  cases hmeets with
  | @reply conn operation command packet hcommand hreply =>
    obtain ⟨sent, t, hsend, hread⟩ := exists_of_reply? hreply
    have hready : sent.isValid = true := (ready_of_send hsend).valid
    cases h with
    | query sql =>
      cases hcommand
      rw [query_of_packet hsend hread, header_of_isError hpacket]
      refine ⟨error?_ofError _ _, fun report hreport ↦ ?_⟩
      rw [ofResponse_of_serverError hreport]
      exact hready
    | exec sql =>
      cases hcommand
      rw [exec_apply, answer_of_send hsend hread, execAnswer_of_isError hpacket]
      exact ⟨rfl, fun _ _ ↦ hready⟩
    | ping =>
      cases hcommand
      rw [ping_apply, answer_of_send hsend hread, pingAnswer_of_isError hpacket]
      exact ⟨rfl, fun _ _ ↦ hready⟩
    | discardPending => cases hcommand
  | @row cursor packet t hopen hread =>
    cases h with
    | nextRow =>
      have hnext := ResultSet.next_of_isError hopen.unfinished hread hpacket
      rw [Cursor.nextRow_of_error hopen.reading hopen.unbroken hnext]
      refine ⟨rfl, fun report hreport ↦ ?_⟩
      rw [ofResponse_of_serverError hreport]
      exact hvalid

end Client

namespace ServerError

open Client

/-- A call that meets a report passes it on and leaves the connection usable, unless the session has no
place for the state and the text starts with its marker. -/
theorem reported_iff (report : ServerError) :
    (∀ caps, report.Sendable caps → (decode (report.encode caps) = .ok report ↔
      caps.has Capabilities.protocol41 = true ∨ report.message.toList.head? ≠ some '#')) ∧
    ∀ {τ : Type} [Transport τ] {client client' : Client τ} {operation : Operation}
      {error : Option Error}, Performs client operation error client' →
      client.connection.isValid = true → report.Sendable client.connection.capabilities →
      client.Meets operation (report.encode client.connection.capabilities) →
      ((error = some (.server report) ∧ client'.connection.isValid = true) ↔
        client.connection.capabilities.has Capabilities.protocol41 = true ∨
          report.message.toList.head? ≠ some '#') := by
  refine ⟨fun caps ↦ decode_encode_iff, ?_⟩
  intro τ _ client client' operation error hperforms hvalid hsendable hmeets
  obtain ⟨rfl, hkept⟩ := hperforms.of_isError hmeets (isError_encode _ report) hvalid
  rw [Option.some_inj, ofResponse_eq_server_iff, ← decode_encode_iff hsendable]
  exact ⟨And.left, fun hdecode ↦ ⟨hdecode, hkept report hdecode⟩⟩

def reporting (report : ServerError) : Connection ScriptedTransport :=
  ofTransport { capabilities := .ofBits 0, script := [.ok (report.encode (.ofBits 0))] }

theorem sendable_reporting {report : ServerError} (h : report.state = "") :
    report.Sendable (idle (reporting report)).connection.capabilities := by
  have hcaps : (idle (reporting report)).connection.capabilities.has Capabilities.protocol41 =
      false := by
    change (.ofBits 0 : Capabilities).has Capabilities.protocol41 = false
    decide
  rw [Sendable, hcaps]
  exact h

theorem meets_reporting (sql : String) (report : ServerError) :
    (idle (reporting report)).Meets (.query sql)
      (report.encode (idle (reporting report)).connection.capabilities) :=
  .reply rfl rfl

def denied : ServerError := ⟨1045, "", "denied"⟩

theorem reported_denied :
    denied.Sendable (idle (reporting denied)).connection.capabilities ∧
      (idle (reporting denied)).Meets (.query "SELECT 1")
        (denied.encode (idle (reporting denied)).connection.capabilities) ∧
      ∃ client', Performs (idle (reporting denied)) (.query "SELECT 1") (some (.server denied)) client' ∧
        client'.connection.isValid = true := by
  have hsendable : denied.Sendable (idle (reporting denied)).connection.capabilities :=
    sendable_reporting rfl
  have hmeets := meets_reporting "SELECT 1" denied
  have hperforms := Performs.query "SELECT 1" (reporting denied)
  have hunmarked : denied.message.toList.head? ≠ some '#' := by decide
  obtain ⟨herror, hvalid⟩ :=
    ((reported_iff denied).2 hperforms rfl hsendable hmeets).mpr (.inr hunmarked)
  rw [herror] at hperforms
  exact ⟨hsendable, hmeets, _, hperforms, hvalid⟩

/-- The text starts with the marker, and what is left of it is too short for a state. -/
def marked : ServerError := ⟨1045, "", "#sql"⟩

theorem not_reported_marked :
    marked.Sendable (idle (reporting marked)).connection.capabilities ∧
      (idle (reporting marked)).Meets (.query "SELECT 1")
        (marked.encode (idle (reporting marked)).connection.capabilities) ∧
      ∃ client', Performs (idle (reporting marked)) (.query "SELECT 1") (some .unexpectedEof) client' ∧
        client'.connection.isValid = false := by
  have herror : Error.ofResponse (marked.encode (.ofBits 0)) = .unexpectedEof := rfl
  obtain ⟨sent, t, hsend, hread⟩ : ∃ sent t,
      send (.query "SELECT 1") (reporting marked) = .ok () sent ∧
      Transport.readPacket sent.transport = (.ok (marked.encode (.ofBits 0)), t) := ⟨_, _, rfl, rfl⟩
  have hperforms := Performs.query "SELECT 1" (reporting marked)
  rw [query_of_packet hsend hread, header_of_isError (isError_encode ..), herror] at hperforms
  exact ⟨sendable_reporting rfl, meets_reporting .., _, hperforms, rfl⟩

end ServerError

end SqlClient
