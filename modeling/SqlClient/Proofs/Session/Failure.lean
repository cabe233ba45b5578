import SqlClient.Proofs.Connection.Failure
import SqlClient.Proofs.Session.Broken

namespace SqlClient

open Connection

variable {τ : Type} [Transport τ]

namespace Cursor

variable {cursor : Cursor (ResultSet (Observed τ))}

/-- A call for the next row makes at most one call of the transport. It trusts the error of that call
to say whether the connection is broken. -/
theorem Consistent.nextRow_calls (h : cursor.Consistent) :
    cursor.nextRow.2.release.transport.calls = cursor.release.transport.calls ∨
      ∃ result, cursor.nextRow.2.release.transport.calls =
          cursor.release.transport.calls ++ [.read result] ∧
        ∀ failure, result = .error failure →
          cursor.nextRow.2.release.isValid = !failure.breaksConnection := by
  by_cases hopen : cursor.Open
  · have hvalid := (consistent_iff_of_unbroken hopen.unbroken).mp h
    rcases hread : Transport.readPacket cursor.release.transport with ⟨result, t⟩
    obtain ⟨htransport, hnext⟩ := hopen.nextRow_cases hread
    refine .inr ⟨result, ?_, ?_⟩
    · rw [htransport, Observed.calls_of_readPacket hread]
    · rintro failure rfl
      obtain ⟨-, hok, -⟩ | ⟨error, -, hfailure, hconn⟩ := hnext
      · cases hok
      · rw [hconn hvalid, hfailure failure rfl]
  · left
    rw [release, (nextRow_of_not_open hopen).1, release]

end Cursor

namespace Client

variable {client client' last : Client (Observed τ)} {operation : Operation} {error : Option Error}
  {call : Call} {failure : Error}

def callsUntil (client client' : Client (Observed τ)) : List Call :=
  client'.connection.transport.calls.drop client.connection.transport.calls.length

/-- All calls but that for the next row break the connection whenever the transport fails. -/
theorem Performs.guarded (h : Performs client operation error client')
    (hoperation : operation ≠ .nextRow) :
    Guarded client.connection.transport.calls client'.connection := by
  cases h with
  | query sql conn =>
    have hquery := guarded_query sql conn
    cases hresult : conn.query sql with
    | cursor cursor =>
      rw [hresult] at hquery
      exact .inl hquery.1
    | error error conn' =>
      rw [hresult] at hquery
      exact hquery
  | exec sql conn =>
    have hexec := invariant_smooth.exec (keeps_smooth_send (.query sql) conn (since_of_eq rfl))
    exact hexec.afterwards (fun _ h ↦ .inl h) fun _ _ h ↦ h
  | ping conn =>
    have hping := invariant_smooth.ping (keeps_smooth_send .ping conn (since_of_eq rfl))
    exact hping.afterwards (fun _ h ↦ .inl h) fun _ _ h ↦ h
  | discardPending hdiscards => exact hdiscards.guarded
  | nextRow cursor => exact absurd rfl hoperation
  | readValue hreads =>
    exact .inl (since_of_eq (congrArg (·.conn.transport.calls) hreads.stream_eq))
  | release cursor => exact .inl (since_of_eq rfl)

theorem Performs.isValid_of_failure (h : Performs client operation error client')
    (hclient : client.Consistent)
    (hmem : call ∈ client.callsUntil client') (hfailure : call.failure? = some failure) :
    client'.connection.isValid = true ↔ operation = .nextRow ∧ failure.breaksConnection = false := by
  by_cases hoperation : operation = .nextRow
  · subst hoperation
    cases h with
    | nextRow cursor =>
      have hcursor : cursor.Consistent := hclient
      change call ∈ cursor.nextRow.2.release.transport.calls.drop
        cursor.release.transport.calls.length at hmem
      change cursor.nextRow.2.release.isValid = true ↔ _
      obtain hsame | ⟨result, hone, hvalid⟩ := hcursor.nextRow_calls
      · rw [hsame, List.drop_eq_nil_of_le (Nat.le_refl _)] at hmem
        cases hmem
      · rw [hone, List.drop_left, List.mem_singleton] at hmem
        subst hmem
        cases result with
        | ok packet => cases hfailure
        | error error =>
          cases hfailure
          rw [hvalid failure rfl]
          simp
  · have hbroken := (h.guarded hoperation).isValid hmem hfailure
    simp [hbroken, hoperation]

/-- A call of the transport that fails breaks the connection for good, unless it is made for the next
row and fails with an error that passes for one of the server or of the caller. -/
theorem broken_iff_of_failure {t : τ} (hrun : Run (idle (ofTransport { inner := t })) client)
    (hcall : Performs client operation error client')
    (hmem : call ∈ client.callsUntil client') (hfailure : call.failure? = some failure) :
    (∀ last, Run client' last → last.connection.isValid = false) ↔
      (operation = .nextRow → failure.breaksConnection = true) := by
  have hclient := consistent_of_run hrun
  have hvalid := hcall.isValid_of_failure hclient hmem hfailure
  constructor
  · intro hall hoperation
    have hbroken := hall client' .refl
    by_contra hbreaks
    rw [hvalid.mpr ⟨hoperation, by simpa using hbreaks⟩] at hbroken
    cases hbroken
  · intro hbreaks last hlast
    have hbroken : client'.connection.isValid = false := by
      rw [← Bool.not_eq_true, hvalid]
      rintro ⟨hoperation, hkept⟩
      cases hkept.symm.trans (hbreaks hoperation)
    rw [hlast.connection_of_broken (hcall.consistent hclient) hbroken, hbroken]

def failingRows (failure : Error) : Connection (Observed ScriptedTransport) :=
  ofTransport { inner := {
    capabilities := .ofFlags [Capabilities.protocol41]
    script := [.ok [0x01],
      .ok [3, 0x64, 0x65, 0x66, 0, 0, 0, 1, 0x61, 0, 12, 33, 0, 4, 0, 0, 0, 3, 0, 0, 0, 0, 0],
      .ok [0xFE, 0, 0, 2, 0], .error failure] } }

theorem performs_nextRow_of_query {conn : Connection τ} {sql : String}
    {cursor : Cursor (ResultSet τ)} (hquery : conn.query sql = .cursor cursor)
    (herror : cursor.nextRow.2.readError = error) :
    Run (idle conn) (reading cursor) ∧
      Performs (reading cursor) .nextRow error (reading cursor.nextRow.2) := by
  have hfirst := Performs.query sql conn
  rw [hquery] at hfirst
  subst herror
  exact ⟨.single ⟨_, _, hfirst⟩, .nextRow cursor⟩

theorem broken_of_endOfStream :
    ∃ (client client' : Client (Observed ScriptedTransport)) (call : Call),
      Run (idle (failingRows (.io .endOfStream))) client ∧
      Performs client .nextRow (some (.io .endOfStream)) client' ∧
      call ∈ client.callsUntil client' ∧ call.failure? = some (.io .endOfStream) ∧
      ((∀ last, Run client' last → last.connection.isValid = false) ↔
        (Operation.nextRow = .nextRow → (Error.io .endOfStream).breaksConnection = true)) := by
  obtain ⟨cursor, hquery, herror, hmem⟩ : ∃ cursor,
      (failingRows (.io .endOfStream)).query "SELECT 7" = .cursor cursor ∧
      cursor.nextRow.2.readError = some (.io .endOfStream) ∧
      .read (.error (.io .endOfStream)) ∈ (reading cursor).callsUntil (reading cursor.nextRow.2) :=
    ⟨_, rfl, rfl, .head _⟩
  obtain ⟨hrun, hnext⟩ := performs_nextRow_of_query hquery herror
  exact ⟨_, _, _, hrun, hnext, hmem, rfl, broken_iff_of_failure hrun hnext hmem rfl⟩

/-- The connection outlives a transport that fails with an error of the caller's. -/
theorem not_broken_of_badUsage :
    ∃ (client client' : Client (Observed ScriptedTransport)) (call : Call),
      Run (idle (failingRows (.badUsage "no more packets"))) client ∧
      Performs client .nextRow (some (.badUsage "no more packets")) client' ∧
      call ∈ client.callsUntil client' ∧ call.failure? = some (.badUsage "no more packets") ∧
      client'.connection.isValid = true := by
  obtain ⟨cursor, hquery, herror, hmem, hvalid⟩ : ∃ cursor,
      (failingRows (.badUsage "no more packets")).query "SELECT 7" = .cursor cursor ∧
      cursor.nextRow.2.readError = some (.badUsage "no more packets") ∧
      .read (.error (.badUsage "no more packets")) ∈
        (reading cursor).callsUntil (reading cursor.nextRow.2) ∧
      (reading cursor.nextRow.2).connection.isValid = true :=
    ⟨_, rfl, rfl, .head _, rfl⟩
  obtain ⟨hrun, hnext⟩ := performs_nextRow_of_query hquery herror
  exact ⟨_, _, _, hrun, hnext, hmem, rfl, hvalid⟩

end Client

end SqlClient
