import SqlClient.Proofs.Session.Failure

namespace SqlClient

open Connection

variable {τ : Type} [Transport τ]

def Call.isRead : Call → Bool
  | .read _ => true
  | .write _ _ => false

namespace Connection

variable {conn : Connection (Observed τ)}

theorem keeps_isRead_readResponse {start : List Call} :
    Keeps (Since start (·.isRead = true)) (fun _ ↦ Since start (·.isRead = true))
      (readResponse : Action (Observed τ) Bytes) := by
  apply keeps_readResponse
  intro conn result t hconn hread
  have hcall : Since start (·.isRead = true) { conn with transport := t } :=
    hconn.append (Observed.calls_of_readPacket hread) rfl
  cases result with
  | ok packet => exact hcall
  | error error => exact hcall

theorem DiscardsPending.since_isRead
    {result : EStateM.Result Error (Connection (Observed τ)) Unit} (h : DiscardsPending conn result) :
    Since conn.transport.calls (·.isRead = true) (afterwards result) := by
  have hends := h.ends keeps_isRead_readResponse (fun _ ↦ since_of_eq rfl) (fun _ _ h ↦ h)
    (fun _ _ _ _ _ _ _ h ↦ h) fun _ ↦ since_of_eq rfl
  exact hends.afterwards (fun _ h ↦ h) fun _ _ h ↦ h

end Connection

namespace Client

variable {client client' : Client (Observed τ)} {operation : Operation} {error : Option Error}

/-- All calls but the commands only read. -/
theorem Performs.since_isRead (h : Performs client operation error client')
    (hclient : client.Consistent) (hcommand : operation.command? = none) :
    Since client.connection.transport.calls (·.isRead = true) client'.connection := by
  cases h with
  | query | exec | ping => cases hcommand
  | discardPending hdiscards => exact hdiscards.since_isRead
  | nextRow cursor =>
    have hcursor : cursor.Consistent := hclient
    obtain hsame | ⟨result, hone, -⟩ := hcursor.nextRow_calls
    · exact since_of_eq hsame
    · exact ⟨_, hone, by simp [Call.isRead]⟩
  | readValue hreads => exact since_of_eq (congrArg (·.conn.transport.calls) hreads.stream_eq)
  | release cursor => exact since_of_eq rfl

theorem Performs.ready_of_write (h : Performs client operation error client')
    (hclient : client.Consistent) {packet : Bytes} {outcome : Except Error Unit}
    (hmem : .write packet outcome ∈ client.callsUntil client') :
    operation.command?.isSome ∧ client.connection.Ready := by
  cases hcommand : operation.command? with
  | none =>
    have hread := (h.since_isRead hclient hcommand).call hmem
    cases hread
  | some command =>
    refine ⟨rfl, ?_⟩
    by_contra hready
    obtain ⟨refusal, hrefuses⟩ : ∃ refusal, client.connection.Refuses refusal := by
      obtain hrefuses | hrefuses := refuses_of_not_ready hready <;> exact ⟨_, hrefuses⟩
    obtain ⟨-, rfl⟩ := h.of_refuses hrefuses (by rw [hcommand]; rfl)
    rw [callsUntil, List.drop_eq_nil_of_le (Nat.le_refl _)] at hmem
    cases hmem

/-- What holds between two calls, over any transport. -/
structure Disciplined (client : Client (Observed τ)) : Prop where
  silent : client.connection.isValid = false →
    ∀ last, Run client last → last.connection = client.connection
  broken : client.connection.isValid = false →
    client.connection.Refuses .connectionBroken ∧
      (∀ result, DiscardsPending client.connection result ↔
        result = .error .connectionBroken client.connection) ∧
      close client.connection = .ok () client.connection
  pending : client.connection.isValid = true → client.connection.hasPendingResult = true →
    client.connection.Refuses .resultSetPending
  ready_of_write : ∀ {operation error client'}, Performs client operation error client' →
    ∀ packet outcome, .write packet outcome ∈ client.callsUntil client' →
      operation.command?.isSome ∧ client.connection.Ready

theorem disciplined {t : τ} (hrun : Run (idle (ofTransport { inner := t })) client) :
    client.Disciplined := by
  have hclient := consistent_of_run hrun
  refine ⟨?_, ?_, refuses_of_pending, fun h _ _ hmem ↦ h.ready_of_write hclient hmem⟩
  · intro hbroken last hlast
    exact hlast.connection_of_broken hclient hbroken
  · intro hbroken
    exact ⟨refuses_of_broken hbroken, fun _ ↦ discardsPending_iff_of_broken hbroken,
      close_of_broken hbroken⟩

theorem disciplined_after_failure :
    ∃ client, Run (idle (failingRows (.io .endOfStream))) client ∧
      client.connection.isValid = false ∧ client.Disciplined := by
  obtain ⟨cursor, hquery, hvalid⟩ : ∃ cursor,
      (failingRows (.io .endOfStream)).query "SELECT 7" = .cursor cursor ∧
      (reading cursor.nextRow.2).connection.isValid = false := ⟨_, rfl, rfl⟩
  obtain ⟨hfirst, hnext⟩ := performs_nextRow_of_query hquery rfl
  have hrun := hfirst.tail ⟨_, _, hnext⟩
  exact ⟨_, hrun, hvalid, disciplined hrun⟩

end Client

end SqlClient
