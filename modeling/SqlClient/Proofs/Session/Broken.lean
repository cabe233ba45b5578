import SqlClient.Proofs.Connection.Keeps
import SqlClient.Proofs.Cursor.Breaking
import SqlClient.Proofs.Session.Client

namespace SqlClient

open Connection

variable {τ : Type} [Transport τ]

namespace Connection

variable {conn : Connection τ}

structure Refuses (conn : Connection τ) (error : Error) : Prop where
  query (sql : String) : conn.query sql = .error error conn
  exec (sql : String) : exec sql conn = .error error conn
  ping : ping conn = .error error conn

theorem refuses_of_send {error : Error} (h : ∀ command, send command conn = .error error conn) :
    conn.Refuses error :=
  ⟨fun _ ↦ query_of_send_error (h _), fun _ ↦ exec_of_send_error (h _), ping_of_send_error (h _)⟩

theorem refuses_of_broken (h : conn.isValid = false) : conn.Refuses .connectionBroken :=
  refuses_of_send (send_of_broken h)

theorem refuses_of_pending (hvalid : conn.isValid = true) (hpending : conn.hasPendingResult = true) :
    conn.Refuses .resultSetPending :=
  refuses_of_send (send_of_pending hvalid (by simpa [hasPendingResult] using hpending))

theorem refuses_of_not_ready (h : ¬ conn.Ready) :
    conn.Refuses .connectionBroken ∨ conn.Refuses .resultSetPending := by
  cases hvalid : conn.isValid with
  | false => exact .inl (refuses_of_broken hvalid)
  | true =>
    have hpending : conn.hasPendingResult = true := by
      simp only [hasPendingResult, decide_eq_true_eq]
      intro hsettled
      exact h ⟨hvalid, hsettled⟩
    exact .inr (refuses_of_pending hvalid hpending)

theorem discardsPending_iff_of_broken (h : conn.isValid = false)
    {result : EStateM.Result Error (Connection τ) Unit} :
    DiscardsPending conn result ↔ result = .error .connectionBroken conn := by
  constructor
  · intro hdiscards
    cases hdiscards with
    | broken _ => rfl
    | settled hvalid _ => cases h.symm.trans hvalid
    | pending hvalid _ _ => cases h.symm.trans hvalid
  · rintro rfl
    exact .broken h

theorem close_of_broken (h : conn.isValid = false) : close conn = .ok () conn := by
  unfold close
  rw [bind_apply, get_apply]
  simp only [h]
  rfl

theorem isValid_of_query {sql : String} {cursor : Cursor (ResultSet τ)}
    (hquery : conn.query sql = .cursor cursor) :
    cursor.release.isValid = true ∧ cursor.readError = none := by
  have hsend : Ends (·.isValid = true) (fun _ _ ↦ True) (send (.query sql) conn) := by
    refine ends_send (fun _ ↦ trivial) (fun _ ↦ trivial) ?_
    intro hready outcome packet t _
    cases outcome with
    | ok _ => exact hready.valid
    | error error => trivial
  have hread : Keeps (·.isValid = true) (fun _ _ ↦ True) (readResponse : Action τ Bytes) := by
    apply keeps_readResponse
    intro conn result t h _
    cases result with
    | ok packet => exact h
    | error error => trivial
  have hheader := hread.readResultHeader (fun _ _ h ↦ h) (fun _ _ _ _ _ ↦ trivial)
    (fun _ _ _ _ _ _ ↦ trivial) (fun _ _ _ _ _ ↦ trivial) fun _ _ _ _ _ ↦ trivial
  have hends := (hsend.bind fun _ ↦
    keeps_readHeaderOrFail hheader (fun _ _ _ ↦ trivial) fun _ _ _ _ ↦ trivial).query
      fun _ _ h ↦ h
  rwa [hquery] at hends

end Connection

namespace Client

variable {client client' last : Client τ} {operation : Operation} {error : Option Error}

def Consistent : Client τ → Prop
  | idle _ => True
  | reading cursor => cursor.Consistent

theorem Performs.consistent (h : Performs client operation error client')
    (hclient : client.Consistent) : client'.Consistent := by
  cases h with
  | query sql conn =>
    cases hquery : conn.query sql with
    | error error conn' => trivial
    | cursor cursor =>
      obtain ⟨hvalid, hunbroken⟩ := isValid_of_query hquery
      exact (Cursor.consistent_iff_of_unbroken hunbroken).mpr hvalid
  | exec sql conn => trivial
  | ping conn => trivial
  | discardPending hdiscards => trivial
  | nextRow cursor => exact Cursor.Consistent.nextRow hclient
  | readValue hreads => exact Cursor.Consistent.of_eq hclient hreads.stream_eq hreads.readError_eq
  | release cursor => trivial

theorem consistent_of_run {t : τ} (h : Run (idle (ofTransport t)) client) : client.Consistent := by
  induction h with
  | refl => trivial
  | tail _ hstep ih =>
    obtain ⟨operation, error, hperforms⟩ := hstep
    exact hperforms.consistent ih

theorem Performs.of_refuses (h : Performs client operation error client') {refusal : Error}
    (hrefuses : client.connection.Refuses refusal) (hcommand : operation.command?.isSome) :
    error = some refusal ∧ client' = client := by
  cases h with
  | query sql conn =>
    have hconn : conn.Refuses refusal := hrefuses
    rw [hconn.query sql]
    exact ⟨rfl, rfl⟩
  | exec sql conn =>
    have hconn : conn.Refuses refusal := hrefuses
    rw [hconn.exec sql]
    exact ⟨rfl, rfl⟩
  | ping conn =>
    have hconn : conn.Refuses refusal := hrefuses
    rw [hconn.ping]
    exact ⟨rfl, rfl⟩
  | discardPending | nextRow | readValue | release => cases hcommand

theorem Performs.connection_of_broken (h : Performs client operation error client')
    (hclient : client.Consistent) (hbroken : client.connection.isValid = false) :
    client'.connection = client.connection := by
  by_cases hcommand : operation.command?.isSome
  · obtain ⟨-, rfl⟩ := h.of_refuses (refuses_of_broken hbroken) hcommand
    rfl
  cases h with
  | query | exec | ping => exact absurd rfl hcommand
  | discardPending hdiscards =>
    rw [(discardsPending_iff_of_broken hbroken).mp hdiscards]
    rfl
  | nextRow cursor =>
    rw [Cursor.Consistent.nextRow_of_broken hclient hbroken]
  | readValue hreads => exact congrArg ResultSet.conn hreads.stream_eq
  | release cursor => rfl

/-- Whatever the client does with a broken connection, its transport is not called again. -/
theorem Run.connection_of_broken (h : Run client last) (hclient : client.Consistent)
    (hbroken : client.connection.isValid = false) : last.connection = client.connection := by
  have hall : last.Consistent ∧ last.connection = client.connection := by
    induction h with
    | refl => exact ⟨hclient, rfl⟩
    | tail _ hstep ih =>
      obtain ⟨operation, error, hperforms⟩ := hstep
      obtain ⟨hlast, hconn⟩ := ih
      have hstill := hperforms.connection_of_broken hlast (by rw [hconn, hbroken])
      exact ⟨hperforms.consistent hlast, hstill.trans hconn⟩
  exact hall.2

end Client

end SqlClient
