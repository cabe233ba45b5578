import SqlClient.Proofs.Cursor.Draining
import SqlClient.Proofs.Cursor.Values

namespace SqlClient

variable {τ : Type}

namespace ResultSet

variable {resultSet : ResultSet τ}

theorem isValid_fail (hvalid : resultSet.conn.isValid = true) (error : Error) :
    (resultSet.fail error).2.conn.isValid = !error.breaksConnection := by
  unfold ResultSet.fail
  cases hbreaks : error.breaksConnection <;> simp [Connection.invalidate, hvalid]

theorem transport_fail (error : Error) :
    (resultSet.fail error).2.conn.transport = resultSet.conn.transport := by
  unfold ResultSet.fail
  split <;> rfl

variable [Transport τ] {result : Except Error Bytes} {t : τ}

/-- Each call for a row reads one packet, which is a row or ends the rows. An error of the transport
ends them. -/
theorem next_cases (hopen : resultSet.finished = false)
    (hread : Transport.readPacket resultSet.conn.transport = (result, t)) :
    (∃ packet, resultSet.next =
      (.ok (some packet), { resultSet with conn := { resultSet.conn with transport := t } }) ∧
        result = .ok packet) ∨
    (∃ status, resultSet.next = (.ok none,
      { resultSet with conn := { resultSet.conn with transport := t } }.finish status) ∧
        result.isOk) ∨
    (∃ error, resultSet.next =
      { resultSet with conn := { resultSet.conn with transport := t } }.fail error ∧
        (∀ failure, result = .error failure → failure = error) ∧
        (result.isOk → Response.FromPacket error)) := by
  rcases result with error | packet
  · refine .inr (.inr ⟨error, next_of_readError hopen hread, ?_, nofun⟩)
    rintro _ ⟨⟩
    rfl
  by_cases herror : Response.isError packet
  · refine .inr (.inr ⟨_, next_of_isError hopen hread herror, nofun, fun _ ↦ ?_⟩)
    exact Response.fromPacket_ofResponse packet
  by_cases hterminator : Response.isTerminator packet
  · cases hstatus : Response.terminatorStatus (Transport.capabilities t) packet with
    | error error =>
      refine .inr (.inr
        ⟨_, next_of_malformed hopen hread hterminator hstatus, nofun, fun _ ↦ ?_⟩)
      exact Response.fromPacket_of_terminatorStatus hstatus
    | ok status =>
      exact .inr (.inl ⟨status, next_of_terminator hopen hread hterminator hstatus, rfl⟩)
  · have hrow : Response.isRow packet := by simp [Response.isRow, herror, hterminator]
    exact .inl ⟨packet, next_of_isRow hopen hread hrow, rfl⟩

end ResultSet

namespace Cursor

variable {cursor cursor' : Cursor (ResultSet τ)}

/-- The connection is broken exactly if the cursor has met an error that breaks it. -/
def Consistent (cursor : Cursor (ResultSet τ)) : Prop :=
  cursor.release.isValid = !cursor.readError.any Error.breaksConnection

theorem consistent_iff_of_unbroken (hunbroken : cursor.readError = none) :
    cursor.Consistent ↔ cursor.release.isValid = true := by
  rw [Consistent, hunbroken]
  rfl

theorem Consistent.of_eq (h : cursor.Consistent) (hstream : cursor'.stream = cursor.stream)
    (herror : cursor'.readError = cursor.readError) : cursor'.Consistent := by
  rw [Consistent, release, hstream, herror]
  exact h

variable [Transport τ]

/-- Once the connection is broken, the cursor does not touch it. -/
theorem Consistent.nextRow_of_broken (h : cursor.Consistent)
    (hbroken : cursor.release.isValid = false) : cursor.nextRow = (false, cursor) := by
  refine nextRow_of_over (.inr ?_)
  rw [h] at hbroken
  cases herror : cursor.readError with
  | none =>
    rw [herror] at hbroken
    cases hbroken
  | some error => rfl

theorem Open.nextRow_cases (h : cursor.Open) {result : Except Error Bytes} {t : τ}
    (hread : Transport.readPacket cursor.release.transport = (result, t)) :
    cursor.nextRow.2.release.transport = t ∧
      ((cursor.nextRow.2.readError = none ∧ result.isOk ∧
          cursor.nextRow.2.release.isValid = cursor.release.isValid) ∨
        ∃ error, cursor.nextRow.2.readError = some error ∧
          (∀ failure, result = .error failure → failure = error) ∧
          (cursor.release.isValid = true →
            cursor.nextRow.2.release.isValid = !error.breaksConnection)) := by
  obtain ⟨packet, hnext, hresult⟩ | ⟨status, hnext, hresult⟩ | ⟨error, hnext, hresult, -⟩ :=
    ResultSet.next_cases h.unfinished hread
  · rw [nextRow_of_some h.reading h.unbroken hnext]
    exact ⟨rfl, .inl ⟨h.unbroken, by rw [hresult]; rfl, rfl⟩⟩
  · rw [nextRow_of_none h.reading h.unbroken hnext]
    exact ⟨rfl, .inl ⟨h.unbroken, hresult, rfl⟩⟩
  · rw [nextRow_of_error h.reading h.unbroken hnext]
    exact ⟨ResultSet.transport_fail error, .inr ⟨error, rfl, hresult, fun hvalid ↦
      ResultSet.isValid_fail (by exact hvalid) error⟩⟩

theorem Consistent.nextRow (h : cursor.Consistent) : cursor.nextRow.2.Consistent := by
  by_cases hopen : cursor.Open
  · have hvalid := (consistent_iff_of_unbroken hopen.unbroken).mp h
    obtain ⟨-, ⟨hstill, -, hkept⟩ | ⟨error, herror, -, hconn⟩⟩ := hopen.nextRow_cases rfl
    · rw [consistent_iff_of_unbroken hstill, hkept, hvalid]
    · rw [Consistent, herror, hconn hvalid]
      rfl
  · obtain ⟨hstream, herror⟩ := nextRow_of_not_open hopen
    exact h.of_eq hstream herror

end Cursor

end SqlClient
