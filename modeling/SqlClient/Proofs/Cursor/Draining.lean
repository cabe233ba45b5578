import SqlClient.Proofs.Connection.Discarding

namespace SqlClient

open Response Connection

variable {τ : Type}

namespace ResultSet

variable [Transport τ] {resultSet : ResultSet τ} {packet : Bytes} {t : τ} {error : Error}

theorem next_of_readError (hopen : resultSet.finished = false)
    (hread : Transport.readPacket resultSet.conn.transport = (.error error, t)) :
    resultSet.next =
      { resultSet with conn := { resultSet.conn with transport := t } }.fail error := by
  simp [next, hopen, hread]

theorem next_of_isError (hopen : resultSet.finished = false)
    (hread : Transport.readPacket resultSet.conn.transport = (.ok packet, t))
    (herror : isError packet) :
    resultSet.next =
      { resultSet with conn := { resultSet.conn with transport := t } }.fail
        (Error.ofResponse packet) := by
  simp [next, hopen, hread, herror]

theorem next_of_malformed (hopen : resultSet.finished = false)
    (hread : Transport.readPacket resultSet.conn.transport = (.ok packet, t))
    (hterminator : isTerminator packet)
    (hstatus : terminatorStatus (Transport.capabilities t) packet = .error error) :
    resultSet.next =
      { resultSet with conn := { resultSet.conn with transport := t } }.fail error := by
  have herror := isError_eq_false_of_isTerminator hterminator
  simp [next, hopen, hread, hterminator, herror, Connection.capabilities, hstatus]

theorem next_of_terminator (hopen : resultSet.finished = false)
    (hread : Transport.readPacket resultSet.conn.transport = (.ok packet, t))
    (hterminator : isTerminator packet) {status : Status}
    (hstatus : terminatorStatus (Transport.capabilities t) packet = .ok status) :
    resultSet.next = (.ok none,
      { resultSet with conn := { resultSet.conn with transport := t } }.finish status) := by
  have herror := isError_eq_false_of_isTerminator hterminator
  simp [next, hopen, hread, hterminator, herror, Connection.capabilities, hstatus]

theorem next_of_isRow (hopen : resultSet.finished = false)
    (hread : Transport.readPacket resultSet.conn.transport = (.ok packet, t))
    (hrow : isRow packet) :
    resultSet.next =
      (.ok (some packet), { resultSet with conn := { resultSet.conn with transport := t } }) := by
  obtain ⟨herror, hterminator⟩ := isRow_eq_true_iff.mp hrow
  simp [next, hopen, hread, herror, hterminator]

theorem next_eq_some {resultSet' : ResultSet τ}
    (h : resultSet.next = (.ok (some packet), resultSet')) :
    ∃ t, Transport.readPacket resultSet.conn.transport = (.ok packet, t) ∧ isRow packet ∧
      resultSet' = { resultSet with conn := { resultSet.conn with transport := t } } := by
  unfold next at h
  split at h
  · cases h
  rcases hread : Transport.readPacket resultSet.conn.transport with ⟨error | packet', t⟩
  · simp [hread, fail] at h
  · simp only [hread] at h
    split at h
    · cases h
    next herror =>
    split at h
    · split at h <;> cases h
    next hterminator =>
    cases h
    have hrow : isRow packet := by simp [isRow, herror, hterminator]
    exact ⟨t, rfl, hrow, rfl⟩

end ResultSet

namespace Cursor

section NextRow

variable {σ : Type} [RowStream σ] {cursor : Cursor σ} {stream : σ}

theorem nextRow_of_some (hreading : cursor.exhausted = false) (hunbroken : cursor.readError = none)
    {packet : Bytes} (hnext : RowStream.next cursor.stream = (.ok (some packet), stream)) :
    cursor.nextRow = (true, { cursor with
      stream, packet, offset := 0, readColumns := 0, row := cursor.row + 1 }) := by
  simp [nextRow, hreading, hunbroken, hnext]

theorem nextRow_of_none (hreading : cursor.exhausted = false) (hunbroken : cursor.readError = none)
    (hnext : RowStream.next cursor.stream = (.ok none, stream)) :
    cursor.nextRow = (false, { cursor with stream, exhausted := true }.leaveRow) := by
  simp [nextRow, hreading, hunbroken, hnext]

theorem nextRow_of_error (hreading : cursor.exhausted = false) (hunbroken : cursor.readError = none)
    {error : Error} (hnext : RowStream.next cursor.stream = (.error error, stream)) :
    cursor.nextRow = (false, { cursor with stream, readError := some error }.leaveRow) := by
  simp [nextRow, hreading, hunbroken, hnext]

theorem nextRow_of_over (h : cursor.exhausted = true ∨ cursor.readError.isSome = true) :
    cursor.nextRow = (false, cursor) := by
  rw [nextRow, if_pos h]

end NextRow

section Live

variable {cursor : Cursor (ResultSet τ)}

structure Open (cursor : Cursor (ResultSet τ)) : Prop where
  reading : cursor.exhausted = false
  unbroken : cursor.readError = none
  unfinished : cursor.stream.finished = false

/-- A cursor whose rows are not over. -/
structure Live (cursor : Cursor (ResultSet τ)) : Prop where
  reading : cursor.exhausted = false
  unbroken : cursor.readError = none
  unfinished : cursor.stream.finished = false
  valid : cursor.release.isValid = true
  pending : cursor.release.pending = .rows

theorem Live.of_eq (h : cursor.Live) {cursor' : Cursor (ResultSet τ)}
    (hstream : cursor'.stream = cursor.stream) (hexhausted : cursor'.exhausted = cursor.exhausted)
    (herror : cursor'.readError = cursor.readError) : cursor'.Live := by
  refine ⟨?_, ?_, ?_, ?_, ?_⟩
  · rw [hexhausted, h.reading]
  · rw [herror, h.unbroken]
  · rw [hstream, h.unfinished]
  · rw [release, hstream]
    exact h.valid
  · rw [release, hstream]
    exact h.pending

def onRow (cursor : Cursor (ResultSet τ)) (packet : Bytes) (t : τ) : Cursor (ResultSet τ) :=
  { cursor with
    stream := { cursor.stream with conn := { cursor.release with transport := t } }
    packet, offset := 0, readColumns := 0, row := cursor.row + 1 }

theorem Live.onRow (h : cursor.Live) (packet : Bytes) (t : τ) : (cursor.onRow packet t).Live :=
  ⟨h.reading, h.unbroken, h.unfinished, h.valid, h.pending⟩

end Live

section Steps

variable [Transport τ] {cursor : Cursor (ResultSet τ)} {packet : Bytes} {t : τ} {error : Error}

theorem nextRow_of_finished (hreading : cursor.exhausted = false)
    (hunbroken : cursor.readError = none) (hfinished : cursor.stream.finished = true) :
    cursor.nextRow = (false, { cursor with exhausted := true }.leaveRow) := by
  have hnext : RowStream.next cursor.stream = (.ok none, cursor.stream) := by
    change ResultSet.next cursor.stream = _
    rw [ResultSet.next, if_pos hfinished]
  exact nextRow_of_none hreading hunbroken hnext

/-- Past the end of the rows a call for the next one changes nothing of the connection. -/
theorem nextRow_of_not_open (h : ¬ cursor.Open) :
    cursor.nextRow.2.stream = cursor.stream ∧ cursor.nextRow.2.readError = cursor.readError := by
  by_cases hover : cursor.exhausted = true ∨ cursor.readError.isSome = true
  · rw [nextRow_of_over hover]
    exact ⟨rfl, rfl⟩
  simp only [not_or, Bool.not_eq_true, Option.isSome_eq_false_iff, Option.isNone_iff_eq_none] at hover
  obtain ⟨hreading, hunbroken⟩ := hover
  have hfinished : cursor.stream.finished = true := by
    by_contra hopen
    exact h ⟨hreading, hunbroken, by simpa using hopen⟩
  rw [nextRow_of_finished hreading hunbroken hfinished]
  exact ⟨rfl, rfl⟩

theorem live_ofStream (conn : Connection τ) (hvalid : conn.isValid = true)
    (hpending : conn.pending = .rows) (columns : List Column) :
    (ofStream ({ conn, columns, finished := false } : ResultSet τ)).Live :=
  ⟨rfl, rfl, rfl, hvalid, hpending⟩

theorem Live.nextRow_of_isRow (h : cursor.Live)
    (hread : Transport.readPacket cursor.release.transport = (.ok packet, t))
    (hrow : isRow packet) : cursor.nextRow = (true, cursor.onRow packet t) :=
  nextRow_of_some h.reading h.unbroken (ResultSet.next_of_isRow h.unfinished hread hrow)

theorem Live.nextRow_of_terminator (h : cursor.Live)
    (hread : Transport.readPacket cursor.release.transport = (.ok packet, t))
    (hterminator : isTerminator packet) {status : Status}
    (hstatus : terminatorStatus (Transport.capabilities t) packet = .ok status) :
    ∃ last, cursor.nextRow = (false, last) ∧ last.exhausted = true ∧
      last.readError = none ∧ last.valueError = cursor.valueError ∧
      last.stream.finished = true ∧
      last.release = { cursor.release with transport := t, pending := .afterResult status } :=
  ⟨_, nextRow_of_none h.reading h.unbroken
    (ResultSet.next_of_terminator h.unfinished hread hterminator hstatus),
    rfl, h.unbroken, rfl, rfl, rfl⟩

theorem Live.nextRow_of_fail (h : cursor.Live) {resultSet : ResultSet τ}
    (hnext : ResultSet.next cursor.stream = resultSet.fail error) :
    ∃ last, cursor.nextRow = (false, last) ∧ last.exhausted = false ∧
      last.readError = some error ∧ last.stream.finished = true ∧
      last.release = if error.breaksConnection then resultSet.conn.invalidate
        else { resultSet.conn with pending := .none } :=
  ⟨_, nextRow_of_error h.reading h.unbroken hnext, h.reading, rfl, rfl, rfl⟩

inductive Advances : Nat → Cursor (ResultSet τ) → Cursor (ResultSet τ) → Prop
  | zero (cursor : Cursor (ResultSet τ)) : Advances 0 cursor cursor
  | succ {count : Nat} {cursor next last : Cursor (ResultSet τ)} :
      cursor.nextRow = (true, next) → Advances count next last → Advances (count + 1) cursor last

theorem Live.advances (h : cursor.Live) {rows : List Bytes}
    (htakes : Takes cursor.release.transport rows t) (hrows : ∀ row ∈ rows, isRow row) :
    ∃ next, Advances rows.length cursor next ∧ next.Live ∧
      next.release = { cursor.release with transport := t } := by
  induction rows generalizing cursor with
  | nil =>
    cases htakes
    exact ⟨cursor, .zero cursor, h, rfl⟩
  | cons row rows ih =>
    cases htakes with
    | cons hread htakes =>
      have hnext := h.nextRow_of_isRow hread (hrows row (List.mem_cons_self ..))
      obtain ⟨last, hlast, hlive, hrelease⟩ := ih (h.onRow row _) htakes
        fun row' hrow' ↦ hrows row' (.tail row hrow')
      exact ⟨last, .succ hnext hlast, hlive, hrelease⟩

theorem nextRow_eq_true {next : Cursor (ResultSet τ)} (h : cursor.nextRow = (true, next)) :
    ∃ packet t, Transport.readPacket cursor.release.transport = (.ok packet, t) ∧
      isRow packet ∧ next = cursor.onRow packet t := by
  unfold nextRow at h
  split at h
  · cases h
  rcases hnext : RowStream.next cursor.stream with ⟨error | (_ | packet), stream⟩
  · simp [hnext] at h
  · simp [hnext] at h
  · simp only [hnext, Prod.mk.injEq, true_and] at h
    obtain ⟨t, hread, hrow, rfl⟩ := ResultSet.next_eq_some hnext
    exact ⟨packet, t, hread, hrow, h.symm⟩

end Steps

section Drain

variable [FiniteTransport τ] {cursor next last : Cursor (ResultSet τ)}

def drain (cursor : Cursor (ResultSet τ)) : Cursor (ResultSet τ) :=
  match _h : cursor.nextRow with
  | (true, next) => drain next
  | (false, last) => last
termination_by FiniteTransport.backlog cursor.release.transport
decreasing_by
  obtain ⟨packet, t, hread, -, rfl⟩ := nextRow_eq_true _h
  exact FiniteTransport.backlog_of_readPacket hread

theorem drain_of_true (h : cursor.nextRow = (true, next)) : cursor.drain = next.drain := by
  rw [drain]
  split
  · next h' => cases h.symm.trans h'; rfl
  · next h' => cases h.symm.trans h'

theorem drain_of_false (h : cursor.nextRow = (false, last)) : cursor.drain = last := by
  rw [drain]
  split
  · next h' => cases h.symm.trans h'
  · next h' => cases h.symm.trans h'; rfl

theorem Advances.drain_eq {count : Nat} (h : Advances count cursor last) :
    cursor.drain = last.drain := by
  induction h with
  | zero => rfl
  | succ hnext _ ih => exact (drain_of_true hnext).trans ih

end Drain

end Cursor

end SqlClient
