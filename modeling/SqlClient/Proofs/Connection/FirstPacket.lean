import SqlClient.Proofs.Connection.Rejection

namespace SqlClient.Connection

open Response

section Columns

variable {τ : Type} [Transport τ] {conn conn' : Connection τ}

/-- Columns that cannot be read have been read from the transport. -/
theorem exists_takes_of_readColumns {count : Nat} {error : Error}
    (h : readColumns count conn = .error error conn') :
    ∃ packets t last, Takes conn.transport packets t ∧
      Transport.readPacket t = (last, conn'.transport) := by
  induction count generalizing conn with
  | zero => cases h
  | succ count ih =>
    simp only [readColumns, bind_eq_error, readResponse_eq_ok, readResponse_eq_error,
      liftExcept_eq_ok, liftExcept_eq_error] at h
    obtain ⟨t, hread, rfl⟩ | ⟨packet, _, ⟨t, hread, rfl⟩, ⟨-, rfl⟩ | ⟨column, _, ⟨-, rfl⟩, h⟩⟩ := h
    · exact ⟨[], _, _, .nil _, hread⟩
    · exact ⟨[], _, _, .nil _, hread⟩
    · obtain h | ⟨columns, conn₁, -, h⟩ := h
      · obtain ⟨packets, t', last, htakes, hlast⟩ := ih h
        exact ⟨packet :: packets, t', last, .cons hread htakes, hlast⟩
      · cases h

theorem exists_read_of_readSeparator {caps : Capabilities} {error : Error}
    (h : readSeparator caps conn = .error error conn') :
    ∃ last, Transport.readPacket conn.transport = (last, conn'.transport) := by
  unfold readSeparator at h
  split at h
  · simp only [bind_eq_error, readResponse_eq_ok, readResponse_eq_error, liftExcept_eq_ok,
      liftExcept_eq_error] at h
    obtain ⟨t, hread, rfl⟩ | ⟨packet, _, ⟨t, hread, rfl⟩, ⟨-, rfl⟩ | ⟨eof, _, -, h⟩⟩ := h
    · exact ⟨_, hread⟩
    · exact ⟨_, hread⟩
    · cases h
  · cases h

theorem exists_takes_of_queryColumns {caps : Capabilities} {count : Nat} {error : Error}
    (h : conn.queryColumns caps count = .error error conn') :
    ∃ packets t last, Takes conn.transport packets t ∧
      Transport.readPacket t = (last, conn'.transport) := by
  unfold queryColumns at h
  split at h
  · next hphase =>
    rw [transport_ofError h]
    obtain hcolumns | ⟨columns, conn₁, hcolumns, hbehind⟩ := bind_eq_error.mp hphase
    · exact exists_takes_of_readColumns hcolumns
    obtain ⟨definitions, t, -, -, htakes, rfl⟩ := readColumns_eq_ok.mp hcolumns
    obtain hseparator | ⟨_, _, _, hpure⟩ := bind_eq_error.mp hbehind
    · obtain ⟨last, hlast⟩ := exists_read_of_readSeparator hseparator
      exact ⟨definitions, t, last, htakes, hlast⟩
    · cases hpure
  · cases h

end Columns

section FirstPacket

variable {τ : Type} [Transport τ] {conn sent answered : Connection τ} {sql : String}
  {packet : Bytes} {t : τ}

/-- What a statement and a query come to, by the packet that both have read. Behind it the connection
is `answered`. -/
inductive Outcomes (packet : Bytes) (answered : Connection τ) :
    EStateM.Result Error (Connection τ) OkResponse → QueryResult τ → Prop
  | ok (ok : OkResponse) (conn : Connection τ) : Header.decode packet = .ok (.ok packet) →
      Outcomes packet answered (.ok ok conn)
        (.cursor (.ofStream { conn, columns := [], finished := true }))
  | server (report : ServerError) : Header.decode packet = .error (.server report) →
      Outcomes packet answered (.error (.server report) answered) (.error (.server report) answered)
  | columns {count : Nat} : Header.decode packet = .ok (.resultSet count) →
      Outcomes packet answered (.error resultSetError { answered with pending := .columns count })
        (answered.queryColumns answered.capabilities count)
  | malformed {error : Error} : error.breaksConnection = true →
      (packet.head? = some okHeader ∨ packet.head? = some errorHeader) →
      Outcomes packet answered (.error error answered) (.error error answered.invalidate)
  | unknown {error error' : Error} : error.breaksConnection = true →
      Header.decode packet = .error error' → error'.breaksConnection = true →
      packet.head? ≠ some okHeader → packet.head? ≠ some errorHeader →
      Outcomes packet answered (.error error answered.invalidate) (.error error' answered.invalidate)

/-- Neither classifier knows a packet for a reply that is none by its first byte and has no count of
columns. -/
theorem execAnswer_of_unknown {error : Error} (hheader : Header.decode packet = .error error)
    (hok : packet.head? ≠ some okHeader) (herror : packet.head? ≠ some errorHeader)
    (conn : Connection τ) :
    ∃ error', error'.breaksConnection = true ∧
      execAnswer packet conn = .error error' conn.invalidate := by
  rw [execAnswer_apply]
  cases hkind : kind packet with
  | error failure =>
    rw [kind_eq_error hkind]
    exact ⟨_, rfl, rfl⟩
  | ok kind =>
    cases kind with
    | ok => exact absurd (head?_of_kind hkind) hok
    | error => exact absurd (by simpa [isError] using isError_of_kind hkind) herror
    | eof => exact ⟨_, rfl, rfl⟩
    | resultSet =>
      dsimp only
      split
      · exact ⟨_, rfl, rfl⟩
      · cases hcount : Decoder.lenencInt.decode packet with
        | error failure => exact ⟨_, Decoder.plain_lenencInt.breaksConnection hcount, rfl⟩
        | ok count => cases hheader.symm.trans (header_of_kind hkind hcount)

variable [LawfulTransport τ]

theorem outcomes_of_packet (hsend : send (.query sql) conn = .ok () sent)
    (hread : Transport.readPacket sent.transport = (.ok packet, t))
    (hanswered : answered = { sent with transport := t }) :
    Outcomes packet answered (exec sql conn) (conn.query sql) := by
  have hexec : exec sql conn = execAnswer packet answered := by
    rw [exec_of_send hsend, readResponse_eq_ok.mpr ⟨t, hread, rfl⟩, hanswered]
  have hcaps : sent.capabilities = answered.capabilities := by
    rw [hanswered]
    exact (Takes.one hread).capabilities_eq.symm
  have hpending : sent.pending = .none := (ready_of_send hsend).settled
  have hquery := query_of_packet hsend hread
  rw [← hanswered, hcaps] at hquery
  by_cases hok : packet.head? = some okHeader
  · cases hdecode : OkResponse.decode answered.capabilities packet with
    | ok ok =>
      have hpending' : answered.pending = .none := by rw [hanswered, hpending]
      rw [hexec, execAnswer_of_ok hpending' hok hdecode,
        query_of_ok hsend hpending hread hok (by rw [hcaps, hdecode]), hanswered]
      exact .ok ok _ (header_of_ok hok)
    | error error =>
      have hbreaks := (plain_okResponse _).breaksConnection hdecode
      rw [execAnswer_apply, kind_of_ok hok] at hexec
      simp only [header_of_ok hok, hdecode] at hexec hquery
      rw [hexec, hquery, ofError_of_breaks hbreaks]
      exact .malformed hbreaks (.inl hok)
  by_cases herror : packet.head? = some errorHeader
  · have hpacket : isError packet := by simpa [isError] using herror
    have hheader := header_of_isError hpacket
    rw [execAnswer_of_isError hpacket] at hexec
    simp only [hheader] at hquery
    rw [hexec, hquery]
    obtain ⟨report, -, hreport⟩ | hbreaks := ofResponse_cases packet
    · rw [hreport] at hheader ⊢
      exact .server report hheader
    · rw [ofError_of_breaks hbreaks]
      exact .malformed hbreaks (.inr herror)
  cases hheader : Header.decode packet with
  | error error =>
    obtain ⟨error', hbreaks', hanswer⟩ := execAnswer_of_unknown hheader hok herror answered
    have hbreaks : error.breaksConnection = true := by
      obtain ⟨-, hpacket⟩ | hbreaks := header_error_cases hheader
      · exact absurd (by simpa [isError] using hpacket) herror
      · exact hbreaks
    simp only [hheader] at hquery
    rw [hexec, hanswer, hquery, ofError_of_breaks hbreaks]
    exact .unknown hbreaks' hheader hbreaks hok herror
  | ok header =>
    cases header with
    | ok payload => exact absurd (head?_of_header hheader) hok
    | resultSet count =>
      obtain ⟨number, hnumber, rfl⟩ := exists_count_of_header hheader
      simp only [hheader] at hquery
      rw [hexec, execAnswer_of_count (kind_of_lenencInt hnumber hok)
        (head?_ne_of_lenencInt hnumber) hnumber, hquery]
      exact .columns hheader

end FirstPacket

section Observed

variable {τ : Type} [Transport τ] {conn sent answered : Connection (Observed τ)} {sql : String}
  {packet : Bytes} {t : Observed τ}

structure Agreement (packet : Bytes) (answered : Connection (Observed τ))
    (executed : EStateM.Result Error (Connection (Observed τ)) OkResponse)
    (queried : QueryResult (Observed τ)) : Prop where
  ok_iff (conn : Connection (Observed τ)) : (∃ ok, executed = .ok ok conn) ↔
    ∃ rows, queried = .cursor rows ∧ rows.stream.finished = true ∧ rows.release = conn
  /-- A query that goes on to its columns may meet another error, but has then made a call more. -/
  server_iff (report : ServerError) (conn : Connection (Observed τ)) :
    executed = .error (.server report) conn ↔ queried = .error (.server report) conn ∧
      conn.transport.calls = answered.transport.calls
  ready_of_server (report : ServerError) (conn : Connection (Observed τ)) :
    executed = .error (.server report) conn → conn.Ready
  columns_iff (count : Nat) :
    (∃ text conn, executed = .error (.badUsage text) conn ∧ conn.pending = .columns count) ↔
      Header.decode packet = .ok (.resultSet count) ∧
        queried = answered.queryColumns answered.capabilities count
  /-- Both errors are such as break a connection, but a statement does not let them where the packet
  is of a kind it knows. -/
  otherwise : (∀ ok conn, executed ≠ .ok ok conn) →
    (∀ report conn, executed ≠ .error (.server report) conn) →
    (∀ text count conn, executed = .error (.badUsage text) conn → conn.pending ≠ .columns count) →
    ∃ error conn error' conn', executed = .error error conn ∧ queried = .error error' conn' ∧
      error.breaksConnection = true ∧ error'.breaksConnection = true ∧
      conn.pending = .none ∧ conn'.pending = .none ∧ conn'.isValid = false ∧
      (conn.isValid = false ↔
        packet.head? ≠ some okHeader ∧ packet.head? ≠ some errorHeader)

variable {executed : EStateM.Result Error (Connection (Observed τ)) OkResponse}
  {queried : QueryResult (Observed τ)}

theorem calls_ne_of_queryColumns {caps : Capabilities} {count : Nat} {error : Error}
    (h : answered.queryColumns caps count = .error error conn) :
    conn.transport.calls ≠ answered.transport.calls := by
  obtain ⟨packets, t, last, htakes, hlast⟩ := exists_takes_of_queryColumns h
  rw [Observed.calls_of_takes htakes hlast]
  simp [Call.reads]

theorem agreement_of_breaks {error error' : Error} {conn conn' : Connection (Observed τ)}
    (hbreaks : error.breaksConnection = true) (hbreaks' : error'.breaksConnection = true)
    (hheader : ∀ count, Header.decode packet ≠ .ok (.resultSet count))
    (hpending : conn.pending = .none) (hpending' : conn'.pending = .none)
    (hinvalid : conn'.isValid = false)
    (hvalid_iff : conn.isValid = false ↔
      packet.head? ≠ some okHeader ∧ packet.head? ≠ some errorHeader) :
    Agreement packet answered (.error error conn) (.error error' conn') where
  ok_iff := by simp
  server_iff report conn := by
    constructor
    · intro h
      cases h
      cases hbreaks
    · rintro ⟨h, -⟩
      cases h
      cases hbreaks'
  ready_of_server report conn h := by
    cases h
    cases hbreaks
  columns_iff count := by
    constructor
    · rintro ⟨text, conn, h, -⟩
      cases h
      cases hbreaks
    · rintro ⟨h, -⟩
      exact absurd h (hheader count)
  otherwise _ _ _ :=
    ⟨error, conn, error', conn', rfl, rfl, hbreaks, hbreaks', hpending, hpending', hinvalid,
      hvalid_iff⟩

theorem Outcomes.agreement (h : Outcomes packet answered executed queried)
    (hready : answered.Ready) : Agreement packet answered executed queried := by
  cases h with
  | ok ok conn hheader =>
    refine ⟨?_, by simp, by simp, by simp [hheader], ?_⟩
    · intro conn'
      constructor
      · rintro ⟨ok', h⟩
        cases h
        exact ⟨_, rfl, rfl, rfl⟩
      · rintro ⟨rows, h, -, rfl⟩
        cases h
        exact ⟨ok, rfl⟩
    · intro hok
      exact absurd rfl (hok ok conn)
  | server report hheader =>
    refine ⟨by simp, ?_, ?_, by simp [hheader], ?_⟩
    · intro report' conn
      constructor
      · intro h
        cases h
        exact ⟨rfl, rfl⟩
      · rintro ⟨h, -⟩
        cases h
        rfl
    · intro report' conn h
      cases h
      exact hready
    · intro _ hserver
      exact absurd rfl (hserver report answered)
  | @columns count hheader =>
    refine ⟨?_, ?_, by simp [resultSetError], ?_, ?_⟩
    · intro conn
      constructor
      · rintro ⟨ok, h⟩
        cases h
      · rintro ⟨rows, hrows, hfinished, -⟩
        cases hfinished.symm.trans (finished_of_queryColumns hrows)
    · intro report conn
      constructor
      · intro h
        cases h
      · rintro ⟨hreport, hcalls⟩
        exact absurd hcalls (calls_ne_of_queryColumns hreport)
    · intro count'
      constructor
      · rintro ⟨text, conn, h, hpending⟩
        cases h
        cases hpending
        exact ⟨hheader, rfl⟩
      · rintro ⟨hheader', -⟩
        cases hheader.symm.trans hheader'
        exact ⟨_, _, rfl, rfl⟩
    · intro _ _ hcolumns
      exact absurd rfl (hcolumns _ count _ rfl)
  | malformed hbreaks hknown =>
    refine agreement_of_breaks hbreaks hbreaks (header_ne_resultSet hknown) hready.settled
      hready.settled rfl ?_
    obtain hok | herror := hknown
    · simp [hready.valid, hok]
    · simp [hready.valid, herror]
  | unknown hbreaks hheader hbreaks' hok herror =>
    exact agreement_of_breaks hbreaks hbreaks' (by simp [hheader]) hready.settled hready.settled rfl
      (by simp [invalidate, hok, herror])

variable [LawfulTransport τ]

/-- A statement and a query agree on the first packet of their answer, whatever it is. -/
theorem exec_agrees_query (hsend : send (.query sql) conn = .ok () sent)
    (hread : Transport.readPacket sent.transport = (.ok packet, t)) :
    Agreement packet { sent with transport := t } (exec sql conn) (conn.query sql) := by
  have hready := ready_of_send hsend
  exact (outcomes_of_packet hsend hread rfl).agreement ⟨hready.valid, hready.settled⟩

/-- An EOF packet where no result can end: a statement takes it for what it is, a query for a count
of columns that is cut short. -/
theorem exec_agrees_query_eof :
    ∃ sent t, send (.query "SELECT 7") (answering [[0xFE, 0, 0]]) = .ok () sent ∧
      Transport.readPacket sent.transport = (.ok [0xFE, 0, 0], t) ∧
      Agreement [0xFE, 0, 0] { sent with transport := t }
        (exec "SELECT 7" (answering [[0xFE, 0, 0]]))
        ((answering [[0xFE, 0, 0]]).query "SELECT 7") :=
  ⟨_, _, rfl, rfl, exec_agrees_query rfl rfl⟩

end Observed

end SqlClient.Connection
