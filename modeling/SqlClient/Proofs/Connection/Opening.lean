import SqlClient.Proofs.Connection.Actions
import SqlClient.Proofs.Response.WellFormed

namespace SqlClient.Connection

open Response

variable {τ : Type} {conn conn' : Connection τ} {sql : String}

def QueryResult.ofError : Error → Connection τ → QueryResult τ
  | .server report, conn => .error (.server report) conn
  | failure, conn => .error failure conn.invalidate

theorem ofError_of_breaks {error : Error} (h : error.breaksConnection = true)
    (conn : Connection τ) : QueryResult.ofError error conn = .error error conn.invalidate := by
  cases error with
  | server => cases h
  | _ => rfl

theorem ofError_ne_cursor (error : Error) (conn : Connection τ) (rows : Cursor (ResultSet τ)) :
    QueryResult.ofError error conn ≠ .cursor rows := by
  cases error <;> simp [QueryResult.ofError]

theorem error?_ofError (error : Error) (conn : Connection τ) :
    (QueryResult.ofError error conn).error? = some error := by
  cases error <;> rfl

theorem transport_ofError {error error' : Error}
    (h : QueryResult.ofError error conn = .error error' conn') :
    conn'.transport = conn.transport := by
  unfold QueryResult.ofError at h
  split at h <;> cases h <;> rfl

variable [Transport τ]

theorem readColumns_eq_ok {count : Nat} {columns : List Column} :
    readColumns count conn = .ok columns conn' ↔
      ∃ definitions t, definitions.length = count ∧ Defines definitions columns ∧
        Takes conn.transport definitions t ∧ conn' = { conn with transport := t } := by
  induction count generalizing conn columns with
  | zero =>
    constructor
    · rintro ⟨⟩
      exact ⟨[], _, rfl, .nil, .nil _, rfl⟩
    · rintro ⟨definitions, t, hlength, hcolumns, htakes, rfl⟩
      rw [List.length_eq_zero_iff] at hlength
      subst hlength
      cases hcolumns
      cases htakes
      rfl
  | succ count ih =>
    simp only [readColumns, bind_eq_ok, readResponse_eq_ok, liftExcept_eq_ok]
    constructor
    · rintro ⟨packet, _, ⟨t, hread, rfl⟩, column, _, ⟨hdecode, rfl⟩, columns', _, hcolumns, ⟨⟩⟩
      obtain ⟨definitions, t', hlength, hall, htakes, rfl⟩ := ih.mp hcolumns
      exact ⟨packet :: definitions, t', by simp [hlength], .cons hdecode hall, .cons hread htakes,
        rfl⟩
    · rintro ⟨definitions, t, hlength, hcolumns, htakes, rfl⟩
      cases hcolumns with
      | nil => cases hlength
      | @cons packet column definitions columns hdecode hall =>
        cases htakes with
        | cons hread hrest =>
          refine ⟨packet, _, ⟨_, hread, rfl⟩, column, _, ⟨hdecode, rfl⟩, columns, _, ?_, rfl⟩
          exact ih.mpr ⟨definitions, t, by simpa using hlength, hall, hrest, rfl⟩

def readSeparator (caps : Capabilities) : Action τ Unit := do
  if !caps.has Capabilities.deprecateEof then
    let _ ← liftExcept (EofResponse.decode (← readResponse))

theorem readSeparator_eq_ok {caps : Capabilities} :
    readSeparator caps conn = .ok () conn' ↔
      ∃ separator t, Separator caps separator ∧ Takes conn.transport separator t ∧
        conn' = { conn with transport := t } := by
  cases hcaps : caps.has Capabilities.deprecateEof with
  | true =>
    simp only [readSeparator, Separator, hcaps]
    constructor
    · rintro ⟨⟩
      exact ⟨[], conn.transport, rfl, .nil _, rfl⟩
    · rintro ⟨separator, t, ⟨⟩, ⟨⟩, rfl⟩
      rfl
  | false =>
    simp only [readSeparator, Separator, hcaps, Bool.not_false, if_true, Bool.false_eq_true,
      if_false, bind_eq_ok, readResponse_eq_ok, liftExcept_eq_ok]
    constructor
    · rintro ⟨packet, _, ⟨t, hread, rfl⟩, eof, _, ⟨hdecode, rfl⟩, ⟨⟩⟩
      exact ⟨[packet], t, ⟨packet, eof, rfl, hdecode⟩, .one hread, rfl⟩
    · rintro ⟨separator, t, ⟨packet, eof, rfl, hdecode⟩, htakes, rfl⟩
      cases htakes with
      | cons hread hrest =>
        cases hrest
        exact ⟨packet, _, ⟨t, hread, rfl⟩, eof, _, ⟨hdecode, rfl⟩, rfl⟩

def columnPhase (caps : Capabilities) (count : Nat) : Action τ (List Column) := do
  let columns ← readColumns count
  readSeparator caps
  return columns

theorem columnPhase_eq_ok {caps : Capabilities} {count : Nat} {columns : List Column} :
    columnPhase caps count conn = .ok columns conn' ↔
      ∃ definitions separator t, definitions.length = count ∧ Defines definitions columns ∧
        Separator caps separator ∧ Takes conn.transport (definitions ++ separator) t ∧
        conn' = { conn with transport := t } := by
  simp only [columnPhase, bind_eq_ok, readColumns_eq_ok]
  constructor
  · rintro ⟨columns', _, ⟨definitions, t, hlength, hall, hdefinitions, rfl⟩, _, _, hbehind, hpure⟩
    obtain ⟨separator, t', hseparator, hrest, rfl⟩ := readSeparator_eq_ok.mp hbehind
    cases hpure
    exact ⟨definitions, separator, t', hlength, hall, hseparator, hdefinitions.append hrest, rfl⟩
  · rintro ⟨definitions, separator, t, hlength, hall, hseparator, htakes, rfl⟩
    obtain ⟨t', hdefinitions, hrest⟩ := htakes.split
    have hbehind : readSeparator caps { conn with transport := t' } =
        .ok () { conn with transport := t } :=
      readSeparator_eq_ok.mpr ⟨separator, t, hseparator, hrest, rfl⟩
    exact ⟨columns, _, ⟨definitions, t', hlength, hall, hdefinitions, rfl⟩, (), _, hbehind, rfl⟩

theorem readResultHeader_apply (conn : Connection τ) :
    readResultHeader conn = match readResponse conn with
      | .error error conn' => .error error conn'
      | .ok packet conn' => match Header.decode packet with
        | .error error => .error error conn'
        | .ok (.ok payload) => match OkResponse.decode conn.capabilities payload with
          | .error error => .error error conn'
          | .ok ok => .ok none (if ok.status.has Status.moreResults then
              { conn' with pending := .nextResult } else conn')
        | .ok (.resultSet count) => match columnPhase conn.capabilities count conn' with
          | .error error conn' => .error error conn'
          | .ok columns conn' => .ok (some columns) conn' := by
  unfold readResultHeader
  rw [bind_apply, get_apply]
  dsimp only
  rw [bind_apply]
  cases readResponse conn with
  | error => rfl
  | ok packet conn₁ =>
    dsimp only
    rw [bind_apply, liftExcept_apply]
    rcases Header.decode packet with error | header
    · rfl
    · cases header with
      | ok payload =>
        dsimp only
        rw [bind_apply, liftExcept_apply]
        cases OkResponse.decode conn.capabilities payload with
        | error => rfl
        | ok ok =>
          dsimp only
          rw [bind_apply, noteMoreResults_apply]
          rfl
      | resultSet count =>
        dsimp only
        rw [columnPhase, bind_apply, bind_apply]
        cases readColumns count conn₁ with
        | error => rfl
        | ok columns conn₂ =>
          dsimp only
          rw [bind_apply]
          cases hcaps : conn.capabilities.has Capabilities.deprecateEof with
          | true => simp only [readSeparator, hcaps]; rfl
          | false =>
            simp only [readSeparator, hcaps, Bool.not_false, if_true, bind_apply]
            cases readResponse conn₂ with
            | error => rfl
            | ok eof conn₃ =>
              dsimp only
              cases liftExcept (EofResponse.decode eof) conn₃ <;> rfl

theorem readHeaderOrFail_apply (conn : Connection τ) :
    readHeaderOrFail conn = match readResultHeader conn with
      | .ok columns conn' => .ok columns conn'
      | .error (.server report) conn' => .error (.server report) conn'
      | .error error conn' => .error error conn'.invalidate := by
  change EStateM.tryCatch readResultHeader _ conn = _
  unfold EStateM.tryCatch
  dsimp only
  cases readResultHeader conn with
  | ok => rfl
  | error error => cases error <;> rfl

def queryColumns (caps : Capabilities) (count : Nat) (conn : Connection τ) : QueryResult τ :=
  match columnPhase caps count conn with
  | .error error conn' => .ofError error conn'
  | .ok columns conn' =>
    .cursor (.ofStream { conn := { conn' with pending := .rows }, columns, finished := false })

theorem finished_of_queryColumns {caps : Capabilities} {count : Nat} {rows : Cursor (ResultSet τ)}
    (h : conn.queryColumns caps count = .cursor rows) : rows.stream.finished = false := by
  unfold queryColumns at h
  split at h
  · exact absurd h (ofError_ne_cursor _ _ _)
  · cases h
    rfl

theorem query_of_send {sent : Connection τ} (hsend : send (.query sql) conn = .ok () sent) :
    conn.query sql = match readResultHeader sent with
      | .error error conn' => .ofError error conn'
      | .ok (some columns) conn' =>
        .cursor (.ofStream { conn := { conn' with pending := .rows }, columns, finished := false })
      | .ok none conn' => .cursor (.ofStream { conn := conn', columns := [], finished := true }) := by
  have hanswer : (send (.query sql) *> readHeaderOrFail) conn = readHeaderOrFail sent := by
    rw [seqRight_apply, hsend]
  unfold query
  rw [hanswer, readHeaderOrFail_apply]
  rcases readResultHeader sent with ⟨_ | columns, conn'⟩ | ⟨error, conn'⟩
  · rfl
  · rfl
  · cases error <;> rfl

/-- A query, by the packet it reads first. -/
theorem query_of_packet {sent : Connection τ} {packet : Bytes} {t : τ}
    (hsend : send (.query sql) conn = .ok () sent)
    (hread : Transport.readPacket sent.transport = (.ok packet, t)) :
    conn.query sql = match Header.decode packet with
      | .error error => .ofError error { sent with transport := t }
      | .ok (.ok payload) => match OkResponse.decode sent.capabilities payload with
        | .error error => .ofError error { sent with transport := t }
        | .ok ok => .cursor (.ofStream {
            conn := if ok.status.has Status.moreResults then
              { sent with transport := t, pending := .nextResult } else { sent with transport := t }
            columns := [], finished := true })
      | .ok (.resultSet count) => queryColumns sent.capabilities count { sent with transport := t } := by
  rw [query_of_send hsend, readResultHeader_apply, readResponse_eq_ok.mpr ⟨t, hread, rfl⟩]
  dsimp only
  cases Header.decode packet with
  | error error => rfl
  | ok header =>
    cases header with
    | ok payload =>
      dsimp only
      cases OkResponse.decode sent.capabilities payload <;> rfl
    | resultSet count =>
      dsimp only
      rw [queryColumns]
      cases columnPhase sent.capabilities count { sent with transport := t } <;> rfl

theorem query_of_send_error {error : Error} {sent : Connection τ}
    (hsend : send (.query sql) conn = .error error sent) : conn.query sql = .error error sent := by
  simp only [query, seqRight_apply, hsend]

theorem exec_of_send_error {error : Error} {sent : Connection τ}
    (hsend : send (.query sql) conn = .error error sent) : exec sql conn = .error error sent := by
  rw [exec, bind_apply, hsend]

theorem ping_of_send_error {error : Error} {sent : Connection τ}
    (hsend : send .ping conn = .error error sent) : ping conn = .error error sent := by
  rw [ping, bind_apply, hsend]

theorem send_of_query {cursor : Cursor (ResultSet τ)} (h : conn.query sql = .cursor cursor) :
    ∃ sent, send (.query sql) conn = .ok () sent := by
  cases hsend : send (.query sql) conn with
  | ok _ sent => exact ⟨sent, rfl⟩
  | error error sent =>
    rw [query_of_send_error hsend] at h
    cases h

theorem readResultHeader_eq_some {columns : List Column} :
    readResultHeader conn = .ok (some columns) conn' ↔
      ∃ front t, Front conn.capabilities columns front ∧ Takes conn.transport front t ∧
        conn' = { conn with transport := t } := by
  rw [readResultHeader_apply]
  constructor
  · intro h
    split at h
    · cases h
    next header conn₁ hresponse =>
    obtain ⟨t₁, hread, rfl⟩ := readResponse_eq_ok.mp hresponse
    split at h
    · cases h
    · split at h <;> cases h
    next count hheader =>
    split at h
    · cases h
    next hphase =>
    obtain ⟨definitions, separator, t₂, rfl, hall, hseparator, htakes, rfl⟩ :=
      columnPhase_eq_ok.mp hphase
    cases h
    exact ⟨_, t₂, .intro hheader hall hseparator, .cons hread htakes, rfl⟩
  · rintro ⟨_, t, ⟨hheader, hcolumns, hseparator⟩, htakes, rfl⟩
    cases htakes with
    | cons hread htakes =>
      rw [readResponse_eq_ok.mpr ⟨_, hread, rfl⟩]
      simp only [hheader]
      rw [columnPhase_eq_ok.mpr ⟨_, _, t, rfl, hcolumns, hseparator, htakes, rfl⟩]

/-- A query gives a cursor over rows exactly when the answer starts like a result set. -/
theorem query_eq_cursor_iff {sent : Connection τ} {cursor : Cursor (ResultSet τ)}
    (hsend : send (.query sql) conn = .ok () sent) :
    (conn.query sql = .cursor cursor ∧ cursor.stream.finished = false) ↔
      ∃ front columns t, Front sent.capabilities columns front ∧ Takes sent.transport front t ∧
        cursor = .ofStream {
          conn := { sent with transport := t, pending := .rows }, columns, finished := false } := by
  rw [query_of_send hsend]
  constructor
  · rintro ⟨h, hfinished⟩
    split at h
    · exact absurd h (ofError_ne_cursor _ _ _)
    · next columns conn' hresult =>
      obtain ⟨front, t, hfront, htakes, rfl⟩ := readResultHeader_eq_some.mp hresult
      cases h
      exact ⟨front, columns, t, hfront, htakes, rfl⟩
    · cases h
      cases hfinished
  · rintro ⟨front, columns, t, hfront, htakes, rfl⟩
    rw [readResultHeader_eq_some.mpr ⟨front, t, hfront, htakes, rfl⟩]
    exact ⟨rfl, rfl⟩

section Answered

variable {sent : Connection τ} {cursor : Cursor (ResultSet τ)}

theorem exists_readPacket_of_query (hsend : send (.query sql) conn = .ok () sent)
    (hquery : conn.query sql = .cursor cursor) :
    ∃ packet t, Transport.readPacket sent.transport = (.ok packet, t) := by
  rcases hread : Transport.readPacket sent.transport with ⟨error | packet, t⟩
  · rw [query_of_send hsend, readResultHeader_apply, readResponse_apply, hread] at hquery
    exact absurd hquery (ofError_ne_cursor _ _ _)
  · exact ⟨packet, t, rfl⟩

theorem finished_of_query (hsend : send (.query sql) conn = .ok () sent)
    (hquery : conn.query sql = .cursor cursor) {header : Bytes} {t : τ} {count : Nat}
    (hread : Transport.readPacket sent.transport = (.ok header, t))
    (hheader : Header.decode header = .ok (.resultSet count)) : cursor.stream.finished = false := by
  rw [query_of_packet hsend hread, hheader] at hquery
  exact finished_of_queryColumns hquery

end Answered

section FirstPacket

variable {sent : Connection τ} {packet : Bytes} {t : τ}

theorem query_of_error (hsend : send (.query sql) conn = .ok () sent)
    (hread : Transport.readPacket sent.transport = (.ok packet, t)) {report : ServerError}
    (h : ServerError.decode packet = .ok report) :
    conn.query sql = .error (.server report) { sent with transport := t } := by
  have hheader : Header.decode packet = .error (.server report) := by
    rw [header_of_isError (isError_of_serverError h), ofResponse_of_serverError h]
  rw [query_of_packet hsend hread, hheader]
  rfl

theorem query_of_ok (hsend : send (.query sql) conn = .ok () sent) (hpending : sent.pending = .none)
    (hread : Transport.readPacket sent.transport = (.ok packet, t)) {ok : OkResponse}
    (hhead : packet.head? = some okHeader)
    (h : OkResponse.decode sent.capabilities packet = .ok ok) :
    conn.query sql = .cursor (.ofStream {
      conn := { sent with transport := t, pending := .afterResult ok.status }
      columns := [], finished := true }) := by
  rw [query_of_packet hsend hread, header_of_ok hhead]
  simp only [h, Pending.afterResult]
  split <;> simp [hpending]

def execAnswer (packet : Bytes) : Action τ OkResponse := do
  match ← orFail (Response.kind packet) with
  | .ok =>
    let ok ← liftExcept (OkResponse.decode (← get).capabilities packet)
    noteMoreResults ok.status
    return ok
  | .error => throw (Error.ofResponse packet)
  | .resultSet =>
    if packet.head? = some localInfileHeader then fail .localInfile
    let count ← orFail (Decoder.lenencInt.decode packet)
    modify fun conn ↦ { conn with pending := .columns count.toNat }
    throw resultSetError
  | .eof => fail .invalidPacket

theorem exec_of_send (hsend : send (.query sql) conn = .ok () sent) :
    exec sql conn = match readResponse sent with
      | .error error conn' => .error error conn'
      | .ok packet conn' => execAnswer packet conn' := by
  unfold exec
  rw [bind_apply, hsend]
  dsimp only
  rw [bind_apply]
  cases readResponse sent <;> rfl

theorem execAnswer_apply (packet : Bytes) (conn : Connection τ) :
    execAnswer packet conn = match kind packet with
      | .error error => .error error conn.invalidate
      | .ok .ok => match OkResponse.decode conn.capabilities packet with
        | .error error => .error error conn
        | .ok ok => .ok ok
          (if ok.status.has Status.moreResults then { conn with pending := .nextResult } else conn)
      | .ok .error => .error (Error.ofResponse packet) conn
      | .ok .resultSet =>
        if packet.head? = some localInfileHeader then .error .localInfile conn.invalidate
        else match Decoder.lenencInt.decode packet with
          | .error error => .error error conn.invalidate
          | .ok count => .error resultSetError { conn with pending := .columns count.toNat }
      | .ok .eof => .error .invalidPacket conn.invalidate := by
  rw [execAnswer, bind_apply, orFail_apply]
  cases kind packet with
  | error error => rfl
  | ok kind =>
    cases kind with
    | ok =>
      simp only [bind_apply, get_apply, liftExcept_apply]
      cases OkResponse.decode conn.capabilities packet with
      | error error => rfl
      | ok ok => simp only [noteMoreResults_apply, pure_apply]
    | error | eof => rfl
    | resultSet =>
      by_cases hlocal : packet.head? = some localInfileHeader
      · simp only [hlocal, if_true, bind_apply, fail_apply]
      · simp only [hlocal, if_false, bind_apply, orFail_apply]
        cases Decoder.lenencInt.decode packet <;> rfl

theorem execAnswer_of_isError (h : isError packet) (conn : Connection τ) :
    execAnswer packet conn = .error (Error.ofResponse packet) conn := by
  rw [execAnswer_apply, kind_of_isError h]

theorem execAnswer_of_error {report : ServerError} (h : ServerError.decode packet = .ok report) :
    execAnswer packet conn = .error (.server report) conn := by
  rw [execAnswer_of_isError (isError_of_serverError h), ofResponse_of_serverError h]

theorem execAnswer_of_ok (hpending : conn.pending = .none) {ok : OkResponse}
    (hhead : packet.head? = some okHeader)
    (h : OkResponse.decode conn.capabilities packet = .ok ok) :
    execAnswer packet conn = .ok ok { conn with pending := .afterResult ok.status } := by
  rw [execAnswer_apply, kind_of_ok hhead]
  simp only [h, Pending.afterResult]
  split <;> simp [← hpending]

theorem execAnswer_of_count {count : UInt64} (hkind : kind packet = .ok .resultSet)
    (hlocal : packet.head? ≠ some localInfileHeader)
    (hcount : Decoder.lenencInt.decode packet = .ok count) :
    execAnswer packet conn =
      .error resultSetError { conn with pending := .columns count.toNat } := by
  rw [execAnswer_apply, hkind]
  simp only [hlocal, if_false, hcount]

/-- Only the header of a result set is rejected. -/
theorem execAnswer_eq_rejection (h : execAnswer packet conn = .error resultSetError conn') :
    ∃ count, kind packet = .ok .resultSet ∧ packet.head? ≠ some localInfileHeader ∧
      Decoder.lenencInt.decode packet = .ok count ∧
      conn' = { conn with pending := .columns count.toNat } := by
  -- Errors that break the connection are told from the rejection by the verdict on them.
  have hkept : resultSetError.breaksConnection = false := rfl
  rw [execAnswer_apply] at h
  split at h
  · next hkind =>
    obtain ⟨herror, -⟩ := EStateM.Result.error.inj h
    rw [← herror, kind_eq_error hkind] at hkept
    cases hkept
  · split at h
    · next hdecode =>
      obtain ⟨rfl, -⟩ := EStateM.Result.error.inj h
      cases hkept.symm.trans ((plain_okResponse _).breaksConnection hdecode)
    · cases h
  · obtain ⟨herror, -⟩ := EStateM.Result.error.inj h
    obtain ⟨report, -, heq⟩ | hbreaks := ofResponse_cases packet
    · cases heq.symm.trans herror
    · rw [herror, hkept] at hbreaks
      cases hbreaks
  · next hkind =>
    split at h
    · cases h
    next hlocal =>
    split at h
    · next hcount =>
      obtain ⟨rfl, -⟩ := EStateM.Result.error.inj h
      cases hkept.symm.trans (Decoder.plain_lenencInt.breaksConnection hcount)
    · next count hcount =>
      obtain ⟨-, rfl⟩ := EStateM.Result.error.inj h
      exact ⟨count, hkind, hlocal, hcount, rfl⟩
  · cases h

theorem ping_of_error (hsend : send .ping conn = .ok () sent)
    (hread : Transport.readPacket sent.transport = (.ok packet, t)) {report : ServerError}
    (h : ServerError.decode packet = .ok report) :
    ping conn = .error (.server report) { sent with transport := t } := by
  simp only [ping, bind_apply, hsend, readResponse_eq_ok.mpr ⟨t, hread, rfl⟩, orFail_apply,
    kind_of_isError (isError_of_serverError h), ofResponse_of_serverError h, throw_apply]

theorem ping_of_ok (hsend : send .ping conn = .ok () sent)
    (hread : Transport.readPacket sent.transport = (.ok packet, t))
    (h : packet.head? = some okHeader) : ping conn = .ok () { sent with transport := t } := by
  simp only [ping, bind_apply, hsend, readResponse_eq_ok.mpr ⟨t, hread, rfl⟩, orFail_apply,
    kind_of_ok h, pure_apply]

end FirstPacket

end SqlClient.Connection
