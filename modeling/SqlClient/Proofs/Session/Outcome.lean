import SqlClient.Proofs.Connection.FirstPacket
import SqlClient.Proofs.Connection.Verdict
import SqlClient.Proofs.Session.Assertions

namespace SqlClient

open Response Connection

variable {τ : Type}

namespace Connection

variable {conn conn' sent : Connection τ} {error error' : Error} {sql : String}

/-- With nothing pending, the connection is broken unless the error is the server's. -/
structure Failed (error : Error) (conn : Connection τ) : Prop where
  settled : conn.pending = .none
  valid_iff : conn.isValid = true ↔ ∃ report, error = .server report

theorem failed_invalidate (hpending : conn.pending = .none) (hbreaks : error.breaksConnection = true) :
    Failed error conn.invalidate := by
  refine ⟨hpending, ?_⟩
  constructor
  · intro h
    cases h
  · rintro ⟨report, rfl⟩
    cases hbreaks

theorem failed_ofError (hpending : conn.pending = .none)
    (hsound : conn.isValid = true ∨ error.breaksConnection = true)
    (h : QueryResult.ofError error conn = .error error' conn') : Failed error' conn' := by
  cases error with
  | server report =>
    cases h
    obtain hvalid | hbreaks := hsound
    · exact ⟨hpending, by simp [hvalid]⟩
    · cases hbreaks
  | _ =>
    cases h
    exact ⟨hpending, by simp [invalidate]⟩

variable [Transport τ] [BreakingTransport τ]

def Breaks (error : Error) (conn : Connection τ) : Prop :=
  error.breaksConnection = true ∧ conn.pending = .none

theorem keeps_ready_readResponse : Keeps Ready Breaks (readResponse : Action τ Bytes) := by
  apply keeps_readResponse
  intro conn result t h hread
  cases result with
  | ok packet => exact ⟨h.valid, h.settled⟩
  | error error => exact ⟨BreakingTransport.breaks_of_readPacket hread, h.settled⟩

theorem keeps_ready_readSeparator (caps : Capabilities) :
    Keeps Ready Breaks (readSeparator caps : Action τ Unit) := by
  unfold readSeparator
  split
  · refine keeps_ready_readResponse.bind fun packet ↦ ?_
    refine (keeps_liftExcept fun error herror conn hconn ↦ ?_).bind fun _ ↦ keeps_pure _
    exact ⟨plain_eofResponse.breaksConnection herror, hconn.settled⟩
  · exact keeps_pure _

theorem keeps_ready_columnPhase (caps : Capabilities) (count : Nat) :
    Keeps Ready Breaks (columnPhase caps count : Action τ (List Column)) := by
  refine (keeps_ready_readResponse.readColumns ?_ count).bind fun columns ↦ ?_
  · intro packet error herror conn hconn
    exact ⟨plain_column.breaksConnection herror, hconn.settled⟩
  · exact (keeps_ready_readSeparator _).bind fun _ ↦ keeps_pure _

theorem failed_of_queryColumns (hready : conn.Ready) {caps : Capabilities} {count : Nat}
    (h : conn.queryColumns caps count = .error error conn') : Failed error conn' := by
  have hphase := keeps_ready_columnPhase caps count conn hready
  unfold queryColumns at h
  split at h
  · next heq =>
    rw [heq] at hphase
    exact failed_ofError hphase.2 (.inr hphase.1) h
  · cases h

theorem failed_of_send (hready : conn.Ready) {command : Command}
    (h : send command conn = .error error conn') : Failed error conn' := by
  rw [send_of_ready hready] at h
  split at h
  · cases h
  · next hwrite =>
    cases h
    exact failed_invalidate hready.settled (BreakingTransport.breaks_of_writeCommand hwrite)

theorem failed_of_query (hready : conn.Ready)
    (h : conn.query sql = .error error conn') : Failed error conn' := by
  cases hsend : send (.query sql) conn with
  | error failure sent =>
    rw [query_of_send_error hsend] at h
    cases h
    exact failed_of_send hready hsend
  | ok _ sent =>
    have hsent := ready_of_send hsend
    rcases hread : Transport.readPacket sent.transport with ⟨failure | packet, t⟩
    · have hbroken : ({ sent with transport := t } : Connection τ).invalidate.pending = .none :=
        hsent.settled
      rw [query_of_send hsend, readResultHeader_apply, readResponse_apply, hread] at h
      exact failed_ofError hbroken (.inr (BreakingTransport.breaks_of_readPacket hread)) h
    have hanswered : ({ sent with transport := t } : Connection τ).Ready :=
      ⟨hsent.valid, hsent.settled⟩
    rw [query_of_packet hsend hread] at h
    split at h
    · exact failed_ofError hanswered.settled (.inl hanswered.valid) h
    · split at h
      · exact failed_ofError hanswered.settled (.inl hanswered.valid) h
      · cases h
    · exact failed_of_queryColumns hanswered h

end Connection

namespace Cursor

/-- There are no more rows, and more results if the status says so. -/
structure Exhausted (status : Status) (cursor : Cursor (ResultSet τ)) : Prop where
  exhausted : cursor.exhausted = true
  unbroken : cursor.readError = none
  valid : cursor.release.isValid = true
  pending : cursor.release.pending = .afterResult status

variable [Transport τ]

/-- What the first call for a row that gives none makes of the cursor. -/
inductive Ended (conn : Connection τ) (sql : String) (cursor last : Cursor (ResultSet τ)) : Prop
  | terminator {packet : Bytes} {status : Status} : cursor.stream.finished = false →
      Transport.readPacket cursor.release.transport = (.ok packet, last.release.transport) →
      isTerminator packet → terminatorStatus conn.capabilities packet = .ok status →
      last.Exhausted status → Ended conn sql cursor last
  | ok {packet : Bytes} {ok : OkResponse} : cursor.stream.finished = true →
      conn.reply? (.query sql) = some packet → OkResponse.decode conn.capabilities packet = .ok ok →
      last.Exhausted ok.status → Ended conn sql cursor last
  | denied {report : ServerError} : last.exhausted = false →
      last.readError = some (.server report) → last.release.isValid = true →
      last.release.pending = .none → Ended conn sql cursor last
  | broken {error : Error} : last.exhausted = false → last.readError = some error →
      (∀ report, error ≠ .server report) → last.release.isValid = false →
      Ended conn sql cursor last

variable {cursor cursor' next last : Cursor (ResultSet τ)} {conn : Connection τ}
  {caps : Capabilities} {sql : String}

structure Rowless (settled : Connection τ) (cursor : Cursor (ResultSet τ)) : Prop where
  reading : cursor.exhausted = false
  unbroken : cursor.readError = none
  finished : cursor.stream.finished = true
  release_eq : cursor.release = settled

theorem Rowless.after {settled : Connection τ} (h : cursor.Rowless settled)
    {operations : List Operation} (hanswers : ⟨.nextRow, false⟩ ∉ cursor.answers operations) :
    (cursor.after operations).Rowless settled := by
  refine after_of_advancing (Rowless settled) ?_ ?_ h hanswers
  · intro cursor next h hnext
    cases hnext.symm.trans (nextRow_of_finished h.reading h.unbroken h.finished)
  · intro cursor cursor' h hread
    refine ⟨?_, ?_, ?_, ?_⟩
    · rw [hread.exhausted_eq, h.reading]
    · rw [hread.readError_eq, h.unbroken]
    · rw [hread.stream_eq, h.finished]
    · exact (congrArg ResultSet.conn hread.stream_eq).trans h.release_eq

theorem Rowless.ended {settled : Connection τ} (h : cursor.Rowless settled) {packet : Bytes}
    {ok : OkResponse} (hreply : conn.reply? (.query sql) = some packet)
    (hdecode : OkResponse.decode conn.capabilities packet = .ok ok)
    (hvalid : settled.isValid = true) (hpending : settled.pending = .afterResult ok.status)
    (hnext : cursor.nextRow = (false, last)) : Ended conn sql cursor last := by
  cases hnext.symm.trans (nextRow_of_finished h.reading h.unbroken h.finished)
  refine .ok h.finished hreply hdecode ⟨rfl, h.unbroken, ?_, ?_⟩
  · exact (congrArg Connection.isValid h.release_eq).trans hvalid
  · exact (congrArg Connection.pending h.release_eq).trans hpending

theorem exists_rowless_of_query [LawfulTransport τ] {rows : Cursor (ResultSet τ)}
    (hquery : conn.query sql = .cursor rows) (hfinished : rows.stream.finished = true) :
    ∃ packet ok settled, conn.reply? (.query sql) = some packet ∧
      OkResponse.decode conn.capabilities packet = .ok ok ∧ settled.isValid = true ∧
      settled.pending = .afterResult ok.status ∧ rows.Rowless settled := by
  obtain ⟨sent, hsend⟩ := send_of_query hquery
  obtain ⟨packet, t, hread⟩ := exists_readPacket_of_query hsend hquery
  have hready := ready_of_send hsend
  have hpacket := query_of_packet hsend hread
  rw [hquery] at hpacket
  cases hheader : Header.decode packet with
  | error error =>
    simp only [hheader] at hpacket
    exact absurd hpacket.symm (ofError_ne_cursor _ _ _)
  | ok header =>
    cases header with
    | resultSet count => cases hfinished.symm.trans (finished_of_query hsend hquery hread hheader)
    | ok payload =>
      have hok := head?_of_header hheader
      cases hdecode : OkResponse.decode sent.capabilities packet with
      | ok ok =>
        cases hquery.symm.trans (query_of_ok hsend hready.settled hread hok hdecode)
        rw [capabilities_of_send hsend] at hdecode
        exact ⟨packet, ok, { sent with transport := t, pending := .afterResult ok.status },
          reply?_of_send hsend hread, hdecode, hready.valid, rfl, rfl, rfl, rfl, rfl⟩
      | error error =>
        simp only [header_of_ok hok, hdecode] at hpacket
        exact absurd hpacket.symm (ofError_ne_cursor _ _ _)

structure Reading (caps : Capabilities) (cursor : Cursor (ResultSet τ)) : Prop extends
    Live cursor where
  capabilities : cursor.release.capabilities = caps

theorem Reading.read (h : cursor.Reading caps) (hread : cursor.Reads cursor') :
    cursor'.Reading caps := by
  refine ⟨h.of_eq hread.stream_eq hread.exhausted_eq hread.readError_eq, ?_⟩
  rw [release, hread.stream_eq]
  exact h.capabilities

theorem Live.ended_of_fail (h : cursor.Live) {resultSet : ResultSet τ} {error : Error}
    (hfail : ResultSet.next cursor.stream = resultSet.fail error)
    (hvalid : resultSet.conn.isValid = true)
    (herror : (∃ report, error = .server report) ∨ error.breaksConnection = true)
    (hnext : cursor.nextRow = (false, last)) : Ended conn sql cursor last := by
  obtain ⟨last', hlast, hreading, hfailed, -, hrelease⟩ := h.nextRow_of_fail hfail
  cases hnext.symm.trans hlast
  obtain ⟨report, rfl⟩ | hbreaks := herror
  · rw [if_neg (by simp [Error.breaksConnection])] at hrelease
    exact .denied hreading hfailed (by rw [hrelease, hvalid]) (by rw [hrelease])
  · rw [if_pos hbreaks] at hrelease
    refine .broken hreading hfailed ?_ (by rw [hrelease]; rfl)
    rintro report rfl
    cases hbreaks

variable [LawfulTransport τ]

theorem Reading.nextRow (h : cursor.Reading caps) (hnext : cursor.nextRow = (true, next)) :
    next.Reading caps := by
  obtain ⟨packet, t, hread, -, rfl⟩ := nextRow_eq_true hnext
  refine ⟨h.toLive.onRow packet t, ?_⟩
  rw [← h.capabilities]
  exact (Takes.one hread).capabilities_eq

theorem Reading.after (h : cursor.Reading caps) {operations : List Operation}
    (hanswers : ⟨.nextRow, false⟩ ∉ cursor.answers operations) :
    (cursor.after operations).Reading caps :=
  after_of_advancing (Reading caps) (fun _ _ h ↦ h.nextRow) (fun _ _ h ↦ h.read) h hanswers

theorem Reading.ended [BreakingTransport τ] (h : cursor.Reading conn.capabilities)
    (hnext : cursor.nextRow = (false, last)) : Ended conn sql cursor last := by
  rcases hread : Transport.readPacket cursor.release.transport with ⟨error | packet, t⟩
  · exact h.ended_of_fail (ResultSet.next_of_readError h.unfinished hread) h.valid
      (.inr (BreakingTransport.breaks_of_readPacket hread)) hnext
  by_cases herror : isError packet
  · refine h.ended_of_fail (ResultSet.next_of_isError h.unfinished hread herror) h.valid ?_ hnext
    obtain ⟨report, -, hreport⟩ | hbreaks := ofResponse_cases packet
    · exact .inl ⟨report, hreport⟩
    · exact .inr hbreaks
  by_cases hterminator : isTerminator packet
  · have hcaps : Transport.capabilities t = conn.capabilities :=
      (Takes.one hread).capabilities_eq.trans h.capabilities
    cases hstatus : terminatorStatus (Transport.capabilities t) packet with
    | error error =>
      exact h.ended_of_fail (ResultSet.next_of_malformed h.unfinished hread hterminator hstatus)
        h.valid (.inr (breaksConnection_of_terminatorStatus hstatus)) hnext
    | ok status =>
      obtain ⟨last', hlast, hexhausted, hunbroken, -, -, hrelease⟩ :=
        h.nextRow_of_terminator hread hterminator hstatus
      cases hnext.symm.trans hlast
      rw [hcaps] at hstatus
      refine .terminator h.unfinished (by rw [hrelease]; exact hread) hterminator hstatus ?_
      exact ⟨hexhausted, hunbroken, by rw [hrelease]; exact h.valid, by rw [hrelease]⟩
  · have hrow : isRow packet := by simp [isRow, herror, hterminator]
    cases hnext.symm.trans (h.nextRow_of_isRow hread hrow)

theorem reading_of_query {rows : Cursor (ResultSet τ)} (hquery : conn.query sql = .cursor rows)
    (hfinished : rows.stream.finished = false) : rows.Reading conn.capabilities := by
  obtain ⟨sent, hsend⟩ := send_of_query hquery
  obtain ⟨front, columns, t, -, htakes, rfl⟩ := (query_eq_cursor_iff hsend).mp ⟨hquery, hfinished⟩
  have hvalid := (ready_of_send hsend).valid
  refine ⟨live_ofStream { sent with transport := t, pending := .rows } hvalid rfl columns, ?_⟩
  rw [← capabilities_of_send hsend]
  exact htakes.capabilities_eq

end Cursor

namespace Connection

variable [Transport τ] [LawfulTransport τ] [BreakingTransport τ] {conn : Connection τ}

/-- What a query leaves of a connection that was ready for it, at every point up to the end of its
rows. -/
theorem query_outcome (hready : conn.Ready) (sql : String) :
    (∀ error conn', conn.query sql = .error error conn' → Failed error conn') ∧
    ∀ rows, conn.query sql = .cursor rows →
      ∀ operations, ⟨.nextRow, false⟩ ∉ rows.answers operations →
        (rows.stream.finished = false →
          (rows.after operations).release.isValid = true ∧
            (rows.after operations).release.pending = .rows) ∧
        ∀ last, (rows.after operations).nextRow = (false, last) →
          Cursor.Ended conn sql (rows.after operations) last := by
  refine ⟨fun error conn' ↦ failed_of_query hready, ?_⟩
  intro rows hquery operations hanswers
  cases hfinished : rows.stream.finished with
  | false =>
    have hreading := (Cursor.reading_of_query hquery hfinished).after hanswers
    exact ⟨fun _ ↦ ⟨hreading.valid, hreading.pending⟩, fun last ↦ hreading.ended⟩
  | true =>
    obtain ⟨packet, ok, settled, hreply, hdecode, hvalid, hpending, hrowless⟩ :=
      Cursor.exists_rowless_of_query hquery hfinished
    refine ⟨nofun, ?_⟩
    intro last hnext
    exact (hrowless.after hanswers).ended hreply hdecode hvalid hpending hnext

theorem query_outcome_cutOff :
    ∃ rows last, Turn.cutOff.query "SELECT 7" = .cursor rows ∧
      (rows.after [.nextRow]).release.pending = .rows ∧
      (rows.after [.nextRow]).nextRow = (false, last) ∧
      Cursor.Ended Turn.cutOff "SELECT 7" (rows.after [.nextRow]) last := by
  have hrun : (match Turn.cutOff.query "SELECT 7" with
      | .cursor rows => !rows.stream.finished && rows.nextRow.1 && !rows.nextRow.2.nextRow.1
      | .error _ _ => false) = true := by decide +kernel
  cases hquery : Turn.cutOff.query "SELECT 7" with
  | error error conn =>
    rw [hquery] at hrun
    cases hrun
  | cursor rows =>
    rw [hquery] at hrun
    simp only [Bool.and_eq_true, Bool.not_eq_true'] at hrun
    obtain ⟨⟨hfinished, hrow⟩, hlast⟩ := hrun
    have hready : Turn.cutOff.Ready := ⟨rfl, rfl⟩
    have hanswers : ⟨.nextRow, false⟩ ∉ rows.answers [.nextRow] := by
      simp only [Cursor.answers, Cursor.perform, hrow, List.mem_singleton]
      intro h
      cases h
    obtain ⟨hrows, hended⟩ := (query_outcome hready "SELECT 7").2 rows hquery _ hanswers
    have hnext : (rows.after [.nextRow]).nextRow = (false, rows.nextRow.2.nextRow.2) :=
      Prod.ext hlast rfl
    exact ⟨rows, _, rfl, (hrows hfinished).2, hnext, hended _ hnext⟩

end Connection

end SqlClient
