import SqlClient.Proofs.Connection.Handover
import SqlClient.Proofs.Connection.Opening

namespace SqlClient

open Response Connection Discard

namespace Connection

variable {τ : Type}

/-- A rejected statement has taken the header of its result set. The query has gone on to the
columns and what separates them from the rows. -/
theorem exec_rejection_of_query [Transport τ] [LawfulTransport τ] {conn rejected : Connection τ}
    {sql : String} {cursor : Cursor (ResultSet τ)} (hquery : conn.query sql = .cursor cursor)
    (hexec : exec sql conn = .error resultSetError rejected) :
    ∃ definitions separator columns t, cursor.Live ∧ Defines definitions columns ∧
      Separator (Transport.capabilities t) separator ∧
      Takes t (definitions ++ separator) cursor.release.transport ∧
      rejected = {
        cursor.release with transport := t, pending := .columns definitions.length } := by
  obtain ⟨sent, hsend⟩ := send_of_query hquery
  obtain ⟨header, t, hread⟩ := exists_readPacket_of_query hsend hquery
  rw [exec_of_send hsend, readResponse_eq_ok.mpr ⟨t, hread, rfl⟩] at hexec
  obtain ⟨count, hkind, -, hcount, rfl⟩ := execAnswer_eq_rejection hexec
  have hheader := header_of_kind hkind hcount
  obtain ⟨_, columns, t', hfront, htakes, rfl⟩ := (query_eq_cursor_iff hsend).mp
    ⟨hquery, finished_of_query hsend hquery hread hheader⟩
  obtain @⟨_, definitions, separator, hheader', hcolumns, hseparator⟩ := hfront
  cases htakes with
  | cons hread' htakes =>
    cases hread.symm.trans hread'
    have hlength : count.toNat = definitions.length := by simpa using hheader.symm.trans hheader'
    obtain ⟨hready, _, _, -, hsent⟩ := send_eq_ok.mp hsend
    have hvalid : sent.isValid = true := by
      rw [hsent]
      exact hready.valid
    have hlive := Cursor.live_ofStream { sent with transport := t', pending := .rows } hvalid rfl
      columns
    rw [Connection.capabilities, ← (Takes.one hread).capabilities_eq] at hseparator
    refine ⟨definitions, separator, columns, t, hlive, hcolumns, hseparator, htakes, ?_⟩
    rw [hlength]
    rfl

structure SettledAfter (conn : Connection (Observed τ)) (calls : List Call) : Prop where
  valid : conn.isValid = true
  settled : conn.hasPendingResult = false
  calls_eq : conn.transport.calls = calls

theorem Agree.settledAfter {conn conn' : Connection (Observed τ)} {calls : List Call}
    (h : conn.Agree conn') (hsettled : conn'.SettledAfter calls) : conn.SettledAfter calls :=
  ⟨h.isValid_eq.trans hsettled.valid, h.hasPendingResult_eq.trans hsettled.settled,
    by rw [h.transport_eq, hsettled.calls_eq]⟩

variable [FiniteTransport τ]

theorem settledAfter_discardFrom_iff (caps : Capabilities) (phase : Phase)
    (conn : Connection (Observed τ)) (pending : Pending) {calls : List Call} :
    (afterwards (discardFrom caps phase { conn with pending })).SettledAfter calls ↔
      (afterwards (discardFrom caps phase conn)).SettledAfter calls := by
  rw [discardFrom_pending caps phase conn pending]
  cases hresult : discardFrom caps phase conn with
  | ok _ conn' => rfl
  | error error conn' =>
    have hinvalid := isValid_of_discardFrom hresult
    constructor <;> rintro ⟨hvalid, -, -⟩ <;> cases hinvalid.symm.trans hvalid

section Columns

variable {caps : Capabilities} {conn : Connection τ} {definitions separator : List Bytes}
  {columns : List Column} {t : τ}

theorem discardFrom_of_columns (hpos : 0 < definitions.length)
    (hcolumns : Defines definitions columns) (hseparator : Separator caps separator)
    (htakes : Takes conn.transport (definitions ++ separator) t) :
    discardFrom caps (.columns definitions.length) conn =
      discardFrom caps .rows { conn with transport := t } := by
  have hpasses := (passes_of_columns caps hcolumns).append (passes_of_separator hseparator)
  rw [Phase.inColumns, if_neg (by omega)] at hpasses
  exact discardFrom_of_passes htakes hpasses

/-- Of no columns the machine takes one: the packet behind the header, or in sessions that separate
columns from rows the first of two. -/
theorem exists_discardFrom_of_no_columns (hseparator : Separator caps separator)
    (htakes : Takes conn.transport separator t) :
    ∃ phase ≠ .finished,
      discardFrom caps (.columns 0) conn = discardFrom caps phase { conn with transport := t } ∧
      ∀ packet, isError packet = false → phase.drive caps packet = .ok .rows := by
  unfold Separator at hseparator
  split at hseparator
  · next hcaps =>
    subst hseparator
    cases htakes
    exact ⟨.columns 0, by simp, rfl, fun packet hpacket ↦ by simp [Phase.drive, hpacket, hcaps]⟩
  · next hcaps =>
    obtain ⟨packet, eof, rfl, hdecode⟩ := hseparator
    have herror := isError_eq_false_of_eof hdecode
    cases htakes with
    | cons hread htakes =>
      cases htakes
      refine ⟨.intermediateEof, by simp, discardFrom_of_drive hread ?_ (by simp),
        fun packet' hpacket' ↦ drive_of_separator hpacket'⟩
      simp [Phase.drive, herror, hcaps]

end Columns

end Connection

namespace Cursor

variable {τ : Type} [FiniteTransport τ] {cursor : Cursor (ResultSet (Observed τ))}
  {calls : List Call}

/-- What a cursor meets next if the connection outlives it and no read fails. -/
theorem Live.exists_packet_of_settled (h : cursor.Live)
    (hcalls : ∀ error, calls.getLast? ≠ some (.read (.error error)))
    (hsettled : cursor.drain.release.discarded.SettledAfter calls) :
    ∃ packet t, Transport.readPacket cursor.release.transport = (.ok packet, t) ∧
      (isRow packet ∨ (∃ report, ServerError.decode packet = .ok report) ∨
        isTerminator packet ∧
          ∃ status, terminatorStatus (Transport.capabilities t) packet = .ok status) := by
  rcases hread : Transport.readPacket cursor.release.transport with ⟨error | packet, t⟩
  · obtain ⟨last, hnext, -, -, -, hrelease⟩ :=
      h.nextRow_of_fail (ResultSet.next_of_readError h.unfinished hread)
    rw [drain_of_false hnext, hrelease] at hsettled
    by_cases hbreaks : error.breaksConnection
    · rw [if_pos hbreaks, discarded_of_invalid rfl] at hsettled
      cases hsettled.valid
    · rw [if_neg hbreaks, discarded_of_settled rfl] at hsettled
      have hlast := hsettled.calls_eq
      rw [show t.calls = _ from Observed.calls_of_readPacket hread] at hlast
      exact absurd (by rw [← hlast, List.getLast?_concat]) (hcalls error)
  refine ⟨packet, t, rfl, ?_⟩
  by_cases herror : isError packet
  · refine .inr (.inl ?_)
    obtain ⟨last, hnext, -, -, -, hrelease⟩ :=
      h.nextRow_of_fail (ResultSet.next_of_isError h.unfinished hread herror)
    obtain ⟨report, hdecode, -⟩ | hbreaks := ofResponse_cases packet
    · exact ⟨report, hdecode⟩
    · rw [drain_of_false hnext, hrelease, if_pos hbreaks, discarded_of_invalid rfl] at hsettled
      cases hsettled.valid
  by_cases hterminator : isTerminator packet
  · refine .inr (.inr ⟨hterminator, ?_⟩)
    cases hstatus : terminatorStatus (Transport.capabilities t) packet with
    | ok status => exact ⟨status, rfl⟩
    | error error =>
      obtain ⟨last, hnext, -, -, -, hrelease⟩ :=
        h.nextRow_of_fail (ResultSet.next_of_malformed h.unfinished hread hterminator hstatus)
      have hbreaks := breaksConnection_of_terminatorStatus hstatus
      rw [drain_of_false hnext, hrelease, if_pos hbreaks, discarded_of_invalid rfl] at hsettled
      cases hsettled.valid
  · exact .inl (by simp [isRow, herror, hterminator])

theorem Live.settledAfter_of_drain [LawfulTransport τ] (h : cursor.Live)
    (hcalls : ∀ error, calls.getLast? ≠ some (.read (.error error)))
    (hsettled : cursor.drain.release.discarded.SettledAfter calls) :
    cursor.release.discarded.SettledAfter calls := by
  fun_induction drain cursor with
  | case1 cursor next hnext ih =>
    obtain ⟨packet, t, hread, hrow, rfl⟩ := nextRow_eq_true hnext
    rw [h.discarded_of_isRow hread hrow]
    exact ih (h.onRow packet t) hsettled
  | case2 cursor last hnext =>
    rw [← drain_of_false hnext] at hsettled
    obtain ⟨packet, t, hread, hrow | ⟨report, hdecode⟩ | ⟨hterminator, -⟩⟩ :=
      h.exists_packet_of_settled hcalls hsettled
    · rw [h.nextRow_of_isRow hread hrow] at hnext
      cases hnext
    · exact (h.agree_of_serverError hread hdecode).settledAfter hsettled
    · exact (h.agree_of_isTerminator hread hterminator).settledAfter hsettled

end Cursor

namespace Connection

variable {τ : Type} [FiniteTransport τ] [LawfulTransport τ]
  {conn rejected : Connection (Observed τ)} {sql : String} {cursor : Cursor (ResultSet (Observed τ))}
  {calls : List Call}

/-- Behind a header without columns the machine goes astray at most where the rows end at once: it
takes their terminator for something else and reads on for another. -/
theorem settledAfter_iff_of_no_columns (hlive : cursor.Live)
    (hcalls : ∀ error, calls.getLast? ≠ some (.read (.error error)))
    (hsettled : cursor.drain.release.discarded.SettledAfter calls) {phase : Phase}
    (hphase : phase ≠ .finished)
    (hdrive : ∀ packet, isError packet = false →
      phase.drive (Transport.capabilities cursor.release.transport) packet = .ok .rows) :
    (afterwards (discardFrom (Transport.capabilities cursor.release.transport) phase
        cursor.release)).SettledAfter calls ↔
      (cursor.nextRow.2.exhausted = true →
        (afterwards (discardFrom (Transport.capabilities cursor.release.transport) .rows
          cursor.nextRow.2.release)).SettledAfter calls) := by
  obtain ⟨packet, t, hread, hrow | ⟨report, hdecode⟩ | ⟨hterminator, status, hstatus⟩⟩ :=
    hlive.exists_packet_of_settled hcalls hsettled
  · obtain ⟨herror, -⟩ := isRow_eq_true_iff.mp hrow
    have hall := hlive.settledAfter_of_drain hcalls hsettled
    rw [hlive.discarded_eq, discardFrom_of_drive hread (drive_of_isRow hrow) (by simp)] at hall
    rw [discardFrom_of_drive hread (hdrive packet herror) (by simp)]
    exact iff_of_true hall fun _ ↦ by rwa [hlive.nextRow_of_isRow hread hrow]
  · have herror := isError_of_serverError hdecode
    have hall := hlive.settledAfter_of_drain hcalls hsettled
    rw [hlive.discarded_eq, discardFrom_of_finished hread (drive_of_isError herror (by simp))] at hall
    rw [discardFrom_of_finished hread (drive_of_isError herror hphase)]
    obtain ⟨last, hnext, hreading, -⟩ :=
      hlive.nextRow_of_fail (ResultSet.next_of_isError hlive.unfinished hread herror)
    refine iff_of_true hall fun hexhausted ↦ ?_
    rw [hnext] at hexhausted
    cases hreading.symm.trans hexhausted
  · have herror := isError_eq_false_of_isTerminator hterminator
    obtain ⟨last, hnext, hexhausted, -, -, -, hrelease⟩ :=
      hlive.nextRow_of_terminator hread hterminator hstatus
    rw [discardFrom_of_drive hread (hdrive packet herror) (by simp), hnext]
    simp only [hexhausted, true_imp_iff, hrelease]
    exact (settledAfter_discardFrom_iff _ _ { cursor.release with transport := t } _).symm

/-- Where a query that is read to the end leaves the connection in step, so does a statement whose
result set is thrown away, unless that has no columns and its rows end at once: then the connection
is in step only if the rows that the machine waits for happen to end at the same packet. -/
theorem discarded_rejected_iff (hexec : exec sql conn = .error resultSetError rejected)
    (hquery : conn.query sql = .cursor cursor) {written : Bytes} {packets : List Bytes}
    (hcalls : calls = conn.transport.calls ++
      .write written (.ok ()) :: packets.map fun packet ↦ .read (.ok packet))
    (hsettled : cursor.drain.release.discarded.SettledAfter calls) :
    rejected.discarded.SettledAfter calls ↔
      (rejected.pending = .columns 0 → cursor.nextRow.2.exhausted = true →
        (afterwards (discardFrom (Transport.capabilities cursor.release.transport) .rows
          cursor.nextRow.2.release)).SettledAfter calls) := by
  have hlast : ∀ error, calls.getLast? ≠ some (.read (.error error)) := by
    intro error hlast
    rw [hcalls, List.getLast?_append_of_ne_nil _ (by simp)] at hlast
    have hmem := List.mem_of_getLast? hlast
    simp at hmem
  obtain ⟨definitions, separator, columns, t, hlive, hcolumns, hseparator, htakes, hrejected⟩ :=
    exec_rejection_of_query hquery hexec
  have hcaps := htakes.capabilities_eq
  have hpending : rejected.pending = .columns definitions.length := by rw [hrejected]
  have htransport : rejected.transport = t := by rw [hrejected]
  have hvalid : rejected.isValid = true := by
    rw [hrejected]
    exact hlive.valid
  have hbehind : { rejected with transport := cursor.release.transport } =
      { cursor.release with pending := .columns definitions.length } := by rw [hrejected]
  have hphase : rejected.pending.phase = some (.columns definitions.length) := by
    rw [hpending]
    rfl
  rw [discarded_of_phase hvalid hphase, Connection.capabilities, htransport, hpending]
  rw [← htransport] at htakes
  by_cases hlength : definitions.length = 0
  · rw [List.length_eq_zero_iff] at hlength
    subst hlength
    obtain ⟨phase, hunfinished, heq, hdrive⟩ := exists_discardFrom_of_no_columns hseparator htakes
    rw [← hcaps] at heq hdrive
    have hiff := settledAfter_iff_of_no_columns hlive hlast hsettled hunfinished hdrive
    rw [← hcaps, List.length_nil, heq, hbehind, settledAfter_discardFrom_iff, hiff]
    simp
  · have hall := hlive.settledAfter_of_drain hlast hsettled
    rw [hlive.discarded_eq] at hall
    rw [discardFrom_of_columns (Nat.pos_of_ne_zero hlength) hcolumns hseparator htakes, ← hcaps,
      hbehind, settledAfter_discardFrom_iff]
    exact iff_of_true hall fun hcount ↦ absurd (Pending.columns.inj hcount) hlength

def answering (packets : List Bytes) : Connection (Observed ScriptedTransport) :=
  ofTransport { inner := {
    capabilities := .ofFlags [Capabilities.protocol41]
    script := packets.map .ok } }

def singleRow : List Bytes :=
  [[0x01], [3, 0x64, 0x65, 0x66, 0, 0, 0, 1, 0x61, 0, 12, 33, 0, 4, 0, 0, 0, 3, 0, 0, 0, 0, 0],
    [0xFE, 0, 0, 2, 0], [0x01, 0x37], [0xFE, 0, 0, 2, 0]]

theorem rejected_singleRow_settled :
    ∃ rejected cursor written calls,
      exec "SELECT 7" (answering singleRow) = .error resultSetError rejected ∧
      (answering singleRow).query "SELECT 7" = .cursor cursor ∧
      calls = (answering singleRow).transport.calls ++
        .write written (.ok ()) :: singleRow.map (fun packet ↦ .read (.ok packet)) ∧
      cursor.drain.release.discarded.SettledAfter calls ∧
      (rejected.discarded.SettledAfter calls ↔
        (rejected.pending = .columns 0 → cursor.nextRow.2.exhausted = true →
          (afterwards (discardFrom (Transport.capabilities cursor.release.transport) .rows
            cursor.nextRow.2.release)).SettledAfter calls)) := by
  obtain ⟨cursor, hquery, hrow⟩ : ∃ cursor,
      (answering singleRow).query "SELECT 7" = .cursor cursor ∧
      ∃ next last, cursor.nextRow = (true, next) ∧ next.nextRow = (false, last) ∧
        last.release.SettledAfter ((answering singleRow).transport.calls ++
          .write ((answering singleRow).room ++ (Command.query "SELECT 7").encode) (.ok ()) ::
            singleRow.map fun packet ↦ .read (.ok packet)) ∧
        last.release.pending = .none :=
    ⟨_, rfl, _, _, rfl, rfl, ⟨rfl, rfl, rfl⟩, rfl⟩
  obtain ⟨next, last, hnext, hlast, hsettled, hpending⟩ := hrow
  have hdrained : cursor.drain.release.discarded = last.release := by
    rw [Cursor.drain_of_true hnext, Cursor.drain_of_false hlast, discarded_of_settled hpending]
  rw [← hdrained] at hsettled
  exact ⟨_, cursor, _, _, rfl, hquery, rfl, hsettled,
    discarded_rejected_iff rfl hquery rfl hsettled⟩

def columnless : List Bytes :=
  [[0xFC, 0, 0], [0xFE, 0, 0, 2, 0], [0xFE, 0, 0, 2, 0]]

/-- A query reads three packets, but the machine waits for a fourth. -/
theorem rejected_columnless_not_settled :
    ∃ rejected cursor written calls,
      exec "SELECT 1" (answering columnless) = .error resultSetError rejected ∧
      (answering columnless).query "SELECT 1" = .cursor cursor ∧
      calls = (answering columnless).transport.calls ++
        .write written (.ok ()) :: columnless.map (fun packet ↦ .read (.ok packet)) ∧
      cursor.drain.release.discarded.SettledAfter calls ∧
      ¬ rejected.discarded.SettledAfter calls := by
  refine ⟨_, _, (answering columnless).room ++ (Command.query "SELECT 1").encode, _, rfl, rfl, rfl,
    ?_, ?_⟩
  · rw [Cursor.drain_of_false rfl, discarded_of_settled rfl]
    exact ⟨rfl, rfl, rfl⟩
  · rw [discarded_of_phase rfl rfl, discardFrom_of_drive rfl rfl (by simp),
      discardFrom_of_drive rfl rfl (by simp), discardFrom_of_readError rfl]
    rintro ⟨hvalid, -, -⟩
    cases hvalid

end Connection

end SqlClient
