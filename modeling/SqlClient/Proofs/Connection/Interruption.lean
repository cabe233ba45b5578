import SqlClient.Proofs.Connection.Opening
import SqlClient.Proofs.Cursor.Draining

namespace SqlClient

open Response Discard

namespace Response

variable {caps : Capabilities} {packet : Bytes}

theorem column_of_isError (h : isError packet) : Column.decode packet = .error .invalidPacket := by
  cases packet with
  | nil => cases h
  | cons first rest =>
    simp only [isError, List.head?_cons, Option.some.injEq, decide_eq_true_eq] at h
    subst h
    rfl

theorem eof_of_isError (h : isError packet) : EofResponse.decode packet = .error .invalidPacket := by
  cases packet with
  | nil => cases h
  | cons first rest =>
    simp only [isError, List.head?_cons, Option.some.injEq, decide_eq_true_eq] at h
    subst h
    rfl

inductive Begins (caps : Capabilities) : List Bytes → Phase → Prop
  | firstPacket : Begins caps [] .firstPacket
  | columns {header : Bytes} {definitions : List Bytes} {columns : List Column} {count : Nat} :
      Header.decode header = .ok (.resultSet count) → Defines definitions columns →
      definitions.length < count →
      Begins caps (header :: definitions) (.columns (count - definitions.length))
  | intermediateEof {header : Bytes} {definitions : List Bytes} {columns : List Column} :
      Header.decode header = .ok (.resultSet definitions.length) → Defines definitions columns →
      0 < definitions.length → caps.has Capabilities.deprecateEof = false →
      Begins caps (header :: definitions) .intermediateEof
  | rows {front rows : List Bytes} {columns : List Column} :
      Front caps columns front → 0 < columns.length → (∀ row ∈ rows, isRow row) →
      Begins caps (front ++ rows) .rows

end Response

namespace Discard

theorem passes_of_begins {caps : Capabilities} {front : List Bytes} {phase : Phase}
    (h : Begins caps front phase) : Passes caps .firstPacket front phase ∧ phase ≠ .finished := by
  cases h with
  | firstPacket => exact ⟨.nil _, by simp⟩
  | @columns header definitions columns count hheader hcolumns hcount =>
    have hpasses := passes_of_some_columns caps hcolumns (count - definitions.length)
    rw [Nat.add_sub_cancel' (Nat.le_of_lt hcount), Phase.inColumns, if_neg (by omega),
      Phase.inColumns, if_neg (by omega)] at hpasses
    exact ⟨.cons (drive_of_header hheader) (by simp) hpasses, by simp⟩
  | @intermediateEof header definitions columns hheader hcolumns hpos hcaps =>
    have hpasses := passes_of_columns caps hcolumns
    rw [Phase.inColumns, if_neg (by omega), Phase.behindColumns, hcaps] at hpasses
    exact ⟨.cons (drive_of_header hheader) (by simp) hpasses, by simp⟩
  | @rows front rows columns hfront hpos hrows =>
    obtain @⟨header, definitions, separator, hheader, hcolumns, hseparator⟩ := hfront
    have hpasses := ((passes_of_columns caps hcolumns).append
      (passes_of_separator hseparator)).append (passes_of_rows caps hrows)
    rw [hcolumns.length_eq, Phase.inColumns, if_neg (by omega), ← hcolumns.length_eq] at hpasses
    exact ⟨.cons (drive_of_header hheader) (by simp) hpasses, by simp⟩

end Discard

namespace Connection

variable {τ : Type}

section Front

variable [Transport τ] {conn sent : Connection τ} {sql : String} {packet : Bytes} {t : τ}
  {definitions : List Bytes} {columns : List Column}

theorem readColumns_succ {count : Nat} (hread : Transport.readPacket conn.transport = (.ok packet, t)) :
    readColumns (count + 1) conn = match Column.decode packet with
      | .error error => .error error { conn with transport := t }
      | .ok column => match readColumns count { conn with transport := t } with
        | .error error conn => .error error conn
        | .ok columns conn => .ok (column :: columns) conn := by
  rw [readColumns, bind_apply, readResponse_eq_ok.mpr ⟨t, hread, rfl⟩]
  dsimp only
  rw [bind_apply, liftExcept_apply]
  cases Column.decode packet with
  | error error => rfl
  | ok column =>
    dsimp only
    rw [bind_apply]
    cases readColumns count { conn with transport := t } <;> rfl

theorem readColumns_of_isError {count : Nat} (hcolumns : Defines definitions columns)
    (hcount : definitions.length < count) (herror : isError packet)
    (htakes : Takes conn.transport (definitions ++ [packet]) t) :
    readColumns count conn = .error .invalidPacket { conn with transport := t } := by
  induction hcolumns generalizing conn count with
  | nil =>
    cases count with
    | zero => cases hcount
    | succ count =>
      cases htakes with
      | cons hread htakes =>
        cases htakes
        rw [readColumns_succ hread, column_of_isError herror]
  | @cons definition column definitions columns hdecode hrest ih =>
    cases count with
    | zero => cases hcount
    | succ count =>
      cases htakes with
      | @cons _ t' _ _ _ hread htakes =>
        have hcolumns' : readColumns count { conn with transport := t' } =
            .error .invalidPacket { conn with transport := t } :=
          ih (Nat.lt_of_succ_lt_succ hcount) htakes
        rw [readColumns_succ hread, hdecode]
        simp only [hcolumns']

theorem readSeparator_of_isError {caps : Capabilities}
    (hcaps : caps.has Capabilities.deprecateEof = false) (herror : isError packet)
    (hread : Transport.readPacket conn.transport = (.ok packet, t)) :
    readSeparator caps conn = .error .invalidPacket { conn with transport := t } := by
  simp only [readSeparator, hcaps, Bool.not_false, if_true, bind_apply,
    readResponse_eq_ok.mpr ⟨t, hread, rfl⟩, eof_of_isError herror, liftExcept_apply]

variable {header : Bytes} (hsend : send (.query sql) conn = .ok () sent) (herror : isError packet)
include hsend herror

/-- In place of a column the report is taken for a definition that is malformed. -/
theorem query_of_isError_columns {count : Nat} (hheader : Header.decode header = .ok (.resultSet count))
    (hcolumns : Defines definitions columns) (hcount : definitions.length < count)
    (htakes : Takes sent.transport (header :: (definitions ++ [packet])) t) :
    conn.query sql = .error .invalidPacket { sent with transport := t }.invalidate := by
  cases htakes with
  | cons hread htakes =>
    rw [query_of_packet hsend hread, hheader]
    dsimp only
    rw [queryColumns, columnPhase, bind_apply,
      readColumns_of_isError hcolumns hcount herror htakes]
    rfl

theorem query_of_isError_intermediateEof
    (hheader : Header.decode header = .ok (.resultSet definitions.length))
    (hcolumns : Defines definitions columns)
    (hcaps : sent.capabilities.has Capabilities.deprecateEof = false)
    (htakes : Takes sent.transport (header :: (definitions ++ [packet])) t) :
    conn.query sql = .error .invalidPacket { sent with transport := t }.invalidate := by
  cases htakes with
  | cons hread htakes =>
    obtain ⟨t', hdefinitions, hlast⟩ := htakes.split
    rw [query_of_packet hsend hread, hheader]
    dsimp only
    rw [queryColumns, columnPhase, bind_apply,
      readColumns_eq_ok.mpr ⟨_, _, rfl, hcolumns, hdefinitions, rfl⟩]
    dsimp only
    cases hlast with
    | cons hread' hlast =>
      cases hlast
      have hseparator : readSeparator sent.capabilities { sent with transport := t' } =
          .error .invalidPacket { sent with transport := t } :=
        readSeparator_of_isError hcaps herror hread'
      rw [bind_apply, hseparator]
      rfl

end Front

section Reports

variable [FiniteTransport τ] {conn sent : Connection τ} {sql : String} {packet : Bytes} {t : τ}
  {report : ServerError} {front : List Bytes} {phase : Phase}

/-- The report comes from the query itself or ends the rows. Then the transport is where it should be,
and the connection takes commands again. -/
inductive QueryResult.Reports (report : ServerError) (t : τ) : QueryResult τ → Prop
  | error {conn : Connection τ} :
      conn.Ready → conn.transport = t → Reports report t (.error (.server report) conn)
  | cursor {rows : Cursor (ResultSet τ)} :
      rows.drain.readError = some (.server report) → rows.drain.release.Ready →
      rows.drain.release.transport = t → Reports report t (.cursor rows)

theorem reports_of_firstPacket (hsend : send (.query sql) conn = .ok () sent)
    (hdecode : ServerError.decode packet = .ok report)
    (hread : Transport.readPacket sent.transport = (.ok packet, t)) :
    (conn.query sql).Reports report t := by
  have hready := ready_of_send hsend
  rw [query_of_error hsend hread hdecode]
  exact .error ⟨hready.valid, hready.settled⟩ rfl

theorem reports_of_rows (hsend : send (.query sql) conn = .ok () sent) {columns : List Column}
    {rows : List Bytes} (hfront : Front sent.capabilities columns front)
    (hrows : ∀ row ∈ rows, isRow row) (hdecode : ServerError.decode packet = .ok report)
    (htakes : Takes sent.transport (front ++ rows ++ [packet]) t) :
    (conn.query sql).Reports report t := by
  obtain ⟨t₂, htakes, hlast⟩ := htakes.split
  obtain ⟨t₁, hbefore, hamong⟩ := htakes.split
  obtain ⟨hquery, -⟩ := (query_eq_cursor_iff hsend).mpr ⟨front, columns, t₁, hfront, hbefore, rfl⟩
  have hready := ready_of_send hsend
  have hlive := Cursor.live_ofStream { sent with transport := t₁, pending := .rows } hready.valid rfl
    columns
  obtain ⟨next, hadvances, hnext, hrelease⟩ := hlive.advances hamong hrows
  cases hlast with
  | cons hread hlast =>
    cases hlast
    have hread' : Transport.readPacket next.release.transport = (.ok packet, t) := by
      rw [hrelease]
      exact hread
    have hfail := ResultSet.next_of_isError hnext.unfinished hread' (isError_of_serverError hdecode)
    rw [ofResponse_of_serverError hdecode] at hfail
    obtain ⟨last, hlast, -, hreadError, -, hrelease'⟩ := hnext.nextRow_of_fail hfail
    have hdrain := hadvances.drain_eq.trans (Cursor.drain_of_false hlast)
    rw [hquery]
    refine .cursor ?_ ?_ ?_
    · rw [hdrain, hreadError]
    · rw [hdrain, hrelease']
      exact ⟨hnext.valid, rfl⟩
    · rw [hdrain, hrelease']
      rfl

/-- Wherever the report stands, it ends the answer for the machine that throws answers away. The query
passes it on and leaves the connection usable exactly if it is the first packet or stands among the
rows. -/
theorem query_reports_iff (hsend : send (.query sql) conn = .ok () sent)
    (hbegins : Begins sent.capabilities front phase) (hdecode : ServerError.decode packet = .ok report)
    (htakes : Takes sent.transport (front ++ [packet]) t) :
    ((conn.query sql).Reports report t ↔ phase = .firstPacket ∨ phase = .rows) ∧
      Passes sent.capabilities .firstPacket front phase ∧
      phase.drive sent.capabilities packet = .ok .finished := by
  have herror := isError_of_serverError hdecode
  obtain ⟨hpasses, hphase⟩ := passes_of_begins hbegins
  refine ⟨?_, hpasses, drive_of_isError herror hphase⟩
  cases hbegins with
  | firstPacket =>
    refine iff_of_true ?_ (.inl rfl)
    cases htakes with
    | cons hread htakes =>
      cases htakes
      exact reports_of_firstPacket hsend hdecode hread
  | columns hheader hcolumns hcount =>
    rw [query_of_isError_columns hsend herror hheader hcolumns hcount htakes]
    refine iff_of_false ?_ (by simp)
    rintro ⟨⟩
  | intermediateEof hheader hcolumns hpos hcaps =>
    rw [query_of_isError_intermediateEof hsend herror hheader hcolumns hcaps htakes]
    refine iff_of_false ?_ (by simp)
    rintro ⟨⟩
  | rows hfront hpos hrows =>
    exact iff_of_true (reports_of_rows hsend hfront hrows hdecode htakes) (.inr rfl)

end Reports

def denial : Bytes :=
  [0xFF, 0x15, 0x04, 0x23, 0x32, 0x38, 0x30, 0x30, 0x30,
    0x41, 0x63, 0x63, 0x65, 0x73, 0x73, 0x20, 0x64, 0x65, 0x6E, 0x69, 0x65, 0x64]

def deniedBehind (packets : List Bytes) : Connection ScriptedTransport :=
  ofTransport {
    capabilities := .ofFlags [Capabilities.protocol41]
    script := (packets ++ [denial]).map .ok }

def singleColumn : List Bytes :=
  [[0x01], [3, 0x64, 0x65, 0x66, 0, 0, 0, 1, 0x61, 0, 12, 33, 0, 4, 0, 0, 0, 3, 0, 0, 0, 0, 0],
    [0xFE, 0, 0, 2, 0]]

theorem exists_front_singleColumn (packets : List Bytes) :
    ∃ column, Front (deniedBehind packets).capabilities [column] singleColumn := by
  obtain ⟨column, hcolumn⟩ : ∃ column, Column.decode
      [3, 0x64, 0x65, 0x66, 0, 0, 0, 1, 0x61, 0, 12, 33, 0, 4, 0, 0, 0, 3, 0, 0, 0, 0, 0] =
        .ok column := ⟨_, rfl⟩
  have hheader : Header.decode [0x01] = .ok (.resultSet 1) := rfl
  have hseparator : Separator (deniedBehind packets).capabilities [[0xFE, 0, 0, 2, 0]] := by
    have hcaps : (deniedBehind packets).capabilities.has Capabilities.deprecateEof = false := by
      change (FlagSet.ofFlags [Capabilities.protocol41] : Capabilities).has _ = false
      decide
    simp only [Separator, hcaps, Bool.false_eq_true, if_false]
    exact ⟨_, _, rfl, rfl⟩
  exact ⟨column, .intro hheader (.cons hcolumn .nil) hseparator⟩

theorem reports_of_denied_row :
    ∃ (sent : Connection ScriptedTransport) (report : ServerError) (t : ScriptedTransport),
      send (.query "SELECT 1") (deniedBehind (singleColumn ++ [[1, 0x37]])) = .ok () sent ∧
      Begins sent.capabilities (singleColumn ++ [[1, 0x37]]) .rows ∧
      ServerError.decode denial = .ok report ∧
      Takes sent.transport (singleColumn ++ [[1, 0x37]] ++ [denial]) t ∧
      ((deniedBehind (singleColumn ++ [[1, 0x37]])).query "SELECT 1").Reports report t := by
  obtain ⟨column, hfront⟩ := exists_front_singleColumn (singleColumn ++ [[1, 0x37]])
  obtain ⟨sent, report, t, hsend, hcaps, hdecode, htakes⟩ :
      ∃ (sent : Connection ScriptedTransport) (report : ServerError) (t : ScriptedTransport),
        send (.query "SELECT 1") (deniedBehind (singleColumn ++ [[1, 0x37]])) = .ok () sent ∧
        sent.capabilities = (deniedBehind (singleColumn ++ [[1, 0x37]])).capabilities ∧
        ServerError.decode denial = .ok report ∧
        Takes sent.transport (singleColumn ++ [[1, 0x37]] ++ [denial]) t :=
    ⟨_, _, _, rfl, rfl, rfl, .cons rfl (.cons rfl (.cons rfl (.cons rfl (.cons rfl (.nil _)))))⟩
  rw [← hcaps] at hfront
  have hbegins : Begins sent.capabilities (singleColumn ++ [[1, 0x37]]) .rows :=
    .rows hfront (Nat.zero_lt_succ _) (by decide)
  have hiff := (query_reports_iff hsend hbegins hdecode htakes).1
  exact ⟨sent, report, t, hsend, hbegins, hdecode, htakes, hiff.mpr (.inr rfl)⟩

theorem not_reports_of_denied_column :
    ∃ (sent : Connection ScriptedTransport) (report : ServerError) (t : ScriptedTransport),
      send (.query "SELECT 1") (deniedBehind [[0x01]]) = .ok () sent ∧
      Begins sent.capabilities [[0x01]] (.columns 1) ∧
      ServerError.decode denial = .ok report ∧ Takes sent.transport [[0x01], denial] t ∧
      ¬ ((deniedBehind [[0x01]]).query "SELECT 1").Reports report t ∧
      (deniedBehind [[0x01]]).query "SELECT 1" =
        .error .invalidPacket { sent with transport := t }.invalidate := by
  refine ⟨_, _, _, rfl, .columns rfl .nil (Nat.zero_lt_succ _), rfl, .cons rfl (.cons rfl (.nil _)), ?_,
    rfl⟩
  rintro ⟨⟩

end Connection

end SqlClient
