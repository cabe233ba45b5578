import SqlClient.Proofs.Connection.Discarding
import SqlClient.Proofs.Connection.Opening
import SqlClient.Proofs.Cursor.Draining
import SqlClient.Proofs.Cursor.Values
import SqlClient.Proofs.Session.Client
import SqlClient.Proofs.Session.Dialogue

namespace SqlClient

open Response Connection Discard

variable {server : Server}

/-- The connection can be used and knows what is left unread, which is the end of the answer to its
last command. -/
structure Connection.InSync (conn : Connection (Dialogue server)) : Prop where
  valid : conn.isValid = true
  rest : Rest server.capabilities (conn.pending.phase.getD .finished) conn.transport.unread
  faithful : conn.transport.Faithful

namespace Connection

variable {conn sent : Connection (Dialogue server)} {packet : Bytes} {packets : List Bytes}

theorem phase_afterResult (status : Status) :
    (Pending.afterResult status).phase.getD .finished = Phase.afterResult status := by
  unfold Pending.afterResult Phase.afterResult
  split <;> rfl

theorem inSync_ofTransport : (ofTransport ({} : Dialogue server)).InSync :=
  ⟨rfl, .finished, rfl⟩

theorem InSync.unread_eq_nil_iff (h : conn.InSync) :
    conn.transport.unread = [] ↔ conn.pending = .none := by
  rw [h.rest.eq_nil_iff]
  cases conn.pending <;> simp [Pending.phase]

/-- A connection with nothing pending sends any command and has its whole answer to read. -/
theorem InSync.exists_send (h : conn.InSync) (hpending : conn.pending = .none) (command : Command) :
    ∃ sent, send command conn = .ok () sent ∧ sent.isValid = true ∧ sent.pending = .none ∧
      sent.transport.unread = server.answer conn.transport.commands command.encode ∧
      sent.transport.Faithful := by
  have hunread := h.unread_eq_nil_iff.mpr hpending
  have hpayload : (conn.room ++ command.encode).drop Packet.reserve = command.encode := by
    rw [← conn.length_room, List.drop_left]
  refine ⟨_, send_eq_ok.mpr ⟨⟨h.valid, hpending⟩, _, _, rfl, rfl⟩, h.valid, hpending, ?_,
    h.faithful.writeCommand hunread _⟩
  change conn.transport.unread ++ server.answer _ ((conn.room ++ command.encode).drop _) = _
  rw [hunread, hpayload, List.nil_append]

theorem InSync.of_read (hfaithful : sent.transport.Faithful)
    (hunread : sent.transport.unread = packet :: packets)
    (htransport : conn.transport = sent.transport.afterRead packet packets)
    (hvalid : conn.isValid = true)
    (hrest : Rest server.capabilities (conn.pending.phase.getD .finished) packets) :
    conn.InSync := by
  refine ⟨hvalid, ?_, ?_⟩
  · rw [htransport]
    exact hrest
  · rw [htransport]
    exact hfaithful.afterRead hunread

theorem InSync.exec (h : conn.InSync) (sql : String) : (afterwards (exec sql conn)).InSync := by
  by_cases hpending : conn.pending = .none
  · obtain ⟨sent, hsend, hvalid, hsettled, hunread, hfaithful⟩ :=
      h.exists_send hpending (.query sql)
    have hrest := (server.wellFormed_answer_query conn.transport.commands sql).rest
    rw [← hunread] at hrest
    rw [exec_of_send hsend]
    generalize hanswer : sent.transport.unread = answer at hrest
    cases hrest with
    | error hdecode =>
      rw [readResponse_eq_ok.mpr ⟨_, Dialogue.readPacket_of_unread hanswer, rfl⟩]
      simp only [execAnswer_of_error hdecode]
      exact .of_read hfaithful hanswer rfl hvalid (by simpa [hsettled] using .finished)
    | @ok packet packets _ hhead hdecode hrest =>
      rw [readResponse_eq_ok.mpr ⟨_, Dialogue.readPacket_of_unread hanswer, rfl⟩]
      have hexec : execAnswer packet
          { sent with transport := sent.transport.afterRead packet packets } = _ :=
        execAnswer_of_ok (by exact hsettled) hhead hdecode
      simp only [hexec]
      exact .of_read hfaithful hanswer rfl hvalid (by simpa [phase_afterResult] using hrest)
    | header hcount hpos hrest =>
      obtain ⟨first, hfirst, -, hlocal⟩ := head?_of_lenencInt hcount
      rw [readResponse_eq_ok.mpr ⟨_, Dialogue.readPacket_of_unread hanswer, rfl⟩]
      simp only [execAnswer_of_count (kind_of_count hcount hpos) (by simp [hfirst, hlocal]) hcount]
      exact .of_read hfaithful hanswer rfl hvalid hrest
  · rw [exec_of_send_error (send_of_pending h.valid hpending _)]
    exact h

theorem InSync.ping (h : conn.InSync) : (afterwards (ping conn)).InSync := by
  by_cases hpending : conn.pending = .none
  · obtain ⟨sent, hsend, hvalid, hsettled, hunread, hfaithful⟩ := h.exists_send hpending .ping
    obtain ⟨packet, hanswer, hhead | ⟨report, hdecode⟩⟩ :=
      server.answer_ping conn.transport.commands
    · rw [ping_of_ok hsend (Dialogue.readPacket_of_unread (hunread.trans hanswer)) hhead]
      exact .of_read hfaithful (hunread.trans hanswer) rfl hvalid (by simpa [hsettled] using .finished)
    · rw [ping_of_error hsend (Dialogue.readPacket_of_unread (hunread.trans hanswer)) hdecode]
      exact .of_read hfaithful (hunread.trans hanswer) rfl hvalid (by simpa [hsettled] using .finished)
  · rw [ping_of_send_error (send_of_pending h.valid hpending _)]
    exact h

/-- What is left unread can be thrown away, and nothing else is. -/
theorem InSync.exists_discardPending (h : conn.InSync) :
    ∃ settled, discardPending conn = .ok () settled ∧ settled.InSync ∧
      settled.hasPendingResult = false ∧ settled.transport.commands = conn.transport.commands := by
  rw [discardPending_apply, h.valid, if_neg (by simp)]
  cases hphase : conn.pending.phase with
  | none =>
    have hpending := phase_eq_none_iff.mp hphase
    exact ⟨conn, rfl, h, by simp [hasPendingResult, hpending], rfl⟩
  | some phase =>
    have hrest := h.rest
    rw [hphase, Option.getD_some] at hrest
    have hunfinished : phase ≠ .finished := by
      rintro rfl
      exact phase_ne_finished conn.pending hphase
    obtain ⟨t, htakes, hunread, hcommands, hfaithful⟩ :=
      Dialogue.exists_takes (List.append_nil conn.transport.unread).symm
    refine ⟨_, discardFrom_of_rest htakes hrest hunfinished, ⟨h.valid, ?_, hfaithful h.faithful⟩,
      rfl, hcommands⟩
    change Rest _ .finished t.unread
    rw [hunread]
    exact .finished

end Connection

structure Cursor.InSync (cursor : Cursor (ResultSet (Dialogue server))) : Prop where
  release : cursor.release.InSync
  pending : cursor.stream.finished = false → cursor.release.pending = .rows

namespace Cursor

variable {cursor cursor' : Cursor (ResultSet (Dialogue server))}

theorem InSync.of_stream_eq (h : cursor.InSync) (hstream : cursor'.stream = cursor.stream) :
    cursor'.InSync := by
  refine ⟨?_, ?_⟩
  · rw [Cursor.release, hstream]
    exact h.release
  · rw [Cursor.release, hstream]
    exact h.pending

theorem Live.inSync_nextRow (h : cursor.Live) (hrelease : cursor.release.InSync) :
    cursor.nextRow.2.InSync := by
  have hrest := hrelease.rest
  rw [h.pending] at hrest
  change Rest server.capabilities .rows cursor.release.transport.unread at hrest
  generalize hunread : cursor.release.transport.unread = unread at hrest
  have hfaithful := hrelease.faithful
  cases hrest with
  | abort hdecode =>
    have hread := Dialogue.readPacket_of_unread hunread
    have herror := isError_of_serverError hdecode
    obtain ⟨last, hnext, -, -, hfinished, hlast⟩ :=
      h.nextRow_of_fail (ResultSet.next_of_isError h.unfinished hread herror)
    rw [ofResponse_of_serverError hdecode, if_neg (by simp [Error.breaksConnection])] at hlast
    rw [hnext]
    refine ⟨.of_read hfaithful hunread (by rw [hlast]) (by rw [hlast]; exact h.valid) ?_, ?_⟩
    · rw [hlast]
      exact .finished
    · simp [hfinished]
  | @row packet packets hrow hrest =>
    have hread := Dialogue.readPacket_of_unread hunread
    rw [h.nextRow_of_isRow hread hrow]
    have hlive := h.onRow packet (cursor.release.transport.afterRead packet packets)
    refine ⟨.of_read hfaithful hunread rfl hlive.valid ?_, fun _ ↦ hlive.pending⟩
    rw [hlive.pending]
    exact hrest
  | terminator hterminator hstatus hrest =>
    have hread := Dialogue.readPacket_of_unread hunread
    obtain ⟨last, hnext, -, -, -, hfinished, hlast⟩ :=
      h.nextRow_of_terminator hread hterminator hstatus
    rw [hnext]
    refine ⟨.of_read hfaithful hunread (by rw [hlast]) (by rw [hlast]; exact h.valid) ?_, ?_⟩
    · rw [hlast]
      simpa [phase_afterResult] using hrest
    · simp [hfinished]

theorem InSync.nextRow (h : cursor.InSync) : cursor.nextRow.2.InSync := by
  by_cases hopen : cursor.Open
  · have hlive : cursor.Live :=
      ⟨hopen.reading, hopen.unbroken, hopen.unfinished, h.release.valid, h.pending hopen.unfinished⟩
    exact hlive.inSync_nextRow h.release
  · exact h.of_stream_eq (nextRow_of_not_open hopen).1

end Cursor

namespace Client

variable {client client' : Client (Dialogue server)}

def InSync : Client (Dialogue server) → Prop
  | idle conn => conn.InSync
  | reading cursor => cursor.InSync

theorem InSync.connection (h : client.InSync) : client.connection.InSync := by
  cases client with
  | idle conn => exact h
  | reading cursor => exact h.release

theorem inSync_query {conn : Connection (Dialogue server)} (h : conn.InSync) (sql : String) :
    (ofQuery (conn.query sql)).InSync := by
  by_cases hpending : conn.pending = .none
  · obtain ⟨sent, hsend, hvalid, hsettled, hunread, hfaithful⟩ :=
      h.exists_send hpending (.query sql)
    have hrest := (server.wellFormed_answer_query conn.transport.commands sql).rest
    rw [← hunread] at hrest
    generalize hanswer : sent.transport.unread = answer at hrest
    cases hrest with
    | error hdecode =>
      rw [query_of_error hsend (Dialogue.readPacket_of_unread hanswer) hdecode]
      exact .of_read hfaithful hanswer rfl hvalid (by simpa [hsettled] using .finished)
    | ok hhead hdecode hrest =>
      rw [query_of_ok hsend hsettled (Dialogue.readPacket_of_unread hanswer) hhead hdecode]
      refine ⟨.of_read hfaithful hanswer rfl hvalid ?_, fun hfinished ↦ by cases hfinished⟩
      exact (phase_afterResult _).symm ▸ hrest
    | @header header packets count hcount hpos hrest =>
      have hcolumns : Rest server.capabilities (.inColumns server.capabilities count.toNat) packets := by
        rwa [Phase.inColumns, if_neg (by omega)]
      obtain ⟨definitions, columns, separator, rows, rfl, hlength, hdecode, hseparator, hrows⟩ :=
        hcolumns.exists_columns
      have hheader := header_of_count hcount hpos
      rw [← hlength] at hheader
      rw [← List.append_assoc, ← List.cons_append] at hanswer
      obtain ⟨t, htakes, hunread', -, hfaithful'⟩ := Dialogue.exists_takes hanswer
      obtain ⟨hquery, -⟩ := (query_eq_cursor_iff hsend).mpr
        ⟨_, columns, t, .intro hheader hdecode hseparator, htakes, rfl⟩
      rw [hquery]
      refine ⟨⟨hvalid, ?_, hfaithful' hfaithful⟩, fun _ ↦ rfl⟩
      change Rest _ .rows t.unread
      rwa [hunread']
  · rw [query_of_send_error (send_of_pending h.valid hpending _)]
    exact h

theorem Performs.inSync {operation : Operation} {error : Option Error}
    (hperforms : Performs client operation error client') (h : client.InSync) : client'.InSync := by
  cases hperforms with
  | query sql conn => exact inSync_query h sql
  | exec sql conn => exact Connection.InSync.exec h sql
  | ping conn => exact Connection.InSync.ping h
  | discardPending hdiscards =>
    obtain ⟨settled, hsettled, hsync, -⟩ := Connection.InSync.exists_discardPending h
    rw [← discardsPending_iff.mp hdiscards, hsettled]
    exact hsync
  | nextRow cursor => exact Cursor.InSync.nextRow h
  | readValue hreads => exact Cursor.InSync.of_stream_eq h hreads.stream_eq
  | release cursor => exact h.release

theorem inSync_of_run (h : Run (idle (ofTransport {})) client) : client.InSync := by
  induction h with
  | refl => exact inSync_ofTransport
  | tail _ hstep ih =>
    obtain ⟨operation, error, hperforms⟩ := hstep
    exact hperforms.inSync ih

/-- What a client can rely on between two calls. -/
structure Synchronised (conn : Connection (Dialogue server)) : Prop where
  valid : conn.isValid = true
  /-- Every packet was read as part of the answer it belongs to, before the next command was sent. -/
  log_append_unread : conn.transport.log ++ conn.transport.unread.map .packet =
    server.transcript conn.transport.commands
  settled_iff : conn.hasPendingResult = false ↔ conn.transport.unread = []
  sends (command : Command) : conn.hasPendingResult = false →
    ∃ sent, send command conn = .ok () sent ∧
      sent.transport.unread = server.answer conn.transport.commands command.encode
  refuses (command : Command) : conn.hasPendingResult = true →
    send command conn = .error .resultSetPending conn
  /-- What is pending can be thrown away, to the end of the answer and no further. -/
  settles : ∃ settled, discardPending conn = .ok () settled ∧
    settled.isValid = true ∧ settled.hasPendingResult = false ∧
    settled.transport.commands = conn.transport.commands ∧
    settled.transport.log = server.transcript conn.transport.commands

/-- A client is in step with the server after every run of calls, whatever they are. -/
theorem synchronised (h : Run (idle (ofTransport {})) client) : Synchronised client.connection := by
  have hsync := (inSync_of_run h).connection
  refine ⟨hsync.valid, hsync.faithful, ?_, fun command hsettled ↦ ?_, fun command hpending ↦ ?_, ?_⟩
  · rw [hsync.unread_eq_nil_iff]
    simp [hasPendingResult]
  · obtain ⟨sent, hsend, -, -, hunread, -⟩ :=
      hsync.exists_send (by simpa [hasPendingResult] using hsettled) command
    exact ⟨sent, hsend, hunread⟩
  · exact send_of_pending hsync.valid (by simpa [hasPendingResult] using hpending) command
  · obtain ⟨settled, hdiscard, hsettled, hpending, hcommands⟩ := hsync.exists_discardPending
    refine ⟨settled, hdiscard, hsettled.valid, hpending, hcommands, ?_⟩
    have hunread : settled.transport.unread = [] := by
      rw [hsettled.unread_eq_nil_iff]
      simpa [hasPendingResult] using hpending
    have hfaithful := hsettled.faithful
    rwa [Dialogue.Faithful, hunread, List.map_nil, List.append_nil, hcommands] at hfaithful

def rowPackets : List Bytes :=
  [[0x01], [3, 0x64, 0x65, 0x66, 0, 0, 0, 1, 0x61, 0, 12, 33, 0, 4, 0, 0, 0, 3, 0, 0, 0, 0, 0],
    [0xFE, 0, 0, 10, 0], [0x01, 0x37], [0xFE, 0, 0, 10, 0]]

theorem wellFormed_rowPackets :
    WellFormed (.ofFlags [Capabilities.protocol41]) (rowPackets ++ [[0, 1, 0, 2, 0, 0, 0]]) := by
  have hseparator : Separator (.ofFlags [Capabilities.protocol41]) [[0xFE, 0, 0, 10, 0]] := by
    refine (if_neg (by decide)).mpr ?_
    exact ⟨[0xFE, 0, 0, 10, 0], _, rfl, rfl⟩
  have hrows : Result (.ofFlags [Capabilities.protocol41]) rowPackets (some (.ofBits 10)) :=
    @Result.rows _ _ _ [_] [_] [_] 1 [_] _ rfl (by decide) rfl (.cons rfl .nil) hseparator
      (by decide) (.terminator rfl rfl)
  exact .more hrows rfl (.last (.ok rfl rfl) rfl)

def rowServer : Server where
  capabilities := .ofFlags [Capabilities.protocol41]
  answer _ command :=
    if command = Command.ping.encode then [[0, 0, 0, 2, 0, 0, 0]]
    else rowPackets ++ [[0, 1, 0, 2, 0, 0, 0]]
  handBack packet := packet
  wellFormed_answer_query earlier sql := by
    have hother : (Command.query sql).encode ≠ Command.ping.encode := by
      simp [Command.encode, CommandCode.byte]
    rw [if_neg hother]
    exact wellFormed_rowPackets
  answer_ping earlier := ⟨_, if_pos rfl, .inl rfl⟩

theorem synchronised_after_dropping :
    ∃ client : Client (Dialogue rowServer),
      Run (idle (ofTransport {})) client ∧ Synchronised client.connection := by
  obtain ⟨cursor, hquery⟩ : ∃ cursor,
      (ofTransport ({} : Dialogue rowServer)).query "SELECT 7" = .cursor cursor := ⟨_, rfl⟩
  have hfirst := Performs.query "SELECT 7" (ofTransport ({} : Dialogue rowServer))
  rw [hquery] at hfirst
  have hreading : Run (idle (ofTransport ({} : Dialogue rowServer))) (reading cursor) :=
    .single ⟨_, _, hfirst⟩
  have hrow := hreading.tail ⟨_, _, .nextRow cursor⟩
  have hrun := hrow.tail ⟨_, _, .release _⟩
  exact ⟨_, hrun, synchronised hrun⟩

end Client

end SqlClient
