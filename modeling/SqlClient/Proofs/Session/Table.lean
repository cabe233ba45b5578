import SqlClient.Proofs.Codec.Column
import SqlClient.Proofs.Connection.Opening
import SqlClient.Proofs.Cursor.Draining
import SqlClient.Proofs.Cursor.Values
import SqlClient.Proofs.Transport.Framing

namespace SqlClient

open Response Connection

namespace Cursor

section Fetches

variable {τ : Type} {cursor : Cursor (ResultSet τ)}

theorem Live.of_sameRow (h : cursor.Live) {next : Cursor (ResultSet τ)}
    (hsame : cursor.SameRow next) : next.Live :=
  h.of_eq hsame.stream_eq hsame.exhausted_eq hsame.readError_eq

variable [Transport τ]

inductive Fetches (count : Nat) :
    Cursor (ResultSet τ) → List (List (Bytes × Bool)) → Cursor (ResultSet τ) → Prop
  | nil (cursor : Cursor (ResultSet τ)) : Fetches count cursor [] cursor
  | cons {cursor next behind last : Cursor (ResultSet τ)} {values : List (Bytes × Bool)}
      {rows : List (List (Bytes × Bool))} :
      cursor.nextRow = (true, next) → next.readValues count = (values, behind) →
      Fetches count behind rows last → Fetches count cursor (values :: rows) last

theorem Live.exists_readValues (h : cursor.Live) {row : List (Option Bytes)} {t : τ}
    (hread : Transport.readPacket cursor.release.transport = (.ok (Row.encode row), t))
    (hlength : row.length = cursor.columns.length) (hstorable : Row.Storable row) :
    ∃ next behind, cursor.nextRow = (true, next) ∧
      next.readValues cursor.columns.length = (row.map asBytes, behind) ∧ behind.Live ∧
      behind.columns = cursor.columns ∧ behind.valueError = cursor.valueError ∧
      behind.release = { cursor.release with transport := t } := by
  have hrow := Row.isRow_encode hstorable
  have hpacket : (cursor.onRow (Row.encode row) t).packet = [] ++ Row.encode row := rfl
  have hleft : (cursor.onRow (Row.encode row) t).columns.length =
      (cursor.onRow (Row.encode row) t).readColumns + row.length := by
    rw [hlength]
    exact (Nat.zero_add _).symm
  obtain ⟨behind, hvalues, hsame⟩ := readValues_encode hpacket rfl hleft hstorable
  rw [hlength] at hvalues
  refine ⟨_, behind, h.nextRow_of_isRow hread hrow, hvalues, (h.onRow _ t).of_sameRow hsame, ?_,
    hsame.valueError_eq, ?_⟩
  · rw [columns, hsame.stream_eq]
    rfl
  · rw [release, hsame.stream_eq]
    rfl

theorem Live.exists_fetches (h : cursor.Live) {rows : List (List (Option Bytes))} {t : τ}
    (htakes : Takes cursor.release.transport (rows.map Row.encode) t)
    (hlength : ∀ row ∈ rows, row.length = cursor.columns.length)
    (hstorable : ∀ row ∈ rows, Row.Storable row) :
    ∃ before, Fetches cursor.columns.length cursor (rows.map fun row ↦ row.map asBytes) before ∧
      before.Live ∧ before.valueError = cursor.valueError ∧
      before.release = { cursor.release with transport := t } := by
  induction rows generalizing cursor with
  | nil =>
    cases htakes
    exact ⟨cursor, .nil cursor, h, rfl, rfl⟩
  | cons row rows ih =>
    cases htakes with
    | cons hread htakes =>
      obtain ⟨next, behind, hnext, hvalues, hlive, hsame, herror, hrelease⟩ :=
        h.exists_readValues hread (hlength row (List.mem_cons_self ..))
          (hstorable row (List.mem_cons_self ..))
      obtain ⟨before, hfetches, hbefore, hbeforeError, hlast⟩ := ih hlive
        (by rw [hrelease]; exact htakes)
        (by rw [hsame]; exact fun row' hrow' ↦ hlength row' (.tail row hrow'))
        fun row' hrow' ↦ hstorable row' (.tail row hrow')
      rw [hsame] at hfetches
      exact ⟨before, .cons hnext hvalues hfetches, hbefore, hbeforeError.trans herror,
        by rw [hlast, hrelease]⟩

end Fetches

end Cursor

/-- A table as a server sends it: the columns, each with its catalog, and the values of the rows,
`none` for NULL. -/
structure Table (caps : Capabilities) where
  columns : List (Bytes × Column)
  separator : List Bytes
  rows : List (List (Option Bytes))
  terminator : Bytes
  status : Status
  columns_ne_nil : columns ≠ []
  length_columns_lt : columns.length < UInt64.size
  storable_column : ∀ column ∈ columns, column.1.length < UInt64.size ∧ column.2.Storable
  separates : Separator caps separator
  length_row : ∀ row ∈ rows, row.length = columns.length
  storable_row : ∀ row ∈ rows, Row.Storable row
  terminates : isTerminator terminator
  terminatorStatus_eq : terminatorStatus caps terminator = .ok status

namespace Table

variable {caps : Capabilities} (table : Table caps)

def header : Bytes :=
  Encoder.lenencInt (UInt64.ofNat table.columns.length)

def definitions : List Bytes :=
  table.columns.map fun (catalog, column) ↦ column.encode catalog

def packets : List Bytes :=
  table.header :: (table.definitions ++ table.separator) ++
    (table.rows.map Row.encode ++ [table.terminator])

theorem header_eq : Header.decode table.header = .ok (.resultSet table.definitions.length) := by
  have hcount : (UInt64.ofNat table.columns.length).toNat = table.columns.length :=
    UInt64.toNat_ofNat_of_lt' table.length_columns_lt
  have hdecode := Decoder.lenencInt_encode [] (UInt64.ofNat table.columns.length)
  have hpos := List.length_pos_of_ne_nil table.columns_ne_nil
  rw [List.append_nil] at hdecode
  rw [header, header_of_count (Decoder.decode_of_ok hdecode) (by omega), hcount, definitions,
    List.length_map]

theorem defines_columns : Defines table.definitions (table.columns.map Prod.snd) := by
  refine List.forall₂_map_left_iff.mpr (List.forall₂_map_right_iff.mpr (List.forall₂_same.mpr ?_))
  intro column hcolumn
  obtain ⟨hcatalog, hstorable⟩ := table.storable_column column hcolumn
  exact Column.decode_encode hcatalog hstorable

theorem exists_opened {conn sent : Connection PacketStream} {sql : String}
    (hsend : send (.query sql) conn = .ok () sent) (hvalid : sent.isValid = true)
    (hcaps : sent.capabilities = caps) {t : PacketStream}
    (htakes : Takes sent.transport table.packets t) :
    ∃ cursor, conn.query sql = .cursor cursor ∧ cursor.Live ∧
      cursor.columns = table.columns.map Prod.snd ∧ cursor.valueError = none ∧
      Takes cursor.release.transport (table.rows.map Row.encode ++ [table.terminator]) t := by
  obtain ⟨t₁, hopening, hbehind⟩ := htakes.split
  have hseparator : Separator sent.capabilities table.separator := by
    rw [hcaps]
    exact table.separates
  obtain ⟨hquery, -⟩ := (query_eq_cursor_iff hsend).mpr
    ⟨_, _, t₁, .intro table.header_eq table.defines_columns hseparator, hopening, rfl⟩
  have hlive := Cursor.live_ofStream { sent with transport := t₁, pending := .rows } hvalid rfl
    (table.columns.map Prod.snd)
  exact ⟨_, hquery, hlive, rfl, rfl, hbehind⟩

theorem exists_fetched {cursor : Cursor (ResultSet PacketStream)} (hlive : cursor.Live)
    (hcolumns : cursor.columns = table.columns.map Prod.snd) {t : PacketStream}
    (hcaps : Transport.capabilities t = caps)
    (htakes : Takes cursor.release.transport (table.rows.map Row.encode ++ [table.terminator]) t) :
    ∃ before last, Cursor.Fetches table.columns.length cursor
        (table.rows.map fun row ↦ row.map Cursor.asBytes) before ∧
      before.nextRow = (false, last) ∧ last.exhausted = true ∧ last.readError = none ∧
      last.valueError = cursor.valueError ∧
      last.release = {
        cursor.release with transport := t, pending := .afterResult table.status } := by
  have hlength : cursor.columns.length = table.columns.length := by
    rw [hcolumns, List.length_map]
  obtain ⟨t₁, hrows, hend⟩ := htakes.split
  obtain ⟨before, hfetches, hbefore, herror, hrelease⟩ := hlive.exists_fetches hrows
    (by rw [hlength]; exact table.length_row) table.storable_row
  rw [hlength] at hfetches
  cases hend with
  | cons hread hnil =>
    cases hnil
    rw [← show before.release.transport = t₁ by rw [hrelease]] at hread
    have hstatus : terminatorStatus (Transport.capabilities t) table.terminator =
        .ok table.status := by
      rw [hcaps]
      exact table.terminatorStatus_eq
    obtain ⟨last, hnext, hexhausted, hreadError, hvalueError, -, hlast⟩ :=
      hbefore.nextRow_of_terminator hread table.terminates hstatus
    rw [hrelease] at hlast
    exact ⟨before, last, hfetches, hnext, hexhausted, hreadError, hvalueError.trans herror, hlast⟩

/-- A query gives the table that is on the wire: its columns, the values of its rows in order, and its
end. Nothing behind it is read. -/
theorem fetched {conn : Connection PacketStream} (table : Table conn.capabilities)
    (hready : conn.Ready) {sql : String}
    (hwrite : (Packet.write (conn.room ++ (Command.query sql).encode)
      conn.transport.stream).outcome = .ok ())
    {sequence : Nat → Nat → UInt8} {rest : Bytes}
    (hwire : conn.transport.stream.incoming = Packet.frames sequence table.packets ++ rest) :
    ∃ cursor before last, conn.query sql = .cursor cursor ∧
      cursor.columns = table.columns.map Prod.snd ∧
      Cursor.Fetches table.columns.length cursor
        (table.rows.map fun row ↦ row.map Cursor.asBytes) before ∧
      before.nextRow = (false, last) ∧ last.exhausted = true ∧ last.lastError = none ∧
      last.release.isValid = true ∧
      last.release.hasPendingResult = table.status.has Status.moreResults ∧
      last.release.transport.stream.incoming = rest := by
  obtain ⟨sent, hsend, hvalid, hcaps, hincoming⟩ : ∃ sent, send (.query sql) conn = .ok () sent ∧
      sent.isValid = true ∧ sent.capabilities = conn.capabilities ∧
      sent.transport.stream.incoming = conn.transport.stream.incoming :=
    ⟨_, send_eq_ok.mpr ⟨hready, _, _, Prod.ext (Prod.ext hwrite rfl) rfl, rfl⟩, hready.valid, rfl,
      Packet.incoming_write ..⟩
  obtain ⟨t, hrest, htakes⟩ : ∃ t : PacketStream, t.stream.incoming = rest ∧
      Takes sent.transport table.packets t :=
    ⟨_, rfl, PacketStream.takes_frames (hincoming.trans hwire)⟩
  obtain ⟨cursor, hquery, hlive, hcolumns, hnone, hbehind⟩ :=
    table.exists_opened hsend hvalid hcaps htakes
  obtain ⟨before, last, hfetches, hnext, hexhausted, hreadError, hvalueError, hlast⟩ :=
    table.exists_fetched hlive hcolumns (htakes.capabilities_eq.trans hcaps) hbehind
  refine ⟨cursor, before, last, hquery, hcolumns, hfetches, hnext, hexhausted, ?_, ?_, ?_, ?_⟩
  · rw [Cursor.lastError, hreadError, hvalueError, hnone]
    rfl
  · rw [hlast]
    exact hlive.valid
  · rw [hlast, hasPendingResult, Pending.afterResult]
    split <;> simp_all
  · rw [hlast]
    exact hrest

def single : Table (.ofFlags [Capabilities.protocol41]) where
  columns := [([0x64, 0x65, 0x66], { name := "n" })]
  separator := [[0xFE, 0, 0, 2, 0]]
  rows := [[some [0x37]], [none]]
  terminator := [0xFE, 0, 0, 10, 0]
  status := .ofBits 10
  columns_ne_nil := by simp
  length_columns_lt := by decide
  storable_column := by
    simp only [List.mem_singleton, forall_eq]
    exact ⟨by decide, by decide, by decide, by decide, by decide, by decide⟩
  separates := by
    refine (if_neg (by decide)).mpr ?_
    exact ⟨[0xFE, 0, 0, 2, 0], _, rfl, rfl⟩
  length_row := by simp
  storable_row := by simp [Row.Storable]
  terminates := by decide
  terminatorStatus_eq := rfl

def singleSession : Connection PacketStream :=
  ofStream { incoming := Packet.frames (fun _ index ↦ UInt8.ofNat index) single.packets ++ [0x2A] }
    (.ofFlags [Capabilities.protocol41])

theorem fetched_single :
    singleSession.Ready ∧
      (Packet.write (singleSession.room ++ (Command.query "SELECT n").encode)
        singleSession.transport.stream).outcome = .ok () ∧
      ∃ cursor before last, singleSession.query "SELECT n" = .cursor cursor ∧
        cursor.columns = single.columns.map Prod.snd ∧
        Cursor.Fetches single.columns.length cursor
          (single.rows.map fun row ↦ row.map Cursor.asBytes) before ∧
        before.nextRow = (false, last) ∧ last.exhausted = true ∧ last.lastError = none ∧
        last.release.isValid = true ∧
        last.release.hasPendingResult = single.status.has Status.moreResults ∧
        last.release.transport.stream.incoming = [0x2A] := by
  have hready : singleSession.Ready := ⟨rfl, rfl⟩
  have hwrite : (Packet.write (singleSession.room ++ (Command.query "SELECT n").encode)
      singleSession.transport.stream).outcome = .ok () := by
    refine Packet.outcome_write ⟨fun _ ↦ rfl, fun _ ↦ rfl⟩ ?_
    rw [List.length_append, length_room]
    omega
  exact ⟨hready, hwrite, @fetched singleSession single hready _ hwrite _ _ rfl⟩

end Table

end SqlClient
