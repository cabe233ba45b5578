import SqlClient.Proofs.Connection.Simulation
import SqlClient.Proofs.Cursor.Draining
import SqlClient.Proofs.Cursor.Operations
import SqlClient.Proofs.Cursor.Values

namespace SqlClient

structure RowStream.Simulates {σ σ' : Type} [RowStream σ] [RowStream σ'] (S : σ → σ' → Prop) :
    Prop where
  columns_eq {stream : σ} {stream' : σ'} : S stream stream' →
    RowStream.columns stream = RowStream.columns stream'
  next {stream : σ} {stream' : σ'} : S stream stream' →
    (RowStream.next stream).1 = (RowStream.next stream').1 ∧
      S (RowStream.next stream).2 (RowStream.next stream').2

namespace Cursor

variable {σ σ' : Type}

def onto (stream : σ') (cursor : Cursor σ) : Cursor σ' :=
  { cursor with stream }

def Alike (S : σ → σ' → Prop) (cursor : Cursor σ) (cursor' : Cursor σ') : Prop :=
  ∃ stream, S cursor.stream stream ∧ cursor' = cursor.onto stream

variable [RowStream σ] [RowStream σ'] {S : σ → σ' → Prop}

theorem alike_ofStream (hS : RowStream.Simulates S) {stream : σ} {stream' : σ'} (h : S stream stream') :
    Alike S (ofStream stream) (ofStream stream') := by
  refine ⟨stream', h, ?_⟩
  rw [ofStream, ← hS.columns_eq h]
  rfl

section Onto

variable {cursor : Cursor σ} {stream : σ'}

theorem columns_onto (h : RowStream.columns cursor.stream = RowStream.columns stream) :
    (cursor.onto stream).columns = cursor.columns :=
  h.symm

theorem readNext_onto (h : RowStream.columns cursor.stream = RowStream.columns stream) :
    (cursor.onto stream).readNext = (cursor.readNext.1, cursor.readNext.2.onto stream) := by
  have hcolumns := columns_onto h
  cases hcolumn : cursor.columns[cursor.readColumns]? with
  | none =>
    have hcolumn' : (cursor.onto stream).columns[cursor.readColumns]? = none := by
      rw [hcolumns, hcolumn]
    rw [readNext_of_none hcolumn, readNext_of_none hcolumn']
  | some column =>
    have hcolumn' : (cursor.onto stream).columns[cursor.readColumns]? = some column := by
      rw [hcolumns, hcolumn]
    cases hvalue : Row.readValue cursor.packet cursor.offset with
    | error error =>
      rw [readNext_of_error hcolumn hvalue, readNext_of_error hcolumn' hvalue, hcolumns]
      rfl
    | ok taken =>
      rw [readNext_of_ok hcolumn hvalue, readNext_of_ok hcolumn' hvalue]
      rfl

theorem nullBytes_onto (h : RowStream.columns cursor.stream = RowStream.columns stream) :
    (cursor.onto stream).nullBytes = (cursor.nullBytes.1, cursor.nullBytes.2.onto stream) := by
  rw [nullBytes_apply, nullBytes_apply, readNext_onto h]
  rfl

theorem bytes_onto (h : RowStream.columns cursor.stream = RowStream.columns stream) :
    (cursor.onto stream).bytes = (cursor.bytes.1, cursor.bytes.2.onto stream) := by
  rw [bytes, bytes, nullBytes_onto h]

theorem nullValue_onto (α : Type) [FromText α]
    (h : RowStream.columns cursor.stream = RowStream.columns stream) :
    (cursor.onto stream).nullValue α =
      ((cursor.nullValue α).1, (cursor.nullValue α).2.onto stream) := by
  rw [nullValue_apply, nullValue_apply, readNext_onto h]
  dsimp only [onto]
  split
  · rfl
  · split <;> rfl

theorem value_onto (α : Type) [FromText α]
    (h : RowStream.columns cursor.stream = RowStream.columns stream) :
    (cursor.onto stream).value α = ((cursor.value α).1, (cursor.value α).2.onto stream) := by
  rw [value, value, nullValue_onto α h]

end Onto

variable {cursor : Cursor σ} {cursor' : Cursor σ'}

theorem Alike.leaveRow (hS : RowStream.Simulates S) (h : Alike S cursor cursor') :
    Alike S cursor.leaveRow cursor'.leaveRow := by
  obtain ⟨stream, hstream, rfl⟩ := h
  refine ⟨stream, hstream, ?_⟩
  rw [Cursor.leaveRow, columns_onto (hS.columns_eq hstream)]
  rfl

theorem Alike.nextRow (hS : RowStream.Simulates S) (h : Alike S cursor cursor') :
    cursor.nextRow.1 = cursor'.nextRow.1 ∧ Alike S cursor.nextRow.2 cursor'.nextRow.2 := by
  obtain ⟨stream, hstream, rfl⟩ := h
  by_cases hover : cursor.exhausted = true ∨ cursor.readError.isSome = true
  · have hover' : (cursor.onto stream).exhausted = true ∨
        (cursor.onto stream).readError.isSome = true := hover
    rw [nextRow_of_over hover, nextRow_of_over hover']
    exact ⟨rfl, stream, hstream, rfl⟩
  obtain ⟨hreading, hunbroken⟩ : cursor.exhausted = false ∧ cursor.readError = none := by
    simpa using hover
  have hreading' : (cursor.onto stream).exhausted = false := hreading
  have hunbroken' : (cursor.onto stream).readError = none := hunbroken
  obtain ⟨hresult, hnext⟩ := hS.next hstream
  generalize hgives : RowStream.next cursor.stream = given at hresult hnext
  generalize hgives' : RowStream.next stream = given' at hresult hnext
  obtain ⟨result, next⟩ := given
  obtain ⟨result', next'⟩ := given'
  dsimp only at hresult hnext
  subst hresult
  rcases result with error | (_ | packet)
  · rw [nextRow_of_error hreading hunbroken hgives,
      nextRow_of_error hreading' hunbroken' hgives']
    exact ⟨rfl, Alike.leaveRow hS ⟨next', hnext, rfl⟩⟩
  · rw [nextRow_of_none hreading hunbroken hgives,
      nextRow_of_none hreading' hunbroken' hgives']
    exact ⟨rfl, Alike.leaveRow hS ⟨next', hnext, rfl⟩⟩
  · rw [nextRow_of_some hreading hunbroken hgives,
      nextRow_of_some hreading' hunbroken' hgives']
    exact ⟨rfl, next', hnext, rfl⟩

omit [RowStream σ'] in
theorem alike_of_reads {α : Type} {stream : σ'} (hstream : S cursor.stream stream)
    {read : α × Cursor σ} {read' : α × Cursor σ'} (hreads : cursor.Reads read.2)
    (h : read' = (read.1, read.2.onto stream)) :
    read.1 = read'.1 ∧ Alike S read.2 read'.2 := by
  rw [h]
  exact ⟨rfl, stream, by rwa [hreads.stream_eq], rfl⟩

theorem Alike.perform (hS : RowStream.Simulates S) (h : Alike S cursor cursor')
    (operation : Operation) :
    (cursor.perform operation).1 = (cursor'.perform operation).1 ∧
      Alike S (cursor.perform operation).2 (cursor'.perform operation).2 := by
  have hstill := h
  obtain ⟨stream, hstream, rfl⟩ := h
  have hcolumns := hS.columns_eq hstream
  cases operation with
  | nextRow => exact hstill.nextRow hS
  | nullBytes => exact alike_of_reads hstream (.nullBytes cursor) (nullBytes_onto hcolumns)
  | bytes => exact alike_of_reads hstream (.bytes cursor) (bytes_onto hcolumns)
  | nullValue α => exact alike_of_reads hstream (.nullValue α cursor) (nullValue_onto α hcolumns)
  | value α => exact alike_of_reads hstream (.value α cursor) (value_onto α hcolumns)
  | columns => exact ⟨hcolumns, hstill⟩
  | decoded | isExhausted | lastError => exact ⟨rfl, hstill⟩

theorem Alike.answers (hS : RowStream.Simulates S) (h : Alike S cursor cursor')
    (operations : List Operation) :
    cursor.answers operations = cursor'.answers operations ∧
      Alike S (cursor.after operations) (cursor'.after operations) := by
  induction operations generalizing cursor cursor' with
  | nil => exact ⟨rfl, h⟩
  | cons operation operations ih =>
    obtain ⟨hanswer, hnext⟩ := h.perform hS operation
    obtain ⟨hanswers, hlast⟩ := ih hnext
    refine ⟨?_, hlast⟩
    rw [Cursor.answers, Cursor.answers, hanswer, hanswers]

end Cursor

section ResultSet

open Connection

variable {τ τ' : Type} {R : τ → τ' → Prop}

structure ResultSet.Alike (R : τ → τ' → Prop) (resultSet : ResultSet τ) (resultSet' : ResultSet τ') :
    Prop where
  conn : Connection.Alike R resultSet.conn resultSet'.conn
  columns_eq : resultSet.columns = resultSet'.columns
  finished_eq : resultSet.finished = resultSet'.finished

inductive Connection.SameQuery (R : τ → τ' → Prop) : QueryResult τ → QueryResult τ' → Prop
  | cursor {cursor : Cursor (ResultSet τ)} {cursor' : Cursor (ResultSet τ')} :
      Cursor.Alike (ResultSet.Alike R) cursor cursor' → SameQuery R (.cursor cursor) (.cursor cursor')
  | error (error : Error) {conn : Connection τ} {conn' : Connection τ'} :
      Connection.Alike R conn conn' → SameQuery R (.error error conn) (.error error conn')

variable {resultSet : ResultSet τ} {resultSet' : ResultSet τ'}

theorem ResultSet.Alike.setConn (h : Alike R resultSet resultSet') {conn : Connection τ}
    {conn' : Connection τ'} (hconn : Connection.Alike R conn conn') :
    Alike R { resultSet with conn } { resultSet' with conn := conn' } :=
  ⟨hconn, h.columns_eq, h.finished_eq⟩

theorem ResultSet.Alike.fail (h : Alike R resultSet resultSet') (error : Error) :
    (resultSet.fail error).1 = (resultSet'.fail error).1 ∧
      Alike R (resultSet.fail error).2 (resultSet'.fail error).2 := by
  refine ⟨rfl, ?_, h.columns_eq, rfl⟩
  unfold ResultSet.fail
  dsimp only
  split
  · exact h.conn.invalidate
  · exact h.conn.setPending .none

variable [Transport τ] [Transport τ'] (hR : Simulates R)
include hR

theorem ResultSet.Alike.next (h : Alike R resultSet resultSet') :
    resultSet.next.1 = resultSet'.next.1 ∧ Alike R resultSet.next.2 resultSet'.next.2 := by
  cases hopen : resultSet.finished with
  | true =>
    have hopen' : resultSet'.finished = true := h.finished_eq ▸ hopen
    rw [ResultSet.next, ResultSet.next, if_pos hopen, if_pos hopen']
    exact ⟨rfl, h⟩
  | false =>
    have hopen' : resultSet'.finished = false := h.finished_eq ▸ hopen
    rcases hread : Transport.readPacket resultSet.conn.transport with ⟨error | packet, t⟩
    · obtain ⟨t', hread', ht⟩ := hR.exists_readPacket h.conn.transport hread
      rw [next_of_readError hopen hread, next_of_readError hopen' hread']
      exact (h.setConn (h.conn.setTransport ht)).fail error
    obtain ⟨t', hread', ht⟩ := hR.exists_readPacket h.conn.transport hread
    have hconn := h.setConn (h.conn.setTransport ht)
    by_cases herror : Response.isError packet
    · rw [next_of_isError hopen hread herror, next_of_isError hopen' hread' herror]
      exact hconn.fail _
    by_cases hterminator : Response.isTerminator packet
    · cases hstatus : Response.terminatorStatus (Transport.capabilities t) packet with
      | error error =>
        have hstatus' := hR.capabilities_eq ht ▸ hstatus
        rw [next_of_malformed hopen hread hterminator hstatus,
          next_of_malformed hopen' hread' hterminator hstatus']
        exact hconn.fail error
      | ok status =>
        have hstatus' := hR.capabilities_eq ht ▸ hstatus
        rw [next_of_terminator hopen hread hterminator hstatus,
          next_of_terminator hopen' hread' hterminator hstatus']
        exact ⟨rfl, hconn.conn.setPending _, hconn.columns_eq, rfl⟩
    · have hrow : Response.isRow packet := by simp [Response.isRow, herror, hterminator]
      rw [next_of_isRow hopen hread hrow, next_of_isRow hopen' hread' hrow]
      exact ⟨rfl, hconn⟩

theorem ResultSet.simulates : RowStream.Simulates (ResultSet.Alike R) where
  columns_eq h := h.columns_eq
  next h := h.next hR

theorem Connection.Alike.query (sql : String) {conn : Connection τ} {conn' : Connection τ'}
    (h : Connection.Alike R conn conn') : SameQuery R (conn.query sql) (conn'.query sql) := by
  have hheader : SameResult R ((send (.query sql) *> readHeaderOrFail) conn)
      ((send (.query sql) *> readHeaderOrFail) conn') :=
    (mirrors_send hR _).bind (fun _ ↦ mirrors_readHeaderOrFail hR) h
  unfold Connection.query
  generalize (send (.query sql) *> readHeaderOrFail) conn = result at hheader
  generalize (send (.query sql) *> readHeaderOrFail) conn' = result' at hheader
  cases hheader with
  | error error hconn => exact .error error hconn
  | ok columns? hconn =>
    cases columns? with
    | none => exact .cursor (Cursor.alike_ofStream (ResultSet.simulates hR) ⟨hconn, rfl, rfl⟩)
    | some columns =>
      exact .cursor (Cursor.alike_ofStream (ResultSet.simulates hR)
        ⟨hconn.setPending .rows, rfl, rfl⟩)

end ResultSet

end SqlClient
