import SqlClient.Connection.Commands
import SqlClient.Cursor
import SqlClient.Response.Header

namespace SqlClient

structure ResultSet (τ : Type) where
  conn : Connection τ
  columns : List Column
  finished : Bool

namespace ResultSet

variable {τ : Type} [Transport τ]

/-- Ends the rows with an error. An error that leaves the connection in step ends the result on the
wire too. -/
def fail (error : Error) (resultSet : ResultSet τ) : Except Error (Option Bytes) × ResultSet τ :=
  let conn := resultSet.conn
  let conn := if error.breaksConnection then conn.invalidate else { conn with pending := .none }
  (.error error, { resultSet with conn, finished := true })

def finish (status : Status) (resultSet : ResultSet τ) : ResultSet τ :=
  { resultSet with
    conn := { resultSet.conn with pending := .afterResult status }
    finished := true }

def next (resultSet : ResultSet τ) : Except Error (Option Bytes) × ResultSet τ :=
  if resultSet.finished then (.ok none, resultSet)
  else
    let (result, transport) := Transport.readPacket resultSet.conn.transport
    let resultSet := { resultSet with conn := { resultSet.conn with transport } }
    match result with
    | .error error => resultSet.fail error
    | .ok packet =>
      if Response.isError packet then resultSet.fail (Error.ofResponse packet)
      else if Response.isTerminator packet then
        match Response.terminatorStatus resultSet.conn.capabilities packet with
        | .error error => resultSet.fail error
        | .ok status => (.ok none, resultSet.finish status)
      else (.ok (some packet), resultSet)

instance : RowStream (ResultSet τ) where
  columns := columns
  next := next

end ResultSet

namespace Connection

variable {τ : Type} [Transport τ]

def readColumns : Nat → Action τ (List Column)
  | 0 => return []
  | count + 1 => do
    let column ← liftExcept (Column.decode (← readResponse))
    return column :: (← readColumns count)

def readResultHeader : Action τ (Option (List Column)) := do
  let caps := (← get).capabilities
  match ← liftExcept (Response.Header.decode (← readResponse)) with
  | .ok payload =>
    let ok ← liftExcept (OkResponse.decode caps payload)
    noteMoreResults ok.status
    return none
  | .resultSet count =>
    let columns ← readColumns count
    if !caps.has Capabilities.deprecateEof then
      let _ ← liftExcept (EofResponse.decode (← readResponse))
    return some columns

/-- Every error ahead of the rows breaks the connection, but for the server's own. -/
def readHeaderOrFail : Action τ (Option (List Column)) := do
  try readResultHeader
  catch
  | .server report => throw (.server report)
  | error => fail error

inductive QueryResult (τ : Type)
  | cursor (rows : Cursor (ResultSet τ))
  | error (error : Error) (conn : Connection τ)

/-- Sends a query and reads up to its rows. A statement without a result set gives a cursor with no
columns and no rows. -/
def query (sql : String) (conn : Connection τ) : QueryResult τ :=
  match (send (.query sql) *> readHeaderOrFail) conn with
  | .error error conn => .error error conn
  | .ok (some columns) conn =>
    .cursor (.ofStream { conn := { conn with pending := .rows }, columns, finished := false })
  | .ok none conn => .cursor (.ofStream { conn, columns := [], finished := true })

end Connection

def Cursor.release {τ : Type} (cursor : Cursor (ResultSet τ)) : Connection τ :=
  cursor.stream.conn

end SqlClient
