import SqlClient.Command
import SqlClient.Connection.Basic
import SqlClient.Response.Eof
import SqlClient.Response.Err

namespace SqlClient.Connection

variable {τ : Type} [Transport τ]

def send (command : Command) : Action τ Unit := do
  ensureReady
  let conn ← get
  let ((outcome, packet), transport) :=
    Transport.writeCommand (conn.room ++ command.encode) conn.transport
  set { conn with transport, writeBuffer := packet }
  orFail outcome

def readResponse : Action τ Bytes := do
  let conn ← get
  let (result, transport) := Transport.readPacket conn.transport
  set { conn with transport }
  orFail result

def noteMoreResults (status : Status) : Action τ Unit := do
  if status.has Status.moreResults then
    modify fun conn ↦ { conn with pending := .nextResult }

def resultSetError : Error :=
  .badUsage "exec() received a result set; use query() for statements returning rows"

/-- Runs a statement that returns no rows. The answer is one packet, so an OK packet that cannot be
decoded leaves the connection in step; a result set stays pending. -/
def exec (sql : String) : Action τ OkResponse := do
  send (.query sql)
  let payload ← readResponse
  match ← orFail (Response.kind payload) with
  | .ok =>
    let ok ← liftExcept (OkResponse.decode (← get).capabilities payload)
    noteMoreResults ok.status
    return ok
  | .error => throw (Error.ofResponse payload)
  | .resultSet =>
    if payload.head? = some Response.localInfileHeader then fail .localInfile
    let count ← orFail (Decoder.lenencInt.decode payload)
    modify fun conn ↦ { conn with pending := .columns count.toNat }
    throw resultSetError
  | .eof => fail .invalidPacket

def ping : Action τ Unit := do
  send .ping
  let payload ← readResponse
  match ← orFail (Response.kind payload) with
  | .ok => return
  | .error => throw (Error.ofResponse payload)
  | .eof | .resultSet => fail .invalidPacket

/-- Ends the session. The server does not answer, so what is unread does not matter; a broken
connection sends nothing. -/
def close : Action τ Unit := do
  if (← get).isValid then
    modify fun conn ↦ { conn with pending := .none }
    send .quit

end SqlClient.Connection
