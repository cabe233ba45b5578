import Mathlib.Logic.Relation
import SqlClient.Proofs.Connection.Discarding
import SqlClient.Proofs.Cursor.Values

namespace SqlClient

open Connection

/-- A client between two calls. While it has a cursor, it has no connection. -/
inductive Client (τ : Type)
  | idle (conn : Connection τ)
  | reading (cursor : Cursor (ResultSet τ))

namespace Client

def connection {τ : Type} : Client τ → Connection τ
  | idle conn => conn
  | reading cursor => cursor.release

def ofQuery {τ : Type} : QueryResult τ → Client τ
  | .cursor rows => reading rows
  | .error _ conn => idle conn

inductive Operation
  | query (sql : String)
  | exec (sql : String)
  | ping
  | discardPending
  | nextRow
  | readValue
  | release
  deriving DecidableEq, Repr

def Operation.command? : Operation → Option Command
  | query sql | exec sql => some (.query sql)
  | ping => some .ping
  | discardPending | nextRow | readValue | release => none

section Performs

variable {τ : Type} [Transport τ]

/-- A call, the error that it ends with, and where it leads. A call for the next row keeps its error in
the cursor. Throwing packets away leads on if it comes to an end, as it always does over a
`FiniteTransport`. -/
inductive Performs : Client τ → Operation → Option Error → Client τ → Prop
  | query (sql : String) (conn : Connection τ) :
      Performs (idle conn) (.query sql) (conn.query sql).error? (ofQuery (conn.query sql))
  | exec (sql : String) (conn : Connection τ) :
      Performs (idle conn) (.exec sql) (error? (exec sql conn)) (idle (afterwards (exec sql conn)))
  | ping (conn : Connection τ) :
      Performs (idle conn) .ping (error? (ping conn)) (idle (afterwards (ping conn)))
  | discardPending {conn : Connection τ} {result : EStateM.Result Error (Connection τ) Unit} :
      DiscardsPending conn result →
      Performs (idle conn) .discardPending (error? result) (idle (afterwards result))
  | nextRow (cursor : Cursor (ResultSet τ)) :
      Performs (reading cursor) .nextRow cursor.nextRow.2.readError (reading cursor.nextRow.2)
  | readValue {cursor cursor' : Cursor (ResultSet τ)} : cursor.Reads cursor' →
      Performs (reading cursor) .readValue none (reading cursor')
  | release (cursor : Cursor (ResultSet τ)) :
      Performs (reading cursor) .release none (idle cursor.release)

def Run : Client τ → Client τ → Prop :=
  Relation.ReflTransGen fun client client' ↦ ∃ operation error,
    Performs client operation error client'

end Performs

end Client

end SqlClient
