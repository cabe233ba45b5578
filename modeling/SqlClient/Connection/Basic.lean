import SqlClient.Transport

namespace SqlClient

inductive Pending
  | none
  /-- Column definitions of a result set nobody asked for. -/
  | columns (remaining : Nat)
  | rows
  | nextResult
  deriving DecidableEq, Repr

def Pending.afterResult (status : Status) : Pending :=
  if status.has Status.moreResults then .nextResult else .none

structure Connection (τ : Type) where
  transport : τ
  /-- The last command as the transport left it. Only the room for the header is used again. -/
  writeBuffer : Bytes
  isValid : Bool
  pending : Pending

namespace Connection

variable {τ : Type}

def ofTransport (transport : τ) : Connection τ where
  transport
  writeBuffer := List.replicate Packet.reserve 0
  isValid := true
  pending := .none

def ofStream (stream : ByteStream) (capabilities : Capabilities) : Connection PacketStream :=
  ofTransport { stream, capabilities }

def hasPendingResult (conn : Connection τ) : Bool :=
  conn.pending ≠ .none

def invalidate (conn : Connection τ) : Connection τ :=
  { conn with isValid := false }

/-- The room for the header in front of a new command: as much of the old one as there is, filled
up with zeros. -/
def room (conn : Connection τ) : Bytes :=
  (conn.writeBuffer ++ List.replicate Packet.reserve 0).take Packet.reserve

/-- Steps that change the connection and may fail. A failure keeps the changes made before it. -/
abbrev Action (τ : Type) := EStateM Error (Connection τ)

variable [Transport τ]

def capabilities (conn : Connection τ) : Capabilities :=
  Transport.capabilities conn.transport

def fail {α : Type} (error : Error) : Action τ α := do
  modify invalidate
  throw error

def orFail {α : Type} : Except Error α → Action τ α
  | .ok a => return a
  | .error error => fail error

def liftExcept {α : Type} : Except Error α → Action τ α
  | .ok a => return a
  | .error error => throw error

def ensureReady : Action τ Unit := do
  let conn ← get
  if !conn.isValid then throw .connectionBroken
  if conn.hasPendingResult then throw .resultSetPending

end Connection

end SqlClient
