import SqlClient.Connection.Commands
import SqlClient.Discard

namespace SqlClient

def Pending.phase : Pending → Option Discard.Phase
  | .none => Option.none
  | .columns remaining => some (.columns remaining)
  | .rows => some .rows
  | .nextResult => some .firstPacket

namespace Connection

variable {τ : Type} [FiniteTransport τ]

def discardFrom (caps : Capabilities) (phase : Discard.Phase) (conn : Connection τ) :
    EStateM.Result Error (Connection τ) Unit :=
  match _h : Transport.readPacket conn.transport with
  | (.error error, transport) => fail error { conn with transport }
  | (.ok payload, transport) =>
    match phase.drive caps payload with
    | .error error => fail error { conn with transport }
    | .ok .finished => .ok () { conn with transport, pending := .none }
    | .ok phase => discardFrom caps phase { conn with transport }
termination_by FiniteTransport.backlog conn.transport
decreasing_by exact FiniteTransport.backlog_of_readPacket _h

def discardPending : Action τ Unit := do
  let conn ← get
  if !conn.isValid then throw .connectionBroken
  match conn.pending.phase with
  | none => return
  | some phase => discardFrom conn.capabilities phase

end Connection

end SqlClient
