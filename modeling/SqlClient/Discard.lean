import SqlClient.Response.Eof
import SqlClient.Response.Header

namespace SqlClient

namespace Discard

/-- What the machine that reads a response to throw it away takes the next packet for. -/
inductive Phase
  | firstPacket
  | columns (remaining : Nat)
  | intermediateEof
  | rows
  | finished
  deriving DecidableEq, Repr

def Phase.afterResult (status : Status) : Phase :=
  if status.has Status.moreResults then .firstPacket else .finished

def Phase.drive (caps : Capabilities) (payload : Bytes) (phase : Phase) : Except Error Phase :=
  if Response.isError payload ∧ phase ≠ .finished then .ok .finished
  else
    match phase with
    | .firstPacket => do
      match ← Response.Header.decode payload with
      | .ok payload => return .afterResult (← OkResponse.decode caps payload).status
      | .resultSet count => return .columns count
    | .columns remaining =>
      if 1 < remaining then .ok (.columns (remaining - 1))
      else if caps.has Capabilities.deprecateEof then .ok .rows
      else .ok .intermediateEof
    | .intermediateEof => .ok .rows
    | .rows =>
      if Response.isTerminator payload then
        (Response.terminatorStatus caps payload).map Phase.afterResult
      else .ok .rows
    | .finished => .error (.libraryBug "discard driven after it finished")

end Discard

end SqlClient
