import SqlClient.Response.Err

namespace SqlClient.Response

inductive Header
  | ok (payload : Bytes)
  | resultSet (columnCount : Nat)
  deriving DecidableEq, Repr

def Header.decode (payload : Bytes) : Except Error Header :=
  match payload with
  | [] => .error .invalidPacket
  | first :: _ =>
    if first = errorHeader then .error (Error.ofResponse payload)
    else if first = okHeader then .ok (.ok payload)
    else if first = localInfileHeader then .error .localInfile
    else (Decoder.lenencInt.decode payload).map (.resultSet ·.toNat)

end SqlClient.Response
