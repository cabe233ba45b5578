import SqlClient.Packet

namespace SqlClient.Response

def okHeader : UInt8 := 0x00

def eofHeader : UInt8 := 0xFE

def errorHeader : UInt8 := 0xFF

def localInfileHeader : UInt8 := 0xFB

inductive Kind
  | ok
  | error
  | eof
  | resultSet
  deriving DecidableEq, Repr

def isError (payload : Bytes) : Bool :=
  payload.head? = some errorHeader

/-- What a payload is by its first byte. 0xFE is an EOF packet only if the payload is shorter than
nine bytes. -/
def kind : Bytes → Except Error Kind
  | [] => .error .invalidPacket
  | first :: rest =>
    if first = errorHeader then .ok .error
    else if first = eofHeader ∧ (rest.take 8).length < 8 then .ok .eof
    else if first = okHeader then .ok .ok
    else .ok .resultSet

/-- Whether a packet among the rows of a result set ends them. A row starts with 0xFE only if its
first value is 2^24 bytes or longer, and then its payload fills more than one packet. -/
def isTerminator (payload : Bytes) : Bool :=
  payload.head? = some eofHeader && payload.length < Packet.maxPayload

end SqlClient.Response
