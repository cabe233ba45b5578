import SqlClient.Response.Ok

namespace SqlClient

structure EofResponse where
  warnings : UInt16
  statusBits : UInt16
  deriving DecidableEq, Repr

namespace EofResponse

def status (eof : EofResponse) : Status :=
  .ofBits eof.statusBits.toNat

def decoder : Decoder EofResponse := do
  let header ← Decoder.byte
  if header ≠ Response.eofHeader then throw .invalidPacket
  let warnings ← Decoder.uint16
  let statusBits ← Decoder.uint16
  return { warnings, statusBits }

def decode (payload : Bytes) : Except Error EofResponse :=
  decoder.decode payload

end EofResponse

namespace Response

/-- The status at the end of a result set: of an OK packet in a session that has no EOF packets, of
an EOF packet otherwise. -/
def terminatorStatus (caps : Capabilities) (payload : Bytes) : Except Error Status :=
  if caps.has Capabilities.deprecateEof then
    (OkResponse.decode caps payload).map OkResponse.status
  else (EofResponse.decode payload).map EofResponse.status

end Response

end SqlClient
