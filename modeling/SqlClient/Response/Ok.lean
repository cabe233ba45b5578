import SqlClient.Encoder
import SqlClient.Flags
import SqlClient.Response.Kind

namespace SqlClient

structure OkResponse where
  affectedRows : UInt64
  lastInsertId : UInt64
  status : Status
  warnings : UInt16
  info : String
  deriving DecidableEq, Repr

namespace OkResponse

def decodeStatus (caps : Capabilities) : Decoder (UInt16 × UInt16) := do
  if caps.has Capabilities.protocol41 then
    let status ← Decoder.uint16
    let warnings ← Decoder.uint16
    return (status, warnings)
  else if caps.has Capabilities.transactions then
    return (← Decoder.uint16, 0)
  else return (0, 0)

/-- The text at the end of the packet. With session tracking it has a length of its own, and may be
left out altogether. -/
def decodeInfo (caps : Capabilities) : Decoder Bytes := do
  if caps.has Capabilities.sessionTrack then
    if (← get).isEmpty then return [] else Decoder.lenencString
  else Decoder.remaining

def decoder (caps : Capabilities) : Decoder OkResponse := do
  let header ← Decoder.byte
  if header ≠ Response.okHeader ∧ header ≠ Response.eofHeader then throw .invalidPacket
  let affectedRows ← Decoder.lenencInt
  let lastInsertId ← Decoder.lenencInt
  let (status, warnings) ← decodeStatus caps
  let info ← decodeInfo caps
  return {
    affectedRows, lastInsertId, warnings
    status := .ofBits status.toNat
    info := Utf8.decodeLossy info }

def decode (caps : Capabilities) (payload : Bytes) : Except Error OkResponse :=
  (decoder caps).decode payload

end OkResponse

end SqlClient
