import SqlClient.Text.Utf8
import SqlClient.Response.Kind

namespace SqlClient

namespace ServerError

def stateMarker : UInt8 := 0x23

def decodeState : Decoder Bytes := do
  if (← get).head? = some stateMarker then
    let _ ← Decoder.byte
    Decoder.take 5
  else return []

def decoder : Decoder ServerError := do
  let header ← Decoder.byte
  if header ≠ Response.errorHeader then throw .invalidPacket
  let code ← Decoder.uint16
  let state ← decodeState
  let message ← Decoder.remaining
  return { code, state := Utf8.decodeLossy state, message := Utf8.decodeLossy message }

def decode (payload : Bytes) : Except Error ServerError :=
  decoder.decode payload

end ServerError

def Error.ofResponse (payload : Bytes) : Error :=
  match ServerError.decode payload with
  | .ok report => .server report
  | .error error => error

end SqlClient
