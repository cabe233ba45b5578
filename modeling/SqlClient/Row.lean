import SqlClient.Decoder

namespace SqlClient

namespace Row

def nullMarker : UInt8 := 0xFB

structure Span where
  start : Nat
  stop : Nat
  deriving DecidableEq, Repr

/-- The value that starts at `offset`, `none` for NULL, and the offset of the one after it. -/
def readValue (row : Bytes) (offset : Nat) : Except Error (Option Span × Nat) := do
  if row.length < offset then throw .unexpectedEof
  let rest := row.drop offset
  if rest.head? = some nullMarker then return (none, offset + 1)
  let (length, rest) ← Decoder.lenencInt rest
  if rest.length < length.toNat then throw .unexpectedEof
  let start := row.length - rest.length
  return (some ⟨start, start + length.toNat⟩, start + length.toNat)

end Row

end SqlClient
