import SqlClient.Bytes
import SqlClient.Error

namespace SqlClient

/-- A decoder takes what it reads off the front of the input. On an error nothing is taken. -/
abbrev Decoder := StateT Bytes (Except Error)

namespace Decoder

def byte : Decoder UInt8
  | [] => .error .unexpectedEof
  | b :: rest => .ok (b, rest)

def take (count : Nat) : Decoder Bytes := fun input ↦
  match takeExactly? count input with
  | some taken => .ok taken
  | none => .error .unexpectedEof

def fixed (width : Nat) : Decoder Nat := do
  return LittleEndian.decode (← take width)

def uint16 : Decoder UInt16 := do
  return UInt16.ofNat (← fixed 2)

def uint24 : Decoder UInt32 := do
  return UInt32.ofNat (← fixed 3)

def uint32 : Decoder UInt32 := do
  return UInt32.ofNat (← fixed 4)

def uint64 : Decoder UInt64 := do
  return UInt64.ofNat (← fixed 8)

/-- A length-encoded integer: one byte below 0xFB stands for itself, 0xFC to 0xFE announce two,
three and eight bytes. 0xFB is NULL in a row and 0xFF an error packet, so neither starts a
number. -/
def lenencInt : Decoder UInt64 := do
  let first ← byte
  if first = 0xFC then return UInt64.ofNat (← fixed 2)
  else if first = 0xFD then return UInt64.ofNat (← fixed 3)
  else if first = 0xFE then uint64
  else if first = 0xFB ∨ first = 0xFF then throw .invalidPacket
  else return first.toUInt64

def lenencString : Decoder Bytes := do
  let length ← lenencInt
  take length.toNat

def remaining : Decoder Bytes := fun input ↦
  .ok (input, [])

def decode {α : Type} (decoder : Decoder α) (input : Bytes) : Except Error α :=
  (decoder input).map Prod.fst

end Decoder

end SqlClient
