import SqlClient.Proofs.Codec.RoundTrip

namespace SqlClient

open Decoder

inductive Element
  | byte (value : UInt8)
  | uint16 (value : UInt16)
  | uint24 (value : UInt32) (fits : value.toNat < 2 ^ 24)
  | uint64 (value : UInt64)
  | lenencInt (value : UInt64)
  | lenencBytes (data : Bytes) (fits : data.length < UInt64.size)
  | lenencString (text : String) (fits : (Utf8.encode text).length < UInt64.size)
  | raw (data : Bytes)

namespace Element

inductive Kind
  | byte
  | uint16
  | uint24
  | uint64
  | lenencInt
  | lenencString
  | raw (length : Nat)
  deriving DecidableEq, Repr

inductive Value
  | byte (value : UInt8)
  | uint16 (value : UInt16)
  | uint32 (value : UInt32)
  | uint64 (value : UInt64)
  | bytes (data : Bytes)
  deriving DecidableEq, Repr

def Kind.read : Kind → Decoder Value
  | byte => return .byte (← Decoder.byte)
  | uint16 => return .uint16 (← Decoder.uint16)
  | uint24 => return .uint32 (← Decoder.uint24)
  | uint64 => return .uint64 (← Decoder.uint64)
  | lenencInt => return .uint64 (← Decoder.lenencInt)
  | lenencString => return .bytes (← Decoder.lenencString)
  | raw length => return .bytes (← Decoder.take length)

def write : Element → Bytes
  | byte value => Encoder.byte value
  | uint16 value => Encoder.uint16 value
  | uint24 value _ => Encoder.uint24 value
  | uint64 value => Encoder.uint64 value
  | lenencInt value => Encoder.lenencInt value
  | lenencBytes data _ => Encoder.lenencBytes data
  | lenencString text _ => Encoder.lenencString text
  | raw data => data

def kind : Element → Kind
  | byte _ => .byte
  | uint16 _ => .uint16
  | uint24 _ _ => .uint24
  | uint64 _ => .uint64
  | lenencInt _ => .lenencInt
  | lenencBytes _ _ | lenencString _ _ => .lenencString
  | raw data => .raw data.length

def value : Element → Value
  | byte value => .byte value
  | uint16 value => .uint16 value
  | uint24 value _ => .uint32 value
  | uint64 value | lenencInt value => .uint64 value
  | lenencBytes data _ | raw data => .bytes data
  | lenencString text _ => .bytes (Utf8.encode text)

theorem readsExactly_write (element : Element) :
    element.kind.read.ReadsExactly element.write element.value := by
  cases element with
  | byte value => exact (readsExactly_byte value).bind_pure _
  | uint16 value => exact (readsExactly_uint16 value).bind_pure _
  | uint24 value fits => exact (readsExactly_uint24 fits).bind_pure _
  | uint64 value => exact (readsExactly_uint64 value).bind_pure _
  | lenencInt value => exact (readsExactly_lenencInt value).bind_pure _
  | lenencBytes data fits => exact (readsExactly_lenencBytes fits).bind_pure _
  | lenencString text fits => exact (readsExactly_lenencString fits).bind_pure _
  | raw data => exact (readsExactly_take data).bind_pure _

/-- Reading takes what was written, no less and no more. -/
theorem read_sequence (elements : List Element) (suffix : Bytes) :
    (elements.map kind).mapM Kind.read (elements.flatMap write ++ suffix) =
      .ok (elements.map value, suffix) := by
  rw [List.mapM_map]
  have hread := readsExactly_mapM fun element (_ : element ∈ elements) ↦ element.readsExactly_write
  exact hread.ok suffix

/-- A byte that marks NULL or an error is an ordinary byte inside a string. -/
example :
    [Kind.lenencString, .lenencInt, .raw 1, .uint24].mapM Kind.read
        [1, 0xFB, 0xFC, 0xFF, 0x00, 0xFB, 1, 2, 3, 0xAA] =
      .ok ([.bytes [0xFB], .uint64 0xFF, .bytes [0xFB], .uint32 0x030201], [0xAA]) := by
  rfl

end Element

end SqlClient
