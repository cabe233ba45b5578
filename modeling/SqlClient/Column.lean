import SqlClient.ColumnType
import SqlClient.Encoder
import SqlClient.Decoder
import SqlClient.Flags

namespace SqlClient

structure Column where
  schema : String := ""
  table : String := ""
  orgTable : String := ""
  name : String
  orgName : String := ""
  charset : UInt16 := 0
  columnLength : UInt32 := 0
  typeCode : UInt8 := 0
  flagBits : UInt16 := 0
  decimals : UInt8 := 0
  reserved : UInt16 := 0
  deriving DecidableEq, Repr

namespace Column

def flags (column : Column) : ColumnFlags :=
  .ofBits column.flagBits.toNat

def hexByte (b : UInt8) : String :=
  let digit (n : Nat) : Char := (Nat.digitChar n).toUpper
  String.ofList [digit (b.toNat / 16), digit (b.toNat % 16)]

def type (column : Column) : Except Error ColumnType :=
  match ColumnType.ofCode? column.typeCode with
  | some type => .ok type
  | none => .error (.libraryBug ("unknown column type: 0x" ++ hexByte column.typeCode))

/-- Six strings, of which the catalog is dropped; the length of the fixed fields, which is not used;
and the fixed fields. Whatever follows is ignored. -/
def decoder : Decoder Column := do
  let _catalog ← Decoder.lenencString
  let schema ← Decoder.lenencString
  let table ← Decoder.lenencString
  let orgTable ← Decoder.lenencString
  let name ← Decoder.lenencString
  let orgName ← Decoder.lenencString
  let _length ← Decoder.lenencInt
  let charset ← Decoder.uint16
  let columnLength ← Decoder.uint32
  let typeCode ← Decoder.byte
  let flagBits ← Decoder.uint16
  let decimals ← Decoder.byte
  let reserved ← Decoder.uint16
  return {
    schema := Utf8.decodeLossy schema
    table := Utf8.decodeLossy table
    orgTable := Utf8.decodeLossy orgTable
    name := Utf8.decodeLossy name
    orgName := Utf8.decodeLossy orgName
    charset, columnLength, typeCode, flagBits, decimals, reserved }

def decode (payload : Bytes) : Except Error Column :=
  decoder.decode payload

end Column

end SqlClient
