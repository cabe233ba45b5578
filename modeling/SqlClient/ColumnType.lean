namespace SqlClient

inductive ColumnType
  | decimal
  | tiny
  | short
  | long
  | float
  | double
  | null
  | timestamp
  | longlong
  | int24
  | date
  | time
  | datetime
  | year
  | newdate
  | varchar
  | bit
  | timestamp2
  | datetime2
  | time2
  | json
  | newdecimal
  | enum
  | set
  | tinyBlob
  | mediumBlob
  | longBlob
  | blob
  | varString
  | string
  | geometry
  deriving DecidableEq, Repr

namespace ColumnType

def all : List ColumnType := [
  .decimal, .tiny, .short, .long, .float, .double, .null, .timestamp,
  .longlong, .int24, .date, .time, .datetime, .year, .newdate, .varchar,
  .bit, .timestamp2, .datetime2, .time2, .json, .newdecimal, .enum, .set,
  .tinyBlob, .mediumBlob, .longBlob, .blob, .varString, .string, .geometry]

def code : ColumnType → UInt8
  | decimal => 0x00
  | tiny => 0x01
  | short => 0x02
  | long => 0x03
  | float => 0x04
  | double => 0x05
  | null => 0x06
  | timestamp => 0x07
  | longlong => 0x08
  | int24 => 0x09
  | date => 0x0A
  | time => 0x0B
  | datetime => 0x0C
  | year => 0x0D
  | newdate => 0x0E
  | varchar => 0x0F
  | bit => 0x10
  | timestamp2 => 0x11
  | datetime2 => 0x12
  | time2 => 0x13
  | json => 0xF5
  | newdecimal => 0xF6
  | enum => 0xF7
  | set => 0xF8
  | tinyBlob => 0xF9
  | mediumBlob => 0xFA
  | longBlob => 0xFB
  | blob => 0xFC
  | varString => 0xFD
  | string => 0xFE
  | geometry => 0xFF

def name : ColumnType → String
  | decimal => "MYSQL_TYPE_DECIMAL"
  | tiny => "MYSQL_TYPE_TINY"
  | short => "MYSQL_TYPE_SHORT"
  | long => "MYSQL_TYPE_LONG"
  | float => "MYSQL_TYPE_FLOAT"
  | double => "MYSQL_TYPE_DOUBLE"
  | null => "MYSQL_TYPE_NULL"
  | timestamp => "MYSQL_TYPE_TIMESTAMP"
  | longlong => "MYSQL_TYPE_LONGLONG"
  | int24 => "MYSQL_TYPE_INT24"
  | date => "MYSQL_TYPE_DATE"
  | time => "MYSQL_TYPE_TIME"
  | datetime => "MYSQL_TYPE_DATETIME"
  | year => "MYSQL_TYPE_YEAR"
  | newdate => "MYSQL_TYPE_NEWDATE"
  | varchar => "MYSQL_TYPE_VARCHAR"
  | bit => "MYSQL_TYPE_BIT"
  | timestamp2 => "MYSQL_TYPE_TIMESTAMP2"
  | datetime2 => "MYSQL_TYPE_DATETIME2"
  | time2 => "MYSQL_TYPE_TIME2"
  | json => "MYSQL_TYPE_JSON"
  | newdecimal => "MYSQL_TYPE_NEWDECIMAL"
  | enum => "MYSQL_TYPE_ENUM"
  | set => "MYSQL_TYPE_SET"
  | tinyBlob => "MYSQL_TYPE_TINY_BLOB"
  | mediumBlob => "MYSQL_TYPE_MEDIUM_BLOB"
  | longBlob => "MYSQL_TYPE_LONG_BLOB"
  | blob => "MYSQL_TYPE_BLOB"
  | varString => "MYSQL_TYPE_VAR_STRING"
  | string => "MYSQL_TYPE_STRING"
  | geometry => "MYSQL_TYPE_GEOMETRY"

def ofCode? (code : UInt8) : Option ColumnType :=
  all.find? fun type ↦ type.code = code

@[simp]
theorem ofCode?_code (type : ColumnType) : ofCode? type.code = some type := by
  cases type <;> rfl

end ColumnType

end SqlClient
