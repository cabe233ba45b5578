import SqlClient.Text.Utf8

namespace SqlClient.Encoder

def byte (value : UInt8) : Bytes :=
  [value]

def uint16 (value : UInt16) : Bytes :=
  LittleEndian.encode 2 value.toNat

def uint24 (value : UInt32) : Bytes :=
  LittleEndian.encode 3 value.toNat

def uint32 (value : UInt32) : Bytes :=
  LittleEndian.encode 4 value.toNat

def uint64 (value : UInt64) : Bytes :=
  LittleEndian.encode 8 value.toNat

def lenencInt (value : UInt64) : Bytes :=
  let n := value.toNat
  if n < 251 then [UInt8.ofNat n]
  else if n < 0x10000 then 0xFC :: LittleEndian.encode 2 n
  else if n < 0x1000000 then 0xFD :: LittleEndian.encode 3 n
  else 0xFE :: LittleEndian.encode 8 n

def lenencBytes (data : Bytes) : Bytes :=
  lenencInt (UInt64.ofNat data.length) ++ data

def lenencString (text : String) : Bytes :=
  lenencBytes (Utf8.encode text)

end SqlClient.Encoder
