import SqlClient.Text.Utf8

namespace SqlClient.Percent

abbrev EncodeSet := Char → Bool

def controls : EncodeSet := fun c ↦ c.toNat < 0x20 || c.toNat = 0x7F

def pathSet : EncodeSet := fun c ↦
  controls c || [' ', '"', '#', '<', '>', '?', '`', '\x7b', '\x7d'].contains c

def userinfoSet : EncodeSet := fun c ↦
  pathSet c || ['/', ':', ';', '=', '@', '[', '\\', ']', '^', '|'].contains c

def hexDigit (n : Nat) : Char :=
  (Nat.digitChar n).toUpper

def encodeByte (b : UInt8) : List Char :=
  ['%', hexDigit (b.toNat / 16), hexDigit (b.toNat % 16)]

def encodeChar (set : EncodeSet) (c : Char) : List Char :=
  if c.toNat < 0x80 && !set c then [c] else (Utf8.encodeChar c).flatMap encodeByte

def encode (set : EncodeSet) (text : List Char) : List Char :=
  text.flatMap (encodeChar set)

def hexValue? (b : UInt8) : Option UInt8 :=
  if 0x30 ≤ b ∧ b ≤ 0x39 then some (b - 0x30)
  else if 0x41 ≤ b ∧ b ≤ 0x46 then some (b - 0x41 + 10)
  else if 0x61 ≤ b ∧ b ≤ 0x66 then some (b - 0x61 + 10)
  else none

/-- A percent sign that is not followed by two hexadecimal digits stands for itself. -/
def decode : Bytes → Bytes
  | 0x25 :: a :: b :: bytes =>
    match hexValue? a, hexValue? b with
    | some hi, some lo => (hi * 16 + lo) :: decode bytes
    | _, _ => 0x25 :: decode (a :: b :: bytes)
  | b :: bytes => b :: decode bytes
  | [] => []

end SqlClient.Percent
