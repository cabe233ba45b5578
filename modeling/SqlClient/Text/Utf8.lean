import SqlClient.Bytes

namespace SqlClient.Utf8

def encodeChar (c : Char) : Bytes :=
  let n := c.toNat
  if n < 0x80 then [UInt8.ofNat n]
  else if n < 0x800 then [UInt8.ofNat (0xC0 + n / 64), UInt8.ofNat (0x80 + n % 64)]
  else if n < 0x10000 then
    [UInt8.ofNat (0xE0 + n / 4096), UInt8.ofNat (0x80 + n / 64 % 64), UInt8.ofNat (0x80 + n % 64)]
  else
    [UInt8.ofNat (0xF0 + n / 262144), UInt8.ofNat (0x80 + n / 4096 % 64),
      UInt8.ofNat (0x80 + n / 64 % 64), UInt8.ofNat (0x80 + n % 64)]

def encode (text : String) : Bytes :=
  text.toList.flatMap encodeChar

/-- What a lead byte announces: how many bytes follow, in which range the first of them lies, and
the bits that the lead byte itself carries. -/
structure Lead where
  count : Nat
  low : UInt8
  high : UInt8
  bits : Nat

/-- The ranges leave out overlong forms, surrogates and numbers past the last scalar value. -/
def Lead.ofByte? (b : UInt8) : Option Lead :=
  if b < 0x80 then some ⟨0, 0x80, 0xBF, b.toNat⟩
  else if b < 0xC2 then none
  else if b < 0xE0 then some ⟨1, 0x80, 0xBF, b.toNat - 0xC0⟩
  else if b = 0xE0 then some ⟨2, 0xA0, 0xBF, 0⟩
  else if b = 0xED then some ⟨2, 0x80, 0x9F, 0xD⟩
  else if b < 0xF0 then some ⟨2, 0x80, 0xBF, b.toNat - 0xE0⟩
  else if b = 0xF0 then some ⟨3, 0x90, 0xBF, 0⟩
  else if b < 0xF4 then some ⟨3, 0x80, 0xBF, b.toNat - 0xF0⟩
  else if b = 0xF4 then some ⟨3, 0x80, 0x8F, 4⟩
  else none

def readTail : Nat → UInt8 → UInt8 → Nat → Bytes → Option Nat × Bytes
  | 0, _, _, value, bytes => (some value, bytes)
  | _ + 1, _, _, _, [] => (none, [])
  | count + 1, low, high, value, b :: bytes =>
    if low ≤ b ∧ b ≤ high then
      readTail count 0x80 0xBF (value * 64 + (b.toNat - 0x80)) bytes
    else (none, b :: bytes)

theorem length_readTail_le (count : Nat) (low high : UInt8) (value : Nat) (bytes : Bytes) :
    (readTail count low high value bytes).2.length ≤ bytes.length := by
  induction count generalizing low high value bytes with
  | zero => exact Nat.le_refl _
  | succ count ih =>
    cases bytes with
    | nil => exact Nat.le_refl _
    | cons b bytes =>
      rw [readTail]
      split
      · exact Nat.le_succ_of_le (ih ..)
      · exact Nat.le_refl _

/-- The first scalar value of a non-empty byte string, or `none` for a maximal invalid part, and
the bytes after it. -/
def readChar (b : UInt8) (bytes : Bytes) : Option Char × Bytes :=
  match Lead.ofByte? b with
  | none => (none, bytes)
  | some lead =>
    let (value, rest) := readTail lead.count lead.low lead.high lead.bits bytes
    (value.map Char.ofNat, rest)

theorem length_readChar_le (b : UInt8) (bytes : Bytes) :
    (readChar b bytes).2.length ≤ bytes.length := by
  unfold readChar
  split
  · exact Nat.le_refl _
  · exact length_readTail_le ..

def scanOnto (seen : List (Option Char)) : Bytes → List (Option Char)
  | [] => seen.reverse
  | b :: bytes => scanOnto ((readChar b bytes).1 :: seen) (readChar b bytes).2
termination_by bytes => bytes.length
decreasing_by exact Nat.lt_succ_of_le (length_readChar_le b bytes)

def scan (bytes : Bytes) : List (Option Char) :=
  scanOnto [] bytes

def decode? (bytes : Bytes) : Option String :=
  let chars := scan bytes
  if chars.all Option.isSome then some (String.ofList (chars.filterMap id)) else none

def decodeLossy (bytes : Bytes) : String :=
  String.ofList ((scan bytes).map (·.getD '\uFFFD'))

end SqlClient.Utf8
