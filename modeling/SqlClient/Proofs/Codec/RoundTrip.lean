import Mathlib.Algebra.Group.Nat.Defs
import SqlClient.Encoder
import SqlClient.Proofs.Codec.Decoder

namespace SqlClient.Decoder

variable (rest : Bytes)

theorem take_append (front : Bytes) : take front.length (front ++ rest) = .ok (front, rest) :=
  take_eq_ok.mpr ⟨rfl, rfl⟩

theorem fixed_encode {width n : Nat} (h : n < Nat.pow 256 width) :
    fixed width (LittleEndian.encode width n ++ rest) = .ok (n, rest) := by
  have htake := take_append rest (LittleEndian.encode width n)
  rw [LittleEndian.length_encode] at htake
  rw [fixed, bind_of_ok htake, pure_apply, LittleEndian.decode_encode, Nat.mod_eq_of_lt h]

theorem byte_encode (value : UInt8) : byte (Encoder.byte value ++ rest) = .ok (value, rest) := rfl

theorem uint16_encode (value : UInt16) :
    uint16 (Encoder.uint16 value ++ rest) = .ok (value, rest) := by
  have hlt : value.toNat < Nat.pow 256 2 := value.toNat_lt
  rw [uint16, Encoder.uint16, bind_of_ok (fixed_encode rest hlt), pure_apply, UInt16.ofNat_toNat]

theorem uint24_encode {value : UInt32} (h : value.toNat < 2 ^ 24) :
    uint24 (Encoder.uint24 value ++ rest) = .ok (value, rest) := by
  have hlt : value.toNat < Nat.pow 256 3 := h
  rw [uint24, Encoder.uint24, bind_of_ok (fixed_encode rest hlt), pure_apply, UInt32.ofNat_toNat]

theorem uint32_encode (value : UInt32) :
    uint32 (Encoder.uint32 value ++ rest) = .ok (value, rest) := by
  have hlt : value.toNat < Nat.pow 256 4 := value.toNat_lt
  rw [uint32, Encoder.uint32, bind_of_ok (fixed_encode rest hlt), pure_apply, UInt32.ofNat_toNat]

theorem lenencInt_of_lt {first : UInt8} (h : first.toNat < 0xFB) :
    lenencInt (first :: rest) = .ok (first.toUInt64, rest) := by
  have hne (b : UInt8) (hb : 0xFB ≤ b.toNat) : first ≠ b := by
    rintro rfl
    omega
  rw [lenencInt, bind_of_ok (show byte (first :: rest) = .ok (first, rest) from rfl),
    if_neg (hne 0xFC (by decide)), if_neg (hne 0xFD (by decide)), if_neg (hne 0xFE (by decide)),
    if_neg (not_or.mpr ⟨hne 0xFB (by decide), hne 0xFF (by decide)⟩), pure_apply]

theorem fixed_encode_uint64 {width : Nat} {value : UInt64} (h : value.toNat < Nat.pow 256 width) :
    (fixed width >>= fun n ↦ pure (UInt64.ofNat n) : Decoder UInt64)
      (LittleEndian.encode width value.toNat ++ rest) = .ok (value, rest) := by
  rw [bind_of_ok (fixed_encode rest h), pure_apply, UInt64.ofNat_toNat]

theorem uint64_encode (value : UInt64) :
    uint64 (Encoder.uint64 value ++ rest) = .ok (value, rest) := by
  have hlt : value.toNat < Nat.pow 256 8 := value.toNat_lt
  exact fixed_encode_uint64 rest hlt

theorem lenencInt_encode (value : UInt64) :
    lenencInt (Encoder.lenencInt value ++ rest) = .ok (value, rest) := by
  unfold Encoder.lenencInt
  dsimp only
  split
  · next h =>
    have hbyte : (UInt8.ofNat value.toNat).toNat = value.toNat := by
      rw [UInt8.toNat_ofNat']
      omega
    rw [List.singleton_append, lenencInt_of_lt rest (by omega)]
    congr 2
    rw [← UInt64.toNat_inj, UInt8.toNat_toUInt64, hbyte]
  split
  · next h => exact fixed_encode_uint64 rest h
  split
  · next h => exact fixed_encode_uint64 rest h
  · exact uint64_encode rest value

/-- No byte string in memory is longer than a 64-bit number can tell. -/
theorem lenencString_encodeBytes {data : Bytes} (h : data.length < UInt64.size) :
    lenencString (Encoder.lenencBytes data ++ rest) = .ok (data, rest) := by
  have hlength : (UInt64.ofNat data.length).toNat = data.length := UInt64.toNat_ofNat_of_lt' h
  rw [lenencString, Encoder.lenencBytes, List.append_assoc, bind_of_ok (lenencInt_encode _ _),
    hlength, take_append]

theorem readsExactly_byte (value : UInt8) : byte.ReadsExactly (Encoder.byte value) value :=
  exact_byte.readsExactly (byte_encode [] value)

theorem readsExactly_uint16 (value : UInt16) : uint16.ReadsExactly (Encoder.uint16 value) value :=
  exact_uint16.readsExactly (uint16_encode [] value)

theorem readsExactly_uint24 {value : UInt32} (h : value.toNat < 2 ^ 24) :
    uint24.ReadsExactly (Encoder.uint24 value) value :=
  exact_uint24.readsExactly (uint24_encode [] h)

theorem readsExactly_uint32 (value : UInt32) : uint32.ReadsExactly (Encoder.uint32 value) value :=
  exact_uint32.readsExactly (uint32_encode [] value)

theorem readsExactly_uint64 (value : UInt64) : uint64.ReadsExactly (Encoder.uint64 value) value :=
  exact_uint64.readsExactly (uint64_encode [] value)

theorem readsExactly_take (data : Bytes) : (take data.length).ReadsExactly data data :=
  (exact_take data.length).readsExactly (take_append [] data)

theorem readsExactly_lenencInt (value : UInt64) :
    lenencInt.ReadsExactly (Encoder.lenencInt value) value :=
  exact_lenencInt.readsExactly (lenencInt_encode [] value)

theorem readsExactly_lenencBytes {data : Bytes} (h : data.length < UInt64.size) :
    lenencString.ReadsExactly (Encoder.lenencBytes data) data :=
  exact_lenencString.readsExactly (lenencString_encodeBytes [] h)

theorem readsExactly_lenencString {text : String} (h : (Utf8.encode text).length < UInt64.size) :
    lenencString.ReadsExactly (Encoder.lenencString text) (Utf8.encode text) :=
  readsExactly_lenencBytes h

end SqlClient.Decoder
