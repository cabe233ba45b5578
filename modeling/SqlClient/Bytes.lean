namespace SqlClient

abbrev Bytes := List UInt8

namespace LittleEndian

def decode : Bytes → Nat
  | [] => 0
  | b :: bytes => b.toNat + 256 * decode bytes

def encode : Nat → Nat → Bytes
  | 0, _ => []
  | width + 1, n => UInt8.ofNat n :: encode width (n / 256)

@[simp]
theorem length_encode (width n : Nat) : (encode width n).length = width := by
  induction width generalizing n with
  | zero => rfl
  | succ width ih => simp [encode, ih]

theorem decode_encode (width n : Nat) : decode (encode width n) = n % Nat.pow 256 width := by
  induction width generalizing n with
  | zero => simp [encode, decode, Nat.mod_one]
  | succ width ih =>
    have hpow : Nat.pow 256 (width + 1) = 256 * Nat.pow 256 width := Nat.pow_succ'
    rw [encode, decode, ih, UInt8.toNat_ofNat', hpow, Nat.mod_mul]

theorem encode_decode (bytes : Bytes) : encode bytes.length (decode bytes) = bytes := by
  induction bytes with
  | nil => rfl
  | cons b bytes ih =>
    have hdigit : UInt8.ofNat (b.toNat + 256 * decode bytes) = b := by
      rw [← UInt8.toNat_inj, UInt8.toNat_ofNat']
      have hb : b.toNat < 256 := b.toNat_lt
      omega
    have hrest : (b.toNat + 256 * decode bytes) / 256 = decode bytes := by
      have hb : b.toNat < 256 := b.toNat_lt
      omega
    rw [List.length_cons, decode, encode, hdigit, hrest, ih]

theorem decode_lt (bytes : Bytes) : decode bytes < Nat.pow 256 bytes.length := by
  induction bytes with
  | nil => decide
  | cons b bytes ih =>
    have hpow : Nat.pow 256 (bytes.length + 1) = 256 * Nat.pow 256 bytes.length := Nat.pow_succ'
    have hb : b.toNat < 256 := b.toNat_lt
    rw [List.length_cons, decode, hpow]
    omega

end LittleEndian

def takeExactly? (count : Nat) (bytes : Bytes) : Option (Bytes × Bytes) :=
  let (front, rest) := bytes.splitAt count
  if front.length = count then some (front, rest) else none

theorem takeExactly?_eq_some_iff {count : Nat} {bytes front rest : Bytes} :
    takeExactly? count bytes = some (front, rest) ↔
      bytes = front ++ rest ∧ front.length = count := by
  simp only [takeExactly?, List.splitAt_eq, Option.ite_none_right_eq_some, Option.some.injEq,
    Prod.mk.injEq]
  constructor
  · rintro ⟨h, rfl, rfl⟩
    exact ⟨(List.take_append_drop ..).symm, h⟩
  · rintro ⟨rfl, rfl⟩
    simp

theorem takeExactly?_eq_none_iff {count : Nat} {bytes : Bytes} :
    takeExactly? count bytes = none ↔ bytes.length < count := by
  simp only [takeExactly?, List.splitAt_eq, ite_eq_right_iff, reduceCtorEq, imp_false,
    List.length_take]
  omega

@[simp]
theorem takeExactly?_append (front rest : Bytes) :
    takeExactly? front.length (front ++ rest) = some (front, rest) :=
  takeExactly?_eq_some_iff.mpr ⟨rfl, rfl⟩

theorem length_of_takeExactly? {count : Nat} {bytes front rest : Bytes}
    (h : takeExactly? count bytes = some (front, rest)) : rest.length + count = bytes.length := by
  obtain ⟨rfl, rfl⟩ := takeExactly?_eq_some_iff.mp h
  rw [List.length_append, Nat.add_comm]

def slice (bytes : Bytes) (start stop : Nat) : Bytes :=
  (bytes.drop start).take (stop - start)

end SqlClient
