import SqlClient.Proofs.Codec.RoundTrip

namespace SqlClient

namespace Decoder

variable {input rest : Bytes}

theorem fixed_eq_ok {width n : Nat} :
    fixed width input = .ok (n, rest) ↔
      n < Nat.pow 256 width ∧ input = LittleEndian.encode width n ++ rest := by
  constructor
  · intro h
    obtain ⟨front, input', htake, hdecode⟩ := bind_eq_ok.mp h
    obtain ⟨rfl, rfl⟩ := take_eq_ok.mp htake
    cases hdecode
    exact ⟨LittleEndian.decode_lt front, by rw [LittleEndian.encode_decode]⟩
  · rintro ⟨hn, rfl⟩
    exact fixed_encode rest hn

/-- A first byte that announces a number of fixed width, and the width. -/
inductive Announces : UInt8 → Nat → Prop
  | two : Announces 0xFC 2
  | three : Announces 0xFD 3
  | eight : Announces 0xFE 8

theorem lenencInt_of_announces {first : UInt8} {width : Nat} (h : Announces first width)
    (input : Bytes) :
    lenencInt (first :: input) =
      (fixed width >>= fun n ↦ pure (UInt64.ofNat n) : Decoder UInt64) input := by
  cases h <;> rfl

theorem lenencInt_marker {first : UInt8} (h : first = 0xFB ∨ first = 0xFF) (input : Bytes) :
    lenencInt (first :: input) = .error .invalidPacket := by
  rcases h with rfl | rfl <;> rfl

theorem first_cases (first : UInt8) :
    first.toNat < 0xFB ∨ (∃ width, Announces first width) ∨ first = 0xFB ∨ first = 0xFF := by
  have hlt : first.toNat < 0x100 := first.toNat_lt
  obtain h | h | h | h | h | h : first.toNat < 0xFB ∨ first.toNat = 0xFB ∨ first.toNat = 0xFC ∨
      first.toNat = 0xFD ∨ first.toNat = 0xFE ∨ first.toNat = 0xFF := by omega
  · exact .inl h
  · exact .inr (.inr (.inl (UInt8.toNat_inj.mp h)))
  · exact .inr (.inl ⟨2, (UInt8.toNat_inj.mp h : first = 0xFC) ▸ .two⟩)
  · exact .inr (.inl ⟨3, (UInt8.toNat_inj.mp h : first = 0xFD) ▸ .three⟩)
  · exact .inr (.inl ⟨8, (UInt8.toNat_inj.mp h : first = 0xFE) ▸ .eight⟩)
  · exact .inr (.inr (.inr (UInt8.toNat_inj.mp h)))

theorem encode_of_lt {first : UInt8} (h : first.toNat < 0xFB) :
    Encoder.lenencInt first.toUInt64 = [first] := by
  rw [Encoder.lenencInt, UInt8.toNat_toUInt64, if_pos h, UInt8.ofNat_toNat]

/-- A number has no form that is shorter than what is written for it, and no other of that length. -/
theorem shorter_or_eq_of_announces {first : UInt8} {width n : Nat} (h : Announces first width)
    (hn : n < Nat.pow 256 width) :
    (Encoder.lenencInt (UInt64.ofNat n)).length < width + 1 ∨
      Encoder.lenencInt (UInt64.ofNat n) = first :: LittleEndian.encode width n := by
  have hnumber : (UInt64.ofNat n).toNat = n := by
    apply UInt64.toNat_ofNat_of_lt'
    cases h <;> exact Nat.lt_of_lt_of_le hn (by decide)
  rw [Encoder.lenencInt, hnumber]
  by_cases hone : n < 251
  · left
    rw [if_pos hone]
    cases h <;> simp
  by_cases htwo : n < 0x10000
  · rw [if_neg hone, if_pos htwo]
    cases h with
    | two => exact .inr rfl
    | three | eight => exact .inl (by simp)
  by_cases hthree : n < 0x1000000
  · rw [if_neg hone, if_neg htwo, if_pos hthree]
    cases h with
    | two => exact absurd hn htwo
    | three => exact .inr rfl
    | eight => exact .inl (by simp)
  · rw [if_neg hone, if_neg htwo, if_neg hthree]
    cases h with
    | two => exact absurd hn htwo
    | three => exact absurd hn hthree
    | eight => exact .inr rfl

theorem shorter_or_eq_of_lenencInt {bytes : Bytes} {value : UInt64}
    (h : lenencInt bytes = .ok (value, [])) :
    (Encoder.lenencInt value).length < bytes.length ∨ Encoder.lenencInt value = bytes := by
  cases bytes with
  | nil => cases h
  | cons first tail =>
    obtain hsmall | ⟨width, hwidth⟩ | hmarker := first_cases first
    · cases (lenencInt_of_lt tail hsmall).symm.trans h
      exact .inr (encode_of_lt hsmall)
    · rw [lenencInt_of_announces hwidth] at h
      obtain ⟨n, tail', hfixed, hvalue⟩ := bind_eq_ok.mp h
      cases hvalue
      obtain ⟨hn, rfl⟩ := fixed_eq_ok.mp hfixed
      rw [List.append_nil, List.length_cons, LittleEndian.length_encode]
      exact shorter_or_eq_of_announces hwidth hn
    · cases (lenencInt_marker hmarker tail).symm.trans h

/-- Input that starts with no number is not mistaken for input that is too short for one. -/
theorem lenencInt_eq_invalidPacket_iff :
    lenencInt input = .error .invalidPacket ↔ input.head? = some 0xFB ∨ input.head? = some 0xFF := by
  cases input with
  | nil => simp [lenencInt, bind_apply, byte]
  | cons first tail =>
    simp only [List.head?_cons, Option.some.injEq]
    constructor
    · intro h
      obtain hsmall | ⟨width, hwidth⟩ | hmarker := first_cases first
      · cases (lenencInt_of_lt tail hsmall).symm.trans h
      · rw [lenencInt_of_announces hwidth, fixed, bind_apply, bind_apply] at h
        cases htake : take width tail with
        | ok taken =>
          rw [htake] at h
          cases h
        | error error =>
          rw [htake, (take_eq_error.mp htake).2] at h
          cases h
      · exact hmarker
    · intro hmarker
      exact lenencInt_marker hmarker tail

theorem lenencString_eq_invalidPacket_iff :
    lenencString input = .error .invalidPacket ↔ lenencInt input = .error .invalidPacket := by
  rw [lenencString, bind_apply]
  cases lenencInt input with
  | error error => simp
  | ok taken => simp [take_eq_error]

theorem head?_lenencInt (value : UInt64) :
    (Encoder.lenencInt value).head? ≠ some 0xFB ∧ (Encoder.lenencInt value).head? ≠ some 0xFF := by
  have hread := (readsExactly_lenencInt value).ok []
  rw [List.append_nil] at hread
  rw [← not_or, ← lenencInt_eq_invalidPacket_iff, hread]
  simp

theorem ReadsExactly.ne_nil {α : Type} {decoder : Decoder α} {bytes : Bytes} {a : α}
    (h : decoder.ReadsExactly bytes a) {error : Error} (hnil : decoder [] = .error error) :
    bytes ≠ [] := by
  rintro rfl
  cases hnil.symm.trans (h.ok [])

/-- A read tells by the bytes it takes where it stops and what it comes to, and the bytes that are
written for a number are the fewest that come to it. -/
theorem lenenc_prefix_exact :
    (∀ ⦃input : Bytes⦄ ⦃value : UInt64⦄ ⦃rest : Bytes⦄, lenencInt input = .ok (value, rest) →
      ∃ bytes, bytes ≠ [] ∧ input = bytes ++ rest ∧ lenencInt.ReadsExactly bytes value ∧
        (Encoder.lenencInt value).length ≤ bytes.length ∧
        ((Encoder.lenencInt value).length = bytes.length ↔ bytes = Encoder.lenencInt value)) ∧
    (∀ ⦃input data rest : Bytes⦄, lenencString input = .ok (data, rest) →
      ∃ bytes, bytes ≠ [] ∧ input = bytes ++ rest ∧ lenencString.ReadsExactly bytes data) ∧
    (∀ input : Bytes, (lenencInt input = .error .invalidPacket ↔
        input.head? = some 0xFB ∨ input.head? = some 0xFF) ∧
      (lenencString input = .error .invalidPacket ↔
        input.head? = some 0xFB ∨ input.head? = some 0xFF)) ∧
    ∀ value : UInt64, (Encoder.lenencInt value).head? ≠ some 0xFB ∧
      (Encoder.lenencInt value).head? ≠ some 0xFF := by
  refine ⟨?_, ?_, ?_, head?_lenencInt⟩
  · intro input value rest h
    obtain ⟨bytes, hinput, hreads⟩ := exact_lenencInt h
    refine ⟨bytes, hreads.ne_nil rfl, hinput, hreads, ?_⟩
    have hbytes : lenencInt bytes = .ok (value, []) := by simpa using hreads.ok []
    obtain hshorter | heq := shorter_or_eq_of_lenencInt hbytes
    · refine ⟨Nat.le_of_lt hshorter, iff_of_false (Nat.ne_of_lt hshorter) ?_⟩
      rintro rfl
      exact Nat.lt_irrefl _ hshorter
    · exact ⟨Nat.le_of_eq (congrArg List.length heq), iff_of_true (congrArg List.length heq) heq.symm⟩
  · intro input data rest h
    obtain ⟨bytes, hinput, hreads⟩ := exact_lenencString h
    exact ⟨bytes, hreads.ne_nil rfl, hinput, hreads⟩
  · intro input
    exact ⟨lenencInt_eq_invalidPacket_iff,
      lenencString_eq_invalidPacket_iff.trans lenencInt_eq_invalidPacket_iff⟩

/-- Five in four bytes, of which one would do. -/
theorem lenenc_prefix_exact_long_form :
    lenencInt [0xFD, 5, 0, 0, 0xAA] = .ok (5, [0xAA]) ∧
      lenencInt [0xFD, 5, 0] = .error .unexpectedEof ∧
      (Encoder.lenencInt 5).length < [0xFD, 5, 0, (0 : UInt8)].length := by
  have hread : lenencInt [0xFD, 5, 0, 0, 0xAA] = .ok (5, [0xAA]) := rfl
  obtain ⟨bytes, -, hinput, hreads, hle, hlength⟩ := lenenc_prefix_exact.1 hread
  have hcut : [0xFD, 5, 0, 0] ++ [0xAA] = bytes ++ [0xAA] := hinput
  obtain rfl := List.append_cancel_right hcut
  have hlong : (Encoder.lenencInt 5).length ≠ [0xFD, 5, 0, (0 : UInt8)].length := by
    rw [ne_eq, hlength]
    decide
  exact ⟨hread, hreads.needs (by decide) (by decide), Nat.lt_of_le_of_ne hle hlong⟩

end Decoder

end SqlClient
