import Mathlib.Tactic.IntervalCases
import SqlClient.Text.Utf8

namespace SqlClient.Utf8

theorem ofByte?_one {n : Nat} (h : n < 0x80) :
    Lead.ofByte? (UInt8.ofNat n) = some ⟨0, 0x80, 0xBF, n⟩ := by
  interval_cases n <;> rfl

theorem ofByte?_two {k : Nat} (hlow : 2 ≤ k) (hhigh : k < 0x20) :
    Lead.ofByte? (UInt8.ofNat (0xC0 + k)) = some ⟨1, 0x80, 0xBF, k⟩ := by
  interval_cases k <;> rfl

theorem ofByte?_three {k : Nat} (h : k < 0x10) :
    Lead.ofByte? (UInt8.ofNat (0xE0 + k)) =
      some ⟨2, if k = 0 then 0xA0 else 0x80, if k = 0xD then 0x9F else 0xBF, k⟩ := by
  interval_cases k <;> rfl

theorem ofByte?_four {k : Nat} (h : k < 5) :
    Lead.ofByte? (UInt8.ofNat (0xF0 + k)) =
      some ⟨3, if k = 0 then 0x90 else 0x80, if k = 4 then 0x8F else 0xBF, k⟩ := by
  interval_cases k <;> rfl

theorem readTail_cons {count k value : Nat} {low high : UInt8} (hk : k < 0x40)
    (hlow : low.toNat ≤ 0x80 + k) (hhigh : 0x80 + k ≤ high.toNat) (rest : Bytes) :
    readTail (count + 1) low high value (UInt8.ofNat (0x80 + k) :: rest) =
      readTail count 0x80 0xBF (value * 64 + k) rest := by
  have hbyte : (UInt8.ofNat (0x80 + k)).toNat = 0x80 + k := by
    rw [UInt8.toNat_ofNat']
    omega
  rw [readTail, if_pos, hbyte, Nat.add_sub_cancel_left]
  rw [UInt8.le_iff_toNat_le, UInt8.le_iff_toNat_le, hbyte]
  exact ⟨hlow, hhigh⟩

theorem readChar_of_lead {b : UInt8} {lead : Lead} {bytes rest : Bytes} {c : Char}
    (hlead : Lead.ofByte? b = some lead)
    (htail : readTail lead.count lead.low lead.high lead.bits bytes = (some c.toNat, rest)) :
    readChar b bytes = (some c, rest) := by
  rw [readChar, hlead]
  simp only [htail, Option.map_some, Char.ofNat_toNat]

theorem readChar_encodeChar (c : Char) (rest : Bytes) :
    ∃ b bytes, encodeChar c = b :: bytes ∧ readChar b (bytes ++ rest) = (some c, rest) := by
  have hvalid : c.toNat < 0xD800 ∨ 0xDFFF < c.toNat ∧ c.toNat < 0x110000 := c.valid
  generalize hn : c.toNat = n at hvalid
  by_cases h₁ : n < 0x80
  · refine ⟨_, [], by rw [encodeChar, hn, if_pos h₁], readChar_of_lead (ofByte?_one h₁) ?_⟩
    rw [hn]
    rfl
  by_cases h₂ : n < 0x800
  · refine ⟨_, [_], by rw [encodeChar, hn, if_neg h₁, if_pos h₂],
      readChar_of_lead (ofByte?_two (by omega) (by omega)) ?_⟩
    rw [hn, List.cons_append, readTail_cons (by omega) (by simp) (by simp; omega), readTail]
    simp only [List.nil_append, Prod.mk.injEq, Option.some.injEq, and_true]
    omega
  by_cases h₃ : n < 0x10000
  · refine ⟨_, [_, _], by rw [encodeChar, hn, if_neg h₁, if_neg h₂, if_pos h₃],
      readChar_of_lead (ofByte?_three (by omega)) ?_⟩
    have hlow : (if n / 4096 = 0 then (0xA0 : UInt8) else 0x80).toNat ≤ 0x80 + n / 64 % 64 := by
      split
      · simp
        omega
      · simp
    have hhigh : 0x80 + n / 64 % 64 ≤ (if n / 4096 = 0xD then (0x9F : UInt8) else 0xBF).toNat := by
      split <;> simp <;> omega
    rw [hn, List.cons_append, readTail_cons (by omega) hlow hhigh, List.cons_append,
      readTail_cons (by omega) (by simp) (by simp; omega), readTail]
    simp only [List.nil_append, Prod.mk.injEq, Option.some.injEq, and_true]
    omega
  · refine ⟨_, [_, _, _], by rw [encodeChar, hn, if_neg h₁, if_neg h₂, if_neg h₃],
      readChar_of_lead (ofByte?_four (by omega)) ?_⟩
    have hlow : (if n / 262144 = 0 then (0x90 : UInt8) else 0x80).toNat ≤ 0x80 + n / 4096 % 64 := by
      split
      · simp
        omega
      · simp
    have hhigh : 0x80 + n / 4096 % 64 ≤ (if n / 262144 = 4 then (0x8F : UInt8) else 0xBF).toNat := by
      split <;> simp <;> omega
    rw [hn, List.cons_append, readTail_cons (by omega) hlow hhigh, List.cons_append,
      readTail_cons (by omega) (by simp) (by simp; omega), List.cons_append,
      readTail_cons (by omega) (by simp) (by simp; omega), readTail]
    simp only [List.nil_append, Prod.mk.injEq, Option.some.injEq, and_true]
    omega

theorem ofByte?_eq_none {n : Nat} (h : 0x80 ≤ n ∧ n < 0xC2 ∨ 0xF5 ≤ n ∧ n < 0x100) :
    Lead.ofByte? (UInt8.ofNat n) = none := by
  obtain ⟨hlow, hhigh⟩ | ⟨hlow, hhigh⟩ := h <;> interval_cases n <;> rfl

/-- There are no other lead bytes. -/
theorem ofByte?_cases {b : UInt8} {lead : Lead} (h : Lead.ofByte? b = some lead) :
    (∃ n < 0x80, b = UInt8.ofNat n ∧ lead = ⟨0, 0x80, 0xBF, n⟩) ∨
    (∃ k, 2 ≤ k ∧ k < 0x20 ∧ b = UInt8.ofNat (0xC0 + k) ∧ lead = ⟨1, 0x80, 0xBF, k⟩) ∨
    (∃ k < 0x10, b = UInt8.ofNat (0xE0 + k) ∧
      lead = ⟨2, if k = 0 then 0xA0 else 0x80, if k = 0xD then 0x9F else 0xBF, k⟩) ∨
    (∃ k < 5, b = UInt8.ofNat (0xF0 + k) ∧
      lead = ⟨3, if k = 0 then 0x90 else 0x80, if k = 4 then 0x8F else 0xBF, k⟩) := by
  have hlt : b.toNat < 0x100 := b.toNat_lt
  have hb : b = UInt8.ofNat b.toNat := UInt8.ofNat_toNat.symm
  generalize b.toNat = n at hlt hb
  subst hb
  by_cases hnone : 0x80 ≤ n ∧ n < 0xC2 ∨ 0xF5 ≤ n ∧ n < 0x100
  · rw [ofByte?_eq_none hnone] at h
    cases h
  obtain hone | ⟨k, rfl, hlow, hhigh⟩ | ⟨k, rfl, hk⟩ | ⟨k, rfl, hk⟩ :
      n < 0x80 ∨ (∃ k, n = 0xC0 + k ∧ 2 ≤ k ∧ k < 0x20) ∨ (∃ k, n = 0xE0 + k ∧ k < 0x10) ∨
        ∃ k, n = 0xF0 + k ∧ k < 5 := by
    by_cases hone : n < 0x80
    · exact .inl hone
    by_cases htwo : n < 0xE0
    · exact .inr (.inl ⟨n - 0xC0, by omega⟩)
    by_cases hthree : n < 0xF0
    · exact .inr (.inr (.inl ⟨n - 0xE0, by omega⟩))
    · exact .inr (.inr (.inr ⟨n - 0xF0, by omega⟩))
  · rw [ofByte?_one hone] at h
    exact .inl ⟨n, hone, rfl, (Option.some.inj h).symm⟩
  · rw [ofByte?_two hlow hhigh] at h
    exact .inr (.inl ⟨k, hlow, hhigh, rfl, (Option.some.inj h).symm⟩)
  · rw [ofByte?_three hk] at h
    exact .inr (.inr (.inl ⟨k, hk, rfl, (Option.some.inj h).symm⟩))
  · rw [ofByte?_four hk] at h
    exact .inr (.inr (.inr ⟨k, hk, rfl, (Option.some.inj h).symm⟩))

theorem readTail_eq_some {count value n : Nat} {low high : UInt8} {bytes rest : Bytes}
    (hlow : 0x80 ≤ low.toNat) (hhigh : high.toNat ≤ 0xBF)
    (h : readTail (count + 1) low high value bytes = (some n, rest)) :
    ∃ k bytes', bytes = UInt8.ofNat (0x80 + k) :: bytes' ∧ k < 0x40 ∧ low.toNat ≤ 0x80 + k ∧
      0x80 + k ≤ high.toNat ∧ readTail count 0x80 0xBF (value * 64 + k) bytes' = (some n, rest) := by
  cases bytes with
  | nil => cases h
  | cons b bytes =>
    rw [readTail] at h
    split at h
    · next hrange =>
      rw [UInt8.le_iff_toNat_le, UInt8.le_iff_toNat_le] at hrange
      refine ⟨b.toNat - 0x80, bytes, ?_, by omega, by omega, by omega, h⟩
      rw [Nat.add_sub_cancel' (by omega), UInt8.ofNat_toNat]
    · cases h

theorem toNat_ofNat {n : Nat} (h : n.isValidChar) : (Char.ofNat n).toNat = n := by
  rw [Char.ofNat, dif_pos h]
  rfl

theorem encodeChar_one {n : Nat} (h : n < 0x80) :
    encodeChar (Char.ofNat n) = [UInt8.ofNat n] := by
  rw [encodeChar, toNat_ofNat (.inl (by omega)), if_pos h]

theorem encodeChar_two {k k₁ : Nat} (hlow : 2 ≤ k) (hhigh : k < 0x20) (h₁ : k₁ < 0x40) :
    encodeChar (Char.ofNat (k * 64 + k₁)) = [UInt8.ofNat (0xC0 + k), UInt8.ofNat (0x80 + k₁)] := by
  rw [encodeChar, toNat_ofNat (.inl (by omega)), if_neg (by omega), if_pos (by omega)]
  simp only [List.cons.injEq, and_true]
  constructor <;> congr 1 <;> omega

theorem encodeChar_three {k k₁ k₂ : Nat} (h : k < 0x10) (hlow : k = 0 → 0x20 ≤ k₁)
    (hhigh : k = 0xD → k₁ < 0x20) (h₁ : k₁ < 0x40) (h₂ : k₂ < 0x40) :
    encodeChar (Char.ofNat ((k * 64 + k₁) * 64 + k₂)) =
      [UInt8.ofNat (0xE0 + k), UInt8.ofNat (0x80 + k₁), UInt8.ofNat (0x80 + k₂)] := by
  have hvalid : ((k * 64 + k₁) * 64 + k₂).isValidChar := by
    unfold Nat.isValidChar
    omega
  rw [encodeChar, toNat_ofNat hvalid, if_neg (by omega), if_neg (by omega), if_pos (by omega)]
  simp only [List.cons.injEq, and_true]
  refine ⟨?_, ?_, ?_⟩ <;> congr 1 <;> omega

theorem encodeChar_four {k k₁ k₂ k₃ : Nat} (h : k < 5) (hlow : k = 0 → 0x10 ≤ k₁)
    (hhigh : k = 4 → k₁ < 0x10) (h₁ : k₁ < 0x40) (h₂ : k₂ < 0x40) (h₃ : k₃ < 0x40) :
    encodeChar (Char.ofNat (((k * 64 + k₁) * 64 + k₂) * 64 + k₃)) =
      [UInt8.ofNat (0xF0 + k), UInt8.ofNat (0x80 + k₁), UInt8.ofNat (0x80 + k₂),
        UInt8.ofNat (0x80 + k₃)] := by
  have hvalid : (((k * 64 + k₁) * 64 + k₂) * 64 + k₃).isValidChar := by
    unfold Nat.isValidChar
    omega
  rw [encodeChar, toNat_ofNat hvalid, if_neg (by omega), if_neg (by omega), if_neg (by omega)]
  simp only [List.cons.injEq, and_true]
  refine ⟨?_, ?_, ?_, ?_⟩ <;> congr 1 <;> omega

/-- The bytes that are read as a character are the bytes of the character. -/
theorem eq_encodeChar_of_readChar {b : UInt8} {bytes rest : Bytes} {c : Char}
    (h : readChar b bytes = (some c, rest)) : b :: bytes = encodeChar c ++ rest := by
  rw [readChar] at h
  split at h
  · cases h
  next lead hlead =>
  obtain ⟨hvalue, hrest⟩ := Prod.mk.inj h
  obtain ⟨n, hn, rfl⟩ := Option.map_eq_some_iff.mp hvalue
  have htail : readTail lead.count lead.low lead.high lead.bits bytes = (some n, rest) :=
    Prod.ext hn hrest
  obtain ⟨k, hk, rfl, rfl⟩ | ⟨k, hlow, hhigh, rfl, rfl⟩ | ⟨k, hk, rfl, rfl⟩ | ⟨k, hk, rfl, rfl⟩ :=
    ofByte?_cases hlead
  · cases htail
    rw [encodeChar_one hk]
    rfl
  · obtain ⟨k₁, bytes, rfl, h₁, -, -, htail⟩ := readTail_eq_some (by simp) (by simp) htail
    cases htail
    rw [encodeChar_two hlow hhigh h₁]
    rfl
  · have hlow : 0x80 ≤ (if k = 0 then (0xA0 : UInt8) else 0x80).toNat ∧
        (k = 0 → 0xA0 ≤ (if k = 0 then (0xA0 : UInt8) else 0x80).toNat) := by
      split <;> simp [*]
    have hhigh : (if k = 0xD then (0x9F : UInt8) else 0xBF).toNat ≤ 0xBF ∧
        (k = 0xD → (if k = 0xD then (0x9F : UInt8) else 0xBF).toNat ≤ 0x9F) := by
      split <;> simp [*]
    obtain ⟨k₁, bytes, rfl, h₁, hlow₁, hhigh₁, htail⟩ := readTail_eq_some hlow.1 hhigh.1 htail
    obtain ⟨k₂, bytes, rfl, h₂, -, -, htail⟩ := readTail_eq_some (by simp) (by simp) htail
    cases htail
    rw [encodeChar_three hk (by omega) (by omega) h₁ h₂]
    rfl
  · have hlow : 0x80 ≤ (if k = 0 then (0x90 : UInt8) else 0x80).toNat ∧
        (k = 0 → 0x90 ≤ (if k = 0 then (0x90 : UInt8) else 0x80).toNat) := by
      split <;> simp [*]
    have hhigh : (if k = 4 then (0x8F : UInt8) else 0xBF).toNat ≤ 0xBF ∧
        (k = 4 → (if k = 4 then (0x8F : UInt8) else 0xBF).toNat ≤ 0x8F) := by
      split <;> simp [*]
    obtain ⟨k₁, bytes, rfl, h₁, hlow₁, hhigh₁, htail⟩ := readTail_eq_some hlow.1 hhigh.1 htail
    obtain ⟨k₂, bytes, rfl, h₂, -, -, htail⟩ := readTail_eq_some (by simp) (by simp) htail
    obtain ⟨k₃, bytes, rfl, h₃, -, -, htail⟩ := readTail_eq_some (by simp) (by simp) htail
    cases htail
    rw [encodeChar_four hk (by omega) (by omega) h₁ h₂ h₃]
    rfl

theorem encodeChar_of_lt {c : Char} (h : c.toNat < 0x80) : encodeChar c = [UInt8.ofNat c.toNat] := by
  rw [encodeChar, if_pos h]

/-- All bytes of a longer character are above those of ASCII. -/
theorem le_of_mem_encodeChar {c : Char} (h : 0x80 ≤ c.toNat) {b : UInt8} (hb : b ∈ encodeChar c) :
    0x80 ≤ b.toNat := by
  have hvalid : c.toNat < 0x110000 := by
    rcases c.valid with hlt | hlt
    · exact Nat.lt_trans hlt (by decide)
    · exact hlt.2
  have hbyte {low k : Nat} (hlow : 0x80 ≤ low) (hk : low + k < 0x100) :
      0x80 ≤ (UInt8.ofNat (low + k)).toNat := by
    rw [UInt8.toNat_ofNat']
    omega
  rw [encodeChar, if_neg (Nat.not_lt_of_le h)] at hb
  split at hb
  · simp only [List.mem_cons, List.not_mem_nil, or_false] at hb
    rcases hb with rfl | rfl
    all_goals exact hbyte (by decide) (by omega)
  split at hb
  · simp only [List.mem_cons, List.not_mem_nil, or_false] at hb
    rcases hb with rfl | rfl | rfl
    all_goals exact hbyte (by decide) (by omega)
  · simp only [List.mem_cons, List.not_mem_nil, or_false] at hb
    rcases hb with rfl | rfl | rfl | rfl
    all_goals exact hbyte (by decide) (by omega)

theorem mem_encodeChar_iff {c d : Char} (hd : d.toNat < 0x80) :
    UInt8.ofNat d.toNat ∈ encodeChar c ↔ c = d := by
  have hbyte : (UInt8.ofNat d.toNat).toNat = d.toNat := by
    rw [UInt8.toNat_ofNat']
    omega
  by_cases hc : c.toNat < 0x80
  · rw [encodeChar_of_lt hc, List.mem_singleton, ← UInt8.toNat_inj, hbyte, UInt8.toNat_ofNat', eq_comm,
      Nat.mod_eq_of_lt (by omega), Char.toNat_inj]
  · constructor
    · intro hmem
      have hle := le_of_mem_encodeChar (Nat.le_of_not_lt hc) hmem
      omega
    · rintro rfl
      exact absurd hd hc

theorem mem_flatMap_encodeChar_iff {chars : List Char} {d : Char} (hd : d.toNat < 0x80) :
    UInt8.ofNat d.toNat ∈ chars.flatMap encodeChar ↔ d ∈ chars := by
  simp only [List.mem_flatMap, mem_encodeChar_iff hd, exists_eq_right]

theorem scanOnto_encode (seen : List (Option Char)) (chars : List Char) :
    scanOnto seen (chars.flatMap encodeChar) = seen.reverse ++ chars.map some := by
  induction chars generalizing seen with
  | nil => simp [scanOnto]
  | cons c chars ih =>
    obtain ⟨b, bytes, hencode, hread⟩ := readChar_encodeChar c (chars.flatMap encodeChar)
    rw [List.flatMap_cons, hencode, List.cons_append, scanOnto, hread, ih]
    simp

theorem scan_encode (text : String) : scan (encode text) = text.toList.map some :=
  scanOnto_encode [] text.toList

theorem decodeLossy_encode (text : String) : decodeLossy (encode text) = text := by
  rw [decodeLossy, scan_encode, List.map_map]
  simp

/-- No byte of a longer character is the byte of a shorter one, so a text starts with the byte of an
ASCII character only if it starts with the character. -/
theorem head?_encode (text : String) {c : Char} (hc : c.toNat < 0x80) :
    (encode text).head? = some (UInt8.ofNat c.toNat) ↔ text.toList.head? = some c := by
  unfold encode
  cases text.toList with
  | nil => simp
  | cons first chars =>
    obtain ⟨b, bytes, hencode, hread⟩ := readChar_encodeChar first (chars.flatMap encodeChar)
    rw [List.flatMap_cons, List.head?_cons]
    constructor
    · intro h
      rw [hencode] at h
      cases h
      have hascii : readChar (UInt8.ofNat c.toNat) (bytes ++ chars.flatMap encodeChar) =
          (some c, bytes ++ chars.flatMap encodeChar) := readChar_of_lead (ofByte?_one hc) rfl
      exact congrArg Prod.fst (hread.symm.trans hascii)
    · rintro ⟨⟩
      rw [encodeChar, if_pos hc]
      rfl

theorem reverse_prefix_scanOnto (seen : List (Option Char)) (bytes : Bytes) :
    seen.reverse <+: scanOnto seen bytes := by
  fun_induction scanOnto seen bytes with
  | case1 seen => exact List.prefix_rfl
  | case2 seen b bytes ih =>
    rw [List.reverse_cons] at ih
    exact (List.prefix_append ..).trans ih

theorem length_le_scanOnto (seen : List (Option Char)) (bytes : Bytes) :
    seen.length ≤ (scanOnto seen bytes).length := by
  simpa using (reverse_prefix_scanOnto seen bytes).length_le

theorem eq_encode_of_scanOnto {seen : List (Option Char)} {bytes : Bytes} {chars : List Char}
    (h : scanOnto seen bytes = seen.reverse ++ chars.map some) :
    bytes = chars.flatMap encodeChar := by
  fun_induction scanOnto seen bytes generalizing chars with
  | case1 seen =>
    have hchars : chars = [] := by simpa using h
    rw [hchars]
    rfl
  | case2 seen b bytes ih =>
    obtain ⟨behind, hbehind⟩ :=
      reverse_prefix_scanOnto ((readChar b bytes).1 :: seen) (readChar b bytes).2
    rw [← hbehind, List.reverse_cons, List.append_assoc] at h
    have hchars := List.append_cancel_left h
    cases chars with
    | nil => cases hchars
    | cons c chars =>
      obtain ⟨hc, rfl⟩ := List.cons.inj hchars
      have hrest : (readChar b bytes).2 = chars.flatMap encodeChar := ih (by rw [← hbehind, hc])
      rw [List.flatMap_cons, ← hrest]
      exact eq_encodeChar_of_readChar (Prod.ext hc rfl)

/-- The byte strings that are texts are those that a text is encoded as. -/
theorem decode?_eq_some_iff {bytes : Bytes} {text : String} :
    decode? bytes = some text ↔ bytes = encode text := by
  constructor
  · intro h
    unfold decode? at h
    dsimp only at h
    split at h
    · next hall =>
      have hscan : scan bytes = ((scan bytes).filterMap id).map some := by
        rw [List.map_filterMap_some_eq_filter_map_isSome, List.map_id, eq_comm]
        simpa using hall
      cases h
      rw [encode, String.toList_ofList]
      exact eq_encode_of_scanOnto hscan
    · cases h
  · rintro rfl
    have hchars : (text.toList.map some).filterMap id = text.toList := by
      rw [List.filterMap_map]
      simp
    rw [decode?, scan_encode, hchars, String.ofList_toList]
    simp

theorem encode_injective : Function.Injective encode := by
  intro text text' h
  rw [← decodeLossy_encode text, h, decodeLossy_encode]

/-- What cannot be decoded leaves a trace. -/
theorem decodeLossy_ne_empty {bytes : Bytes} (h : bytes ≠ []) : decodeLossy bytes ≠ "" := by
  obtain ⟨b, bytes, rfl⟩ := List.exists_cons_of_ne_nil h
  intro hempty
  have hscan : scan (b :: bytes) = [] := by
    have hchars := congrArg String.toList hempty
    simpa [decodeLossy] using hchars
  have hlength := length_le_scanOnto [(readChar b bytes).1] (readChar b bytes).2
  rw [scan, scanOnto] at hscan
  rw [hscan] at hlength
  cases hlength

end SqlClient.Utf8
