import SqlClient.Proofs.Text.Utf8
import SqlClient.Url.Percent

namespace SqlClient.Percent

variable {set : EncodeSet} {text : List Char} {c : Char}

/-- What holds of the first 128 characters holds of all of ASCII. -/
theorem forall_ascii {P : Char → Prop} (h : ∀ n < 0x80, P (Char.ofNat n)) (hc : c.toNat < 0x80) :
    P c :=
  Char.ofNat_toNat c ▸ h c.toNat hc

theorem forall_mem_of_all {P : Char → Prop} [DecidablePred P]
    (h : text.all (fun c ↦ decide (P c)) = true) : ∀ c ∈ text, P c := by
  intro c hc
  exact of_decide_eq_true (List.all_eq_true.mp h c hc)

/-- Letters and digits stand behind the controls, and in front of the braces. -/
theorem toNat_of_isAlphanum (h : c.isAlphanum = true) : 0x30 ≤ c.toNat ∧ c.toNat ≤ 0x7A := by
  unfold Char.isAlphanum Char.isAlpha Char.isUpper Char.isLower Char.isDigit at h
  simp only [Bool.or_eq_true, Bool.and_eq_true, decide_eq_true_eq, ge_iff_le,
    UInt32.le_iff_toNat_le] at h
  change ((0x41 ≤ c.toNat ∧ c.toNat ≤ 0x5A) ∨ (0x61 ≤ c.toNat ∧ c.toNat ≤ 0x7A)) ∨
    (0x30 ≤ c.toNat ∧ c.toNat ≤ 0x39) at h
  omega

def Passes (set : EncodeSet) (c : Char) : Prop :=
  c.toNat < 0x80 ∧ set c = false

instance (set : EncodeSet) (c : Char) : Decidable (Passes set c) :=
  inferInstanceAs (Decidable (_ ∧ _))

theorem encodeChar_of_passes (h : Passes set c) : encodeChar set c = [c] := by
  rw [encodeChar, h.2, decide_eq_true h.1]
  rfl

theorem encodeChar_of_not_passes (h : ¬ Passes set c) :
    encodeChar set c = (Utf8.encodeChar c).flatMap encodeByte := by
  rw [encodeChar, if_neg]
  simpa [Passes] using h

theorem encode_eq_self (h : ∀ c ∈ text, Passes set c) : encode set text = text := by
  induction text with
  | nil => rfl
  | cons c text ih =>
    rw [List.forall_mem_cons] at h
    rw [encode, List.flatMap_cons, encodeChar_of_passes h.1]
    exact congrArg (c :: ·) (ih h.2)

/-- An escape takes the place of a character, and is longer. -/
theorem length_encodeChar (set : EncodeSet) (c : Char) :
    1 ≤ (encodeChar set c).length ∧ ((encodeChar set c).length = 1 ↔ Passes set c) := by
  by_cases h : Passes set c
  · simp [encodeChar_of_passes h, h]
  · obtain ⟨b, bytes, hbytes, -⟩ := Utf8.readChar_encodeChar c []
    rw [encodeChar_of_not_passes h, hbytes, List.flatMap_cons, List.length_append]
    simp only [encodeByte, List.length_cons, List.length_nil, h, iff_false]
    omega

theorem length_le_encode (set : EncodeSet) (text : List Char) :
    text.length ≤ (encode set text).length ∧
      ((encode set text).length = text.length ↔ ∀ c ∈ text, Passes set c) := by
  induction text with
  | nil => simp [encode]
  | cons c text ih =>
    obtain ⟨hone, hchar⟩ := length_encodeChar set c
    obtain ⟨hle, htext⟩ := ih
    rw [List.forall_mem_cons, ← hchar, ← htext, encode, List.flatMap_cons, List.length_append,
      List.length_cons]
    change text.length + 1 ≤ _ + (encode set text).length ∧ (_ + (encode set text).length = _ ↔ _)
    omega

theorem encode_ne_nil (h : text ≠ []) : encode set text ≠ [] := by
  have hle := (length_le_encode set text).1
  rw [← List.length_pos_iff] at h ⊢
  exact Nat.lt_of_lt_of_le h hle

theorem encode_eq_self_iff : encode set text = text ↔ ∀ c ∈ text, Passes set c := by
  refine ⟨fun h ↦ ?_, encode_eq_self⟩
  rw [← (length_le_encode set text).2, h]

def IsEscape (c : Char) : Prop :=
  c = '%' ∨ ∃ n < 16, c = hexDigit n

instance (c : Char) : Decidable (IsEscape c) :=
  inferInstanceAs (Decidable (_ ∨ ∃ n < 16, _))

theorem isEscape_of_mem_encodeByte {b : UInt8} (h : c ∈ encodeByte b) : IsEscape c := by
  have hb : b.toNat < 256 := b.toNat_lt
  simp only [encodeByte, List.mem_cons, List.not_mem_nil, or_false] at h
  rcases h with rfl | rfl | rfl
  · exact .inl rfl
  · exact .inr ⟨b.toNat / 16, by omega, rfl⟩
  · exact .inr ⟨b.toNat % 16, by omega, rfl⟩

theorem mem_encodeChar {c' : Char} (h : c ∈ encodeChar set c') : Passes set c ∨ IsEscape c := by
  by_cases hpasses : Passes set c'
  · rw [encodeChar_of_passes hpasses, List.mem_singleton] at h
    exact .inl (h ▸ hpasses)
  · rw [encodeChar_of_not_passes hpasses] at h
    obtain ⟨b, -, hb⟩ := List.mem_flatMap.mp h
    exact .inr (isEscape_of_mem_encodeByte hb)

theorem mem_encode (h : c ∈ encode set text) : Passes set c ∨ IsEscape c := by
  obtain ⟨c', -, hc⟩ := List.mem_flatMap.mp h
  exact mem_encodeChar hc

theorem decode_cons_of_ne {b : UInt8} (h : b ≠ 0x25) (bytes : Bytes) :
    decode (b :: bytes) = b :: decode bytes := by
  rw [decode]
  intro a a' bytes' hb
  exact absurd hb h

theorem hexValue?_hexDigit : ∀ n < 16,
    (hexDigit n).toNat < 0x80 ∧ hexValue? (UInt8.ofNat (hexDigit n).toNat) = some (UInt8.ofNat n) := by
  decide

theorem decode_encodeByte (b : UInt8) (bytes : Bytes) :
    decode ((encodeByte b).flatMap Utf8.encodeChar ++ bytes) = b :: decode bytes := by
  have hb : b.toNat < 256 := b.toNat_lt
  obtain ⟨hhigh, hhigh'⟩ := hexValue?_hexDigit (b.toNat / 16) (by omega)
  obtain ⟨hlow, hlow'⟩ := hexValue?_hexDigit (b.toNat % 16) (by omega)
  have hvalue : UInt8.ofNat (b.toNat / 16) * 16 + UInt8.ofNat (b.toNat % 16) = b := by
    rw [← UInt8.toNat_inj, UInt8.toNat_add, UInt8.toNat_mul, UInt8.toNat_ofNat', UInt8.toNat_ofNat']
    change (b.toNat / 16 % 256 * 16 % 256 + b.toNat % 16 % 256) % 256 = b.toNat
    omega
  rw [encodeByte, List.flatMap_cons, List.flatMap_cons, List.flatMap_singleton,
    Utf8.encodeChar_of_lt hhigh, Utf8.encodeChar_of_lt hlow]
  change decode (0x25 :: UInt8.ofNat (hexDigit (b.toNat / 16)).toNat ::
    UInt8.ofNat (hexDigit (b.toNat % 16)).toNat :: bytes) = _
  rw [decode, hhigh', hlow']
  dsimp only
  rw [hvalue]

theorem decode_encodeBytes (escaped bytes : Bytes) :
    decode ((escaped.flatMap encodeByte).flatMap Utf8.encodeChar ++ bytes) =
      escaped ++ decode bytes := by
  induction escaped with
  | nil => rfl
  | cons b escaped ih =>
    rw [List.flatMap_cons, List.flatMap_append, List.append_assoc, decode_encodeByte, ih]
    rfl

/-- A percent sign is never left as it is, so it is the mark of an escape. -/
theorem decode_encodeChar (hset : set '%' = true) (c : Char) (bytes : Bytes) :
    decode ((encodeChar set c).flatMap Utf8.encodeChar ++ bytes) =
      Utf8.encodeChar c ++ decode bytes := by
  by_cases h : Passes set c
  · have hne : c ≠ '%' := by
      rintro rfl
      cases hset.symm.trans h.2
    have hbyte : UInt8.ofNat c.toNat ≠ 0x25 := by
      intro hbyte
      apply hne
      rw [← Utf8.mem_encodeChar_iff (by decide), Utf8.encodeChar_of_lt h.1, hbyte]
      exact List.mem_singleton_self _
    rw [encodeChar_of_passes h, List.flatMap_singleton, Utf8.encodeChar_of_lt h.1]
    exact decode_cons_of_ne hbyte bytes
  · rw [encodeChar_of_not_passes h, decode_encodeBytes]

end SqlClient.Percent
