import SqlClient.Proofs.Codec.Coercion
import SqlClient.Proofs.Value.Numeral

namespace SqlClient

namespace Integer

def InRange (bits : Nat) (n : Int) : Prop :=
  -2 ^ (bits - 1) ≤ n ∧ n < 2 ^ (bits - 1)

theorem inRange_mono {narrow wide : Nat} (hbits : narrow ≤ wide) {n : Int}
    (h : InRange narrow n) : InRange wide n := by
  have hpow : (2 : Int) ^ (narrow - 1) ≤ 2 ^ (wide - 1) :=
    pow_le_pow_right₀ (by decide) (by omega)
  unfold InRange at *
  omega

/-- The limit is tested digit by digit, and a number never shrinks as digits are added to it. -/
theorem readDigits_eq_ok_iff {limit : Nat} {overflow : IntegerError} {value n : Nat}
    {text : List Char} (hvalue : value ≤ limit) :
    readDigits limit overflow value text = .ok n ↔
      (∀ c ∈ text, c.isDigit = true) ∧ Nat.ofDigitChars 10 text value = n ∧ n ≤ limit := by
  induction text generalizing value with
  | nil =>
    simp only [readDigits, Nat.ofDigitChars_nil, Except.ok.injEq]
    grind
  | cons c text ih =>
    have hstep : 10 * value + (c.toNat - '0'.toNat) = value * 10 + (c.toNat - 48) := by
      rw [Nat.mul_comm]
      rfl
    rw [readDigits, digit?, Nat.ofDigitChars_cons, hstep, List.forall_mem_cons]
    by_cases hdigit : c.isDigit = true
    · rw [if_pos hdigit]
      dsimp only
      by_cases hlimit : limit < value * 10 + (c.toNat - 48)
      · have hle := Numeral.le_ofDigitChars text (value * 10 + (c.toNat - 48))
        rw [if_pos hlimit]
        simp only [reduceCtorEq, false_iff]
        omega
      · rw [if_neg hlimit, ih (Nat.le_of_not_lt hlimit)]
        simp only [hdigit, true_and]
    · rw [if_neg hdigit]
      simp [hdigit]

theorem map_eq_ok_iff {α β ε : Type} {f : α → β} {x : Except ε α} {b : β} :
    x.map f = .ok b ↔ ∃ a, x = .ok a ∧ f a = b := by
  cases x <;> simp [Except.map]

theorem le_limit_iff (bits n : Nat) : n ≤ 1 <<< (bits - 1) - 1 ↔ InRange bits n := by
  have hpos : 0 < 2 ^ (bits - 1) := Nat.pow_pos (by decide)
  have hcast : (2 : Int) ^ (bits - 1) = (2 ^ (bits - 1) : Nat) := by push_cast; rfl
  rw [InRange, Nat.one_shiftLeft, hcast]
  omega

/-- There is one more number below zero than above it. -/
theorem le_limit_iff_neg (bits n : Nat) : n ≤ 1 <<< (bits - 1) ↔ InRange bits (-n) := by
  have hpos : 0 < 2 ^ (bits - 1) := Nat.pow_pos (by decide)
  have hcast : (2 : Int) ^ (bits - 1) = (2 ^ (bits - 1) : Nat) := by push_cast; rfl
  rw [InRange, Nat.one_shiftLeft, hcast]
  omega

theorem readUnsigned_plus {limit : Nat} {text : List Char} (h : text ≠ []) :
    readUnsigned limit ('+' :: text) = readDigits limit .tooLarge 0 text := by
  cases text with
  | nil => exact absurd rfl h
  | cons c text => rfl

theorem readUnsigned_of_ne {limit : Nat} {c : Char} (text : List Char) (h : c ≠ '+') :
    readUnsigned limit (c :: text) = readDigits limit .tooLarge 0 (c :: text) := by
  unfold readUnsigned
  split
  · next heq => cases heq
  · next heq => exact absurd (List.cons.inj heq).1 h
  · next heq => exact absurd (List.cons.inj heq).1 h
  · rfl

theorem readSigned_minus {bits : Nat} {text : List Char} (h : text ≠ []) :
    readSigned bits ('-' :: text) =
      (readDigits (1 <<< (bits - 1)) .tooSmall 0 text).map (-Int.ofNat ·) := by
  cases text with
  | nil => exact absurd rfl h
  | cons c text =>
    rw [readSigned.eq_3 bits (c :: text) h]
    cases readDigits (1 <<< (bits - 1)) .tooSmall 0 (c :: text) <;> rfl

theorem readSigned_of_ne {bits : Nat} {c : Char} (text : List Char) (h : c ≠ '-') :
    readSigned bits (c :: text) =
      (readUnsigned (1 <<< (bits - 1) - 1) (c :: text)).map Int.ofNat := by
  unfold readSigned
  split
  · next heq => cases heq
  · next heq => exact absurd (List.cons.inj heq).1 h
  · next heq => exact absurd (List.cons.inj heq).1 h
  · cases readUnsigned (1 <<< (bits - 1) - 1) (c :: text) <;> rfl

theorem readSigned_negative {bits : Nat} {numeral : Numeral} (h : numeral.sign = .minus) :
    readSigned bits numeral.chars =
      (readDigits (1 <<< (bits - 1)) .tooSmall 0 numeral.digits).map (-Int.ofNat ·) := by
  rw [Numeral.chars, h]
  exact readSigned_minus numeral.digits_ne_nil

theorem readUnsigned_numeral {limit : Nat} {numeral : Numeral} (h : numeral.sign ≠ .minus) :
    readUnsigned limit numeral.chars = readDigits limit .tooLarge 0 numeral.digits := by
  obtain ⟨sign, digits, hne, hdigits⟩ := numeral
  cases sign with
  | none =>
    obtain ⟨d, digits, rfl⟩ := List.exists_cons_of_ne_nil hne
    have hplus : d ≠ '+' := Numeral.ne_of_isDigit (hdigits d (List.mem_cons_self ..)) (by decide)
    exact readUnsigned_of_ne digits hplus
  | plus => exact readUnsigned_plus hne
  | minus => exact absurd rfl h

theorem exists_cons_chars {numeral : Numeral} (h : numeral.sign ≠ .minus) :
    ∃ c text, numeral.chars = c :: text ∧ c ≠ '-' := by
  obtain ⟨sign, digits, hne, hdigits⟩ := numeral
  obtain ⟨d, digits, rfl⟩ := List.exists_cons_of_ne_nil hne
  cases sign with
  | none =>
    have hminus : d ≠ '-' := Numeral.ne_of_isDigit (hdigits d (List.mem_cons_self ..)) (by decide)
    exact ⟨d, digits, rfl, hminus⟩
  | plus => exact ⟨'+', d :: digits, rfl, by decide⟩
  | minus => exact absurd rfl h

theorem readSigned_nonnegative {bits : Nat} {numeral : Numeral} (h : numeral.sign ≠ .minus) :
    readSigned bits numeral.chars =
      (readDigits (1 <<< (bits - 1) - 1) .tooLarge 0 numeral.digits).map Int.ofNat := by
  obtain ⟨c, text, hchars, hminus⟩ := exists_cons_chars h
  rw [← readUnsigned_numeral h, hchars]
  exact readSigned_of_ne text hminus

/-- A numeral is read as its value, or not at all. -/
theorem readSigned_numeral_iff {bits : Nat} (numeral : Numeral) {n : Int} :
    readSigned bits numeral.chars = .ok n ↔ numeral.value = n ∧ InRange bits n := by
  have hdigits {limit m : Nat} {overflow : IntegerError} :
      readDigits limit overflow 0 numeral.digits = .ok m ↔ numeral.magnitude = m ∧ m ≤ limit := by
    rw [readDigits_eq_ok_iff (Nat.zero_le limit)]
    exact and_iff_right numeral.isDigit_of_mem
  by_cases hsign : numeral.sign = .minus
  · have hvalue : numeral.value = -numeral.magnitude := by
      rw [Numeral.value, hsign]
      rfl
    rw [readSigned_negative hsign, map_eq_ok_iff, hvalue]
    constructor
    · rintro ⟨m, hm, rfl⟩
      obtain ⟨rfl, hle⟩ := hdigits.mp hm
      exact ⟨rfl, (le_limit_iff_neg ..).mp hle⟩
    · rintro ⟨rfl, hrange⟩
      exact ⟨_, hdigits.mpr ⟨rfl, (le_limit_iff_neg ..).mpr hrange⟩, rfl⟩
  · have hvalue : numeral.value = numeral.magnitude := by
      rw [Numeral.value, Sign.apply, if_neg]
      cases hcase : numeral.sign <;> simp_all [Sign.isNegative]
    rw [readSigned_nonnegative hsign, map_eq_ok_iff, hvalue]
    constructor
    · rintro ⟨m, hm, rfl⟩
      obtain ⟨rfl, hle⟩ := hdigits.mp hm
      exact ⟨rfl, (le_limit_iff ..).mp hle⟩
    · rintro ⟨rfl, hrange⟩
      exact ⟨_, hdigits.mpr ⟨rfl, (le_limit_iff ..).mpr hrange⟩, rfl⟩

theorem exists_numeral_of_readDigits {limit m : Nat} {overflow : IntegerError} {digits : List Char}
    (sign : Sign) (hne : digits ≠ []) (h : readDigits limit overflow 0 digits = .ok m) :
    ∃ numeral : Numeral, numeral.sign = sign ∧ numeral.chars = sign.chars ++ digits :=
  ⟨⟨sign, digits, hne, ((readDigits_eq_ok_iff (Nat.zero_le limit)).mp h).1⟩, rfl, rfl⟩

theorem exists_numeral_of_readUnsigned {limit n : Nat} {text : List Char}
    (h : readUnsigned limit text = .ok n) :
    ∃ numeral : Numeral, numeral.sign ≠ .minus ∧ numeral.chars = text := by
  cases text with
  | nil => cases h
  | cons c text =>
    by_cases hplus : c = '+'
    · subst hplus
      have hne : text ≠ [] := by
        rintro rfl
        cases h
      rw [readUnsigned_plus hne] at h
      obtain ⟨numeral, hsign, hchars⟩ := exists_numeral_of_readDigits .plus hne h
      exact ⟨numeral, by simp [hsign], hchars⟩
    · rw [readUnsigned_of_ne text hplus] at h
      obtain ⟨numeral, hsign, hchars⟩ :=
        exists_numeral_of_readDigits .none (List.cons_ne_nil c text) h
      exact ⟨numeral, by simp [hsign], hchars⟩

theorem readUnsigned_eq_ok_iff {limit n : Nat} {text : List Char} :
    readUnsigned limit text = .ok n ↔ ∃ numeral : Numeral,
      numeral.sign ≠ .minus ∧ numeral.chars = text ∧ numeral.magnitude = n ∧ n ≤ limit := by
  constructor
  · intro h
    obtain ⟨numeral, hsign, rfl⟩ := exists_numeral_of_readUnsigned h
    rw [readUnsigned_numeral hsign, readDigits_eq_ok_iff (Nat.zero_le limit)] at h
    exact ⟨numeral, hsign, rfl, h.2⟩
  · rintro ⟨numeral, hsign, rfl, h⟩
    rw [readUnsigned_numeral hsign, readDigits_eq_ok_iff (Nat.zero_le limit)]
    exact ⟨numeral.isDigit_of_mem, h⟩

/-- Nothing but numerals is read. -/
theorem exists_numeral_of_readSigned {bits : Nat} {text : List Char} {n : Int}
    (h : readSigned bits text = .ok n) : ∃ numeral : Numeral, numeral.chars = text := by
  cases text with
  | nil => cases h
  | cons c text =>
    by_cases hminus : c = '-'
    · subst hminus
      have hne : text ≠ [] := by
        rintro rfl
        cases h
      rw [readSigned_minus hne, map_eq_ok_iff] at h
      obtain ⟨m, hm, -⟩ := h
      obtain ⟨numeral, -, hchars⟩ := exists_numeral_of_readDigits .minus hne hm
      exact ⟨numeral, hchars⟩
    · rw [readSigned_of_ne text hminus, map_eq_ok_iff] at h
      obtain ⟨m, hm, -⟩ := h
      obtain ⟨numeral, -, hchars⟩ := exists_numeral_of_readUnsigned hm
      exact ⟨numeral, hchars⟩

theorem readSigned_eq_ok_iff {bits : Nat} {text : List Char} {n : Int} :
    readSigned bits text = .ok n ↔
      ∃ numeral : Numeral, numeral.chars = text ∧ numeral.value = n ∧ InRange bits n := by
  constructor
  · intro h
    obtain ⟨numeral, rfl⟩ := exists_numeral_of_readSigned h
    exact ⟨numeral, rfl, (readSigned_numeral_iff numeral).mp h⟩
  · rintro ⟨numeral, rfl, h⟩
    exact (readSigned_numeral_iff numeral).mpr h

/-- The bytes are the text of a numeral of this value. -/
def Denotes (bytes : Bytes) (n : Int) : Prop :=
  ∃ numeral : Numeral, bytes = Utf8.encode numeral.text ∧ numeral.value = n

theorem denotes_encode_iff {text : String} {n : Int} :
    Denotes (Utf8.encode text) n ↔
      ∃ numeral : Numeral, numeral.chars = text.toList ∧ numeral.value = n := by
  constructor
  · rintro ⟨numeral, hencode, hvalue⟩
    refine ⟨numeral, ?_, hvalue⟩
    rw [Utf8.encode_injective hencode, Numeral.text, String.toList_ofList]
  · rintro ⟨numeral, hchars, hvalue⟩
    refine ⟨numeral, ?_, hvalue⟩
    rw [Numeral.text, hchars, String.ofList_toList]

theorem signed_encode (bits : Nat) (text : String) :
    FromText.signed bits (Utf8.encode text) =
      (readSigned bits text.toList).mapError .parseInteger := by
  rw [FromText.signed, FromText.text_encode]
  rfl

theorem signed_of_not_encode (bits : Nat) {bytes : Bytes} (h : ¬ ∃ text, bytes = Utf8.encode text) :
    FromText.signed bits bytes = .error .invalidUtf8 := by
  rw [FromText.signed, FromText.text_of_not_encode h]
  rfl

theorem signed_eq_ok_iff {bits : Nat} {bytes : Bytes} {n : Int} :
    FromText.signed bits bytes = .ok n ↔ Denotes bytes n ∧ InRange bits n := by
  by_cases htext : ∃ text, bytes = Utf8.encode text
  · obtain ⟨text, rfl⟩ := htext
    have hread : FromText.signed bits (Utf8.encode text) = .ok n ↔
        readSigned bits text.toList = .ok n := by
      rw [signed_encode]
      cases readSigned bits text.toList <;> simp [Except.mapError]
    rw [hread, readSigned_eq_ok_iff, denotes_encode_iff]
    grind
  · rw [signed_of_not_encode bits htext]
    refine iff_of_false (by simp) ?_
    rintro ⟨⟨numeral, hencode, -⟩, -⟩
    exact htext ⟨numeral.text, hencode⟩

theorem signed_encode_cases (bits : Nat) (text : String) :
    (∃ n, FromText.signed bits (Utf8.encode text) = .ok n) ∨
      ∃ cause, FromText.signed bits (Utf8.encode text) = .error (.parseInteger cause) := by
  rw [signed_encode]
  cases readSigned bits text.toList with
  | ok n => exact .inl ⟨n, rfl⟩
  | error cause => exact .inr ⟨cause, rfl⟩

end Integer

inductive IntegerWidth
  | w8
  | w16
  | w32
  | w64
  deriving DecidableEq, Repr

namespace IntegerWidth

open Integer

def bits : IntegerWidth → Nat
  | w8 => 8
  | w16 => 16
  | w32 => 32
  | w64 => 64

def Value : IntegerWidth → Type
  | w8 => Int8
  | w16 => Int16
  | w32 => Int32
  | w64 => Int64

instance : (width : IntegerWidth) → FromText width.Value
  | w8 => inferInstanceAs (FromText Int8)
  | w16 => inferInstanceAs (FromText Int16)
  | w32 => inferInstanceAs (FromText Int32)
  | w64 => inferInstanceAs (FromText Int64)

def toInt : (width : IntegerWidth) → width.Value → Int
  | w8 => Int8.toInt
  | w16 => Int16.toInt
  | w32 => Int32.toInt
  | w64 => Int64.toInt

def coerce (width : IntegerWidth) (bytes : Bytes) : Except Error Int :=
  (FromText.fromText bytes : Except Error width.Value).map width.toInt

theorem map_map_signed {α : Type} {bits : Nat} {ofInt : Int → α} {toInt : α → Int}
    (h : ∀ n, InRange bits n → toInt (ofInt n) = n) (bytes : Bytes) :
    ((FromText.signed bits bytes).map ofInt).map toInt = FromText.signed bits bytes := by
  cases hsigned : FromText.signed bits bytes with
  | error error => rfl
  | ok n => exact congrArg Except.ok (h n (signed_eq_ok_iff.mp hsigned).2)

/-- No number that is read is too large for its type. -/
theorem coerce_eq_signed (width : IntegerWidth) (bytes : Bytes) :
    width.coerce bytes = FromText.signed width.bits bytes := by
  cases width with
  | w8 => exact map_map_signed (fun _ h ↦ Int8.toInt_ofInt_of_le h.1 h.2) bytes
  | w16 => exact map_map_signed (fun _ h ↦ Int16.toInt_ofInt_of_le h.1 h.2) bytes
  | w32 => exact map_map_signed (fun _ h ↦ Int32.toInt_ofInt_of_le h.1 h.2) bytes
  | w64 => exact map_map_signed (fun _ h ↦ Int64.toInt_ofInt_of_le h.1 h.2) bytes

theorem inRange_toInt (width : IntegerWidth) (value : width.Value) :
    InRange width.bits (width.toInt value) := by
  cases width with
  | w8 => exact ⟨Int8.le_toInt value, Int8.toInt_lt value⟩
  | w16 => exact ⟨Int16.le_toInt value, Int16.toInt_lt value⟩
  | w32 => exact ⟨Int32.le_toInt value, Int32.toInt_lt value⟩
  | w64 => exact ⟨Int64.le_toInt value, Int64.toInt_lt value⟩

theorem toInt_injective (width : IntegerWidth) : Function.Injective width.toInt := by
  intro value value' h
  cases width with
  | w8 => exact Int8.toInt_inj.mp h
  | w16 => exact Int16.toInt_inj.mp h
  | w32 => exact Int32.toInt_inj.mp h
  | w64 => exact Int64.toInt_inj.mp h

theorem coerce_eq_ok_iff {width : IntegerWidth} {bytes : Bytes} {n : Int} :
    width.coerce bytes = .ok n ↔ Denotes bytes n ∧ InRange width.bits n := by
  rw [coerce_eq_signed, signed_eq_ok_iff]

theorem coerce_error_cases {width : IntegerWidth} {bytes : Bytes} {error : Error}
    (h : width.coerce bytes = .error error) :
    ((∃ text, bytes = Utf8.encode text) ∧ ∃ cause, error = .parseInteger cause) ∨
      (¬ ∃ text, bytes = Utf8.encode text) ∧ error = .invalidUtf8 := by
  rw [coerce_eq_signed] at h
  by_cases htext : ∃ text, bytes = Utf8.encode text
  · obtain ⟨text, rfl⟩ := htext
    obtain ⟨n, hok⟩ | ⟨cause, herror⟩ := signed_encode_cases width.bits text
    · cases h.symm.trans hok
    · exact .inl ⟨⟨text, rfl⟩, cause, Except.error.inj (h.symm.trans herror)⟩
  · exact .inr ⟨htext, Except.error.inj (h.symm.trans (signed_of_not_encode _ htext))⟩

theorem coerce_mono {narrow wide : IntegerWidth} (hbits : narrow.bits ≤ wide.bits) {bytes : Bytes}
    {n : Int} (h : narrow.coerce bytes = .ok n) : wide.coerce bytes = .ok n := by
  obtain ⟨hdenotes, hrange⟩ := coerce_eq_ok_iff.mp h
  exact coerce_eq_ok_iff.mpr ⟨hdenotes, inRange_mono hbits hrange⟩

theorem coerce_narrow_iff {narrow wide : IntegerWidth} (hbits : narrow.bits ≤ wide.bits)
    {bytes : Bytes} {n : Int} (h : wide.coerce bytes = .ok n) :
    (∃ error, narrow.coerce bytes = .error error) ↔ ¬ InRange narrow.bits n := by
  cases hnarrow : narrow.coerce bytes with
  | ok m =>
    have hm := coerce_mono hbits hnarrow
    cases h.symm.trans hm
    simp [(coerce_eq_ok_iff.mp hnarrow).2]
  | error error =>
    refine iff_of_true ⟨error, rfl⟩ fun hrange ↦ ?_
    have hok := coerce_eq_ok_iff.mpr ⟨(coerce_eq_ok_iff.mp h).1, hrange⟩
    cases hnarrow.symm.trans hok

/-- What is written for a number is read as the number. -/
theorem fromText_toString (width : IntegerWidth) (value : width.Value) :
    FromText.fromText (Utf8.encode (toString (width.toInt value))) = .ok value := by
  have hdenotes : Denotes (Utf8.encode (toString (width.toInt value))) (width.toInt value) :=
    ⟨.ofInt (width.toInt value), by rw [Numeral.text_ofInt], Numeral.value_ofInt _⟩
  have hcoerce := coerce_eq_ok_iff.mpr ⟨hdenotes, inRange_toInt width value⟩
  obtain ⟨value', hread, hvalue⟩ := map_eq_ok_iff.mp hcoerce
  rw [hread, width.toInt_injective hvalue]

/-- A value is coerced into the number that it denotes if that is in range, and into nothing else;
so all widths that have room for a number agree on it. -/
theorem coerced_exactly :
    (∀ (width : IntegerWidth) (bytes : Bytes) (n : Int),
      width.coerce bytes = .ok n ↔
        Denotes bytes n ∧ -2 ^ (width.bits - 1) ≤ n ∧ n < 2 ^ (width.bits - 1)) ∧
    (∀ (width : IntegerWidth) (bytes : Bytes) (error : Error), width.coerce bytes = .error error →
      ((∃ text, bytes = Utf8.encode text) ∧ ∃ cause, error = .parseInteger cause) ∨
        (¬ ∃ text, bytes = Utf8.encode text) ∧ error = .invalidUtf8) ∧
    (∀ narrow wide : IntegerWidth, narrow.bits ≤ wide.bits → ∀ (bytes : Bytes) (n : Int),
      (narrow.coerce bytes = .ok n → wide.coerce bytes = .ok n) ∧
        (wide.coerce bytes = .ok n → ((∃ error, narrow.coerce bytes = .error error) ↔
          ¬ (-2 ^ (narrow.bits - 1) ≤ n ∧ n < 2 ^ (narrow.bits - 1))))) ∧
    ∀ (width : IntegerWidth) (value : width.Value),
      FromText.fromText (Utf8.encode (toString (width.toInt value))) = .ok value := by
  refine ⟨?_, ?_, ?_, fromText_toString⟩
  · intro width bytes n
    exact coerce_eq_ok_iff
  · intro width bytes error h
    exact coerce_error_cases h
  · intro narrow wide hbits bytes n
    exact ⟨coerce_mono hbits, coerce_narrow_iff hbits⟩

/-- One below the range of a byte. -/
theorem coerced_exactly_below_byte :
    w8.bits ≤ w16.bits ∧ w16.coerce [0x2D, 0x30, 0x30, 0x31, 0x32, 0x39] = .ok (-129) ∧
      ∃ error, w8.coerce [0x2D, 0x30, 0x30, 0x31, 0x32, 0x39] = .error error := by
  have hbits : w8.bits ≤ w16.bits := by decide
  have hdenotes : Denotes [0x2D, 0x30, 0x30, 0x31, 0x32, 0x39] (-129) :=
    ⟨⟨.minus, ['0', '0', '1', '2', '9'], by simp, by simp⟩, by decide, by decide⟩
  obtain ⟨hexact, -, hcoherent, -⟩ := coerced_exactly
  have hwide := (hexact w16 _ _).mpr ⟨hdenotes, by decide, by decide⟩
  exact ⟨hbits, hwide, ((hcoherent w8 w16 hbits _ _).2 hwide).mpr (by decide)⟩

end IntegerWidth

end SqlClient
